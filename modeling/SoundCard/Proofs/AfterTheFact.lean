import SoundCard.Proofs.CarriedOut
import SoundCard.Proofs.SyncPathRecord

/-!
# After the fact

A bias level that was reached and a widget whose power changed are announced when it is too late to
refuse them. So the announcements succeed whatever the hardware does, and leave on record no more
than it took: FLL1 is locked to the recovered clock only where every call succeeded, and is off
wherever one failed (`Operation.after_the_fact`). The rates and the streams on record never change
this way.
-/

namespace SoundCard

open Clock SoundCard.Action

/-- The rates and the streams on record are the same. -/
def ClockDomain.SameStreams (t s : ClockDomain) : Prop :=
  t.rate = s.rate ∧ t.linkRate = s.linkRate ∧ t.streams = s.streams

section Outcomes

variable {board : Board} {s t : ClockDomain} {r : Except CardError Unit} {es : List Event}

theorem Clock.DisableOutcome.calls_eq (h : DisableOutcome s r t es) :
    Trace.calls es = [.codec (.disable .main), .codec (.disable .reference)] := by
  cases h <;> rfl

/-- The receive path came up, and every call of it succeeded; or one failed, and FLL1 is off. -/
theorem Clock.RaiseOutcome.eq_if (h : RaiseOutcome board s r t es) :
    t = if Trace.failures es = [] then
        { s with fll := .recovered (board.sysclk s.rate), syncPath := true }
      else { s with fll := .off } := by
  have hdecided : Decided .gateSysclk r es := h.decided
  rcases r with e | ⟨⟩
  · rw [if_neg hdecided.failures_of_error]
    exact h.of_error
  · rw [if_pos hdecided.failures_of_ok]
    exact h.of_ok

end Outcomes

/-- The calls that raise the receive path, in order, for the card as they find it. -/
def Card.raiseCalls (c : Card) : List Call :=
  let sysclk := c.board.sysclk c.clock.rate
  [.codec (.disable .main), .codec (.disable .reference),
    .codec (.setFll .reference (some .mclk1) c.board.masterClock sysclk),
    .codec (.setFll .main (some .aif2BitClock) (scaled c.clock.rate 64) sysclk)]

theorem nodup_raiseCalls (c : Card) : c.raiseCalls.Nodup := by
  simp [Card.raiseCalls, CodecCall.disable]

namespace Operation

variable (c : Card)

theorem biasChanged_ensures (domain : PowerDomain) (level : BiasLevel) :
    (biasChanged domain level).perform.Ensures c fun r c' es =>
      (r = .ok .unit ∧ c'.clock.SameStreams c.clock) ∧
        if domain = .codec ∧ level = .standby then
          c' = { c with clock := { c.clock with fll := .off } } ∧
            Trace.calls es = [.codec (.disable .main), .codec (.disable .reference)]
        else c' = c ∧ es = [] := by
  by_cases hstop : domain = .codec ∧ level = .standby
  · obtain ⟨rfl, rfl⟩ := hstop
    refine (performs_biasChanged c).mono ?_
    rintro _ _ es ⟨r, t, hout, rfl, rfl⟩
    cases hout with
    | stopped h => exact ⟨⟨rfl, rfl, rfl, rfl⟩, rfl, h.calls_eq⟩
  · simp only [hstop, if_false]
    rw [perform, ensures_answer]
    refine (Card.idle_biasChanged hstop c).mono ?_
    rintro _ _ _ ⟨rfl, rfl, rfl⟩
    exact ⟨⟨rfl, rfl, rfl, rfl⟩, rfl, rfl⟩

theorem widgetPower_ensures (widget : String) (event : PowerEvent) :
    (widgetPower widget event).perform.Ensures c fun r c' es =>
      (r = .ok .unit ∧ c'.clock.SameStreams c.clock) ∧
        if widget = Graph.receiveWidget then
          match event with
          | .afterUp =>
            c' = { c with clock :=
              if Trace.failures es = [] then
                { c.clock with fll := .recovered (c.board.sysclk c.clock.rate), syncPath := true }
              else { c.clock with fll := .off } } ∧ CarriedOut c.raiseCalls es
          | .afterDown => c' = { c with clock := { c.clock with syncPath := false } } ∧ es = []
          | .beforeUp | .beforeDown => c' = c ∧ es = []
        else c' = c ∧ es = [] := by
  have hidle : (widget = Graph.receiveWidget → event = .beforeUp ∨ event = .beforeDown) →
      (widgetPower widget event).perform.Ensures c fun r c' es =>
        (r = .ok .unit ∧ c'.clock.SameStreams c.clock) ∧ c' = c ∧ es = [] := by
    intro h
    rw [perform, ensures_answer]
    refine (Card.idle_widgetPower h c).mono ?_
    rintro _ _ _ ⟨rfl, rfl, rfl⟩
    exact ⟨⟨rfl, rfl, rfl, rfl⟩, rfl, rfl⟩
  by_cases hw : widget = Graph.receiveWidget
  · subst hw
    simp only [if_true]
    cases event with
    | afterUp =>
      refine (performs_widgetUp c).mono ?_
      rintro _ _ es ⟨r, t, hout, rfl, rfl⟩
      rw [hout.eq_if]
      refine ⟨⟨rfl, ?_⟩, rfl, hout.carriedOut⟩
      split
      · exact ⟨rfl, rfl, rfl⟩
      · exact ⟨rfl, rfl, rfl⟩
    | afterDown =>
      refine (performs_widgetDown c).mono ?_
      rintro _ _ es ⟨r, t, ⟨-, rfl, rfl⟩, rfl, rfl⟩
      exact ⟨⟨rfl, rfl, rfl, rfl⟩, rfl, rfl⟩
    | beforeUp => exact hidle fun _ => .inl rfl
    | beforeDown => exact hidle fun _ => .inr rfl
  · simp only [hw, if_false]
    exact hidle fun h => (hw h).elim

variable {H : Type} (dev : Device H) (h : H)

/-- From every state of the card, and whatever calls fail, an announcement succeeds and leaves the
rates and the streams. A codec that reached standby ends with FLL1 off, both paths having been told
so. The receive widget coming up ends with FLL1 locked to the recovered clock and the receive path
up where no call failed, all of them having been issued. Where one failed, which was the last but
for the second of the two disables, it ends with FLL1 off and the path as it was. The widget going
down only takes the path down. Every other announcement takes no step and leaves the card. -/
theorem after_the_fact (domain : PowerDomain) (level : BiasLevel) (widget : String)
    (event : PowerEvent) :
    let b := (biasChanged domain level).entry dev c h
    let w := (widgetPower widget event).entry dev c h
    (∀ e ∈ [b, w], e.result = .ok .unit ∧ e.card.clock.SameStreams c.clock) ∧
    (if domain = .codec ∧ level = .standby then
      b.card = { c with clock := { c.clock with fll := .off } } ∧
        Trace.calls b.events = [.codec (.disable .main), .codec (.disable .reference)]
    else b.card = c ∧ Trace.steps b.events = []) ∧
    (if widget = Graph.receiveWidget then
      match event with
      | .afterUp =>
        w.card = { c with clock :=
          if Trace.failures w.events = [] then
            { c.clock with fll := .recovered (c.board.sysclk c.clock.rate), syncPath := true }
          else { c.clock with fll := .off } } ∧
        (Trace.failures w.events = [] → Trace.calls w.events = c.raiseCalls) ∧
        ∀ failed f more, Trace.failures w.events = (failed, f) :: more →
          ∃ before after, c.raiseCalls = before ++ failed :: after ∧ failed ∉ before ∧
            Trace.calls w.events = before ++ failed ::
              if failed = .codec (.disable .main) then [.codec (.disable .reference)] else []
      | .afterDown =>
        w.card = { c with clock := { c.clock with syncPath := false } } ∧ Trace.steps w.events = []
      | .beforeUp | .beforeDown => w.card = c ∧ Trace.steps w.events = []
    else w.card = c ∧ Trace.steps w.events = []) := by
  intro b w
  obtain ⟨hb, hbias⟩ := (biasChanged_ensures c domain level).run dev h
  obtain ⟨hw, hwidget⟩ := (widgetPower_ensures c widget event).run dev h
  rw [Trace.calls_steps] at hbias
  refine ⟨fun e he => ?_, hbias, ?_⟩
  · simp only [List.mem_cons, List.not_mem_nil, or_false] at he
    rcases he with rfl | rfl
    · exact hb
    · exact hw
  · by_cases hreceive : widget = Graph.receiveWidget
    · rw [if_pos hreceive] at hwidget ⊢
      cases event with
      | afterUp =>
        obtain ⟨hcard, hcarried⟩ := hwidget
        rw [← Trace.calls_steps, ← Trace.failures_steps]
        exact ⟨hcard, hcarried.calls_eq, fun failed f more hfailures =>
          hcarried.calls_cut hfailures (nodup_raiseCalls c)⟩
      | afterDown | beforeUp | beforeDown => exact hwidget
    · rw [if_neg hreceive] at hwidget ⊢
      exact hwidget

end Operation

end SoundCard
