import SoundCard.Proofs.CutNegotiation

/-!
# The rate of the link

The card has its own rate on record, and beside it that of the link between the codec and the
transceiver. Only a negotiation that succeeds moves them, and it moves both, so both are the rate
settled on last, or the default rate where none was settled on (`Card.play_link`). A rate that was
settled on is one that a stream may have, so the link is without parameters only as long as a
default rate outside that range stands.
-/

namespace SoundCard

/-- The rate that a negotiation settled on, if the operation was one and it succeeded. -/
def Entry.settledRate? (e : Entry) : Option StreamRate :=
  match e.operation with
  | .negotiate _ params => e.result.toOption.map fun _ => params.rate
  | _ => none

/-- The rate settled on last. -/
def lastSettledRate? (entries : List Entry) : Option StreamRate :=
  (entries.filterMap Entry.settledRate?).getLast?

theorem lastSettledRate?_cons (e : Entry) (es : List Entry) :
    lastSettledRate? (e :: es) = (lastSettledRate? es).or e.settledRate? := by
  rw [lastSettledRate?, List.filterMap_cons, lastSettledRate?]
  cases e.settledRate? with
  | none => rw [Option.or_none]
  | some rate =>
    rw [List.getLast?_cons]
    cases (es.filterMap Entry.settledRate?).getLast? <;> rfl

/-- Both rates on record are the given one. -/
def ClockDomain.AtRate (s : ClockDomain) (hz : Hz) : Prop := s.rate = hz ∧ s.linkRate = hz

section Rates

variable {board : Board} {s t : ClockDomain} {hz : Hz}

theorem DomainMove.atRate {task : Option ClockTask} (h : DomainMove board s task t)
    (htask : ∀ d params, task ≠ some (.negotiate d params)) (hs : s.AtRate hz) : t.AtRate hz := by
  cases h with
  | negotiated d params => exact (htask d params rfl).elim
  | _ => exact hs

theorem NegotiateOutcome.atRate_of_error {d : Direction} {params : StreamParams} {e : CardError}
    {es : List Event} (h : NegotiateOutcome board d params s (.error e) t es) (hs : s.AtRate hz) :
    t.AtRate hz := by
  obtain ⟨step, f, -, rfl⟩ := h.of_error
  exact hs

theorem NegotiateOutcome.atRate_of_ok {d : Direction} {params : StreamParams} {es : List Event}
    (h : NegotiateOutcome board d params s (.ok ()) t es) : t.AtRate params.rate.hz := by
  rw [h.negotiated]
  exact ⟨rfl, rfl⟩

end Rates

namespace Card

variable {H : Type} (dev : Device H)

/-- An operation settles on a new rate, or leaves both rates as they were. -/
theorem entry_atRate (op : Operation) {c : Card} (h : H) {hz : Hz} (hc : c.clock.AtRate hz) :
    let e := op.entry dev c h
    e.card.clock.AtRate (e.settledRate?.elim hz (·.hz)) := by
  intro e
  by_cases hneg : ∃ d params, op = .negotiate d params
  · obtain ⟨d, params, rfl⟩ := hneg
    obtain ⟨r, t, hout, hcard, hr⟩ := (Operation.performs_negotiate d params c).run dev h
    have hresult : e.result = r.map fun _ => .unit := hr
    have hclock : e.card.clock = t := congrArg Card.clock hcard
    have hsettled : e.settledRate? = e.result.toOption.map fun _ => params.rate := rfl
    rw [hclock, hsettled, hresult]
    rcases r with err | ⟨⟩
    · exact NegotiateOutcome.atRate_of_error hout hc
    · exact NegotiateOutcome.atRate_of_ok hout
  · have hnone : e.settledRate? = none := by
      unfold Entry.settledRate?
      split
      · rename_i d params hop
        exact (hneg ⟨d, params, hop⟩).elim
      · rfl
    rw [hnone]
    refine (entry_domainMove dev op c h).2.atRate (fun d params htask => ?_) hc
    exact hneg ⟨d, params, Operation.eq_negotiate_of_clockTask? htask⟩

theorem play_atRate :
    ∀ (ops : List Operation) {c : Card} (h : H) {hz : Hz}, c.clock.AtRate hz →
      let p := play dev ops c h
      p.card.clock.AtRate ((lastSettledRate? p.entries).elim hz (·.hz))
  | [], _, _, _, hc => hc
  | op :: ops, c, h, hz, hc => by
    intro p
    let e := op.entry dev c h
    let q := play dev ops e.card ((op.perform c).run dev h).hardware
    have hafter : q.card.clock.AtRate
        ((lastSettledRate? q.entries).elim (e.settledRate?.elim hz (·.hz)) (·.hz)) :=
      play_atRate ops _ (entry_atRate dev op h hc)
    have hentries : lastSettledRate? p.entries = (lastSettledRate? q.entries).or e.settledRate? :=
      lastSettledRate?_cons e q.entries
    rw [hentries]
    cases hlast : lastSettledRate? q.entries with
    | none | some rate =>
      rw [hlast] at hafter
      exact hafter

/-- The link has parameters just if its rate is one that a stream may have. -/
theorem linkParams_numbers (c : Card) :
    (c.linkParams.map fun q => (q.rate.hz, q.width.bits)) =
      if StreamRate.minHz ≤ c.clock.linkRate ∧ c.clock.linkRate ≤ StreamRate.maxHz then
        some (c.clock.linkRate, 24)
      else none := by
  by_cases hrate : StreamRate.minHz ≤ c.clock.linkRate ∧ c.clock.linkRate ≤ StreamRate.maxHz
  · rw [linkParams, StreamRate.ofHz, dif_pos hrate, if_pos hrate]
    rfl
  · rw [linkParams, StreamRate.ofHz, dif_neg hrate, if_neg hrate]
    rfl

/-- In every state that a history leads to, the rate on record and the rate of the link are the
rate settled on last, and the default rate where none was. The parameters of the link are 24 bits at
that rate; there are none just if no rate was settled on and the default rate is out of range. -/
theorem play_link (board : Board) (ops : List Operation) (h : H) :
    let p := play dev ops (initial board) h
    let last := lastSettledRate? p.entries
    let rate := last.elim board.defaultRate (·.hz)
    p.card.clock.rate = rate ∧ p.card.clock.linkRate = rate ∧
      (p.card.linkParams.map fun q => (q.rate.hz, q.width.bits)) =
        if last = none ∧
            ¬ (StreamRate.minHz ≤ board.defaultRate ∧ board.defaultRate ≤ StreamRate.maxHz) then
          none
        else some (rate, 24) := by
  intro p last rate
  have hinitial : (initial board).clock.AtRate board.defaultRate := ⟨rfl, rfl⟩
  obtain ⟨hrate, hlink⟩ : p.card.clock.AtRate rate := play_atRate dev ops h hinitial
  refine ⟨hrate, hlink, ?_⟩
  rw [linkParams_numbers, hlink]
  rcases hlast : last with _ | settled
  · have hdefault : rate = board.defaultRate := by simp [rate, hlast]
    simp only [hdefault, true_and, ite_not]
  · have hsettled : rate = settled.hz := by simp [rate, hlast]
    have hrange : StreamRate.minHz ≤ rate ∧ rate ≤ StreamRate.maxHz :=
      hsettled ▸ ⟨settled.lower, settled.upper⟩
    simp [hrange]

end Card

end SoundCard
