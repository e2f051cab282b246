import SoundCard.Proofs.TransceiverClocks

/-!
# The lowest output of the PLL

The PLL of the transceiver gives 256 clocks in a frame, for rates from 32 kHz on. A negotiation at a
lower rate leaves it alone, but setting up the link programs it for the default rate, whatever that
is. So no more is asked of the PLL than it supports just if the default rate is not too low or the
link was never set up as far as the PLL (`Card.play_pll_supported_iff`).
-/

namespace SoundCard

/-- Some rate that is not too low for the PLL has 256 such clocks in a frame. -/
def Transceiver.Supports (hz : Hz) : Prop :=
  ∃ rate : StreamRate, minPllRate ≤ rate.hz ∧ hz.toNat = 256 * rate.hz.toNat

/-- What a call asks of the PLL: its output, or the frequency the transmitter takes from it. -/
def Event.pllHz? : Event → Option Hz
  | .call (.transceiver (.setPll _ fout)) _ => some fout
  | .call (.transceiver (.setClock .transmitPll hz)) _ => some hz
  | _ => none

namespace Trace

/-- All that was asked of the PLL, whether or not the calls were accepted. -/
def pllRequests (es : List Event) : List Hz := es.filterMap Event.pllHz?

@[simp] theorem pllRequests_append (es fs : List Event) :
    pllRequests (es ++ fs) = pllRequests es ++ pllRequests fs := List.filterMap_append

@[simp] theorem pllRequests_steps (es : List Event) : pllRequests (steps es) = pllRequests es :=
  filterMap_steps (fun _ => rfl) es

theorem mem_pllRequests_flatMap {entries : List Entry} {hz : Hz} :
    hz ∈ pllRequests (entries.flatMap (·.events)) ↔ ∃ e ∈ entries, hz ∈ pllRequests e.events := by
  rw [pllRequests, List.filterMap_flatMap, List.mem_flatMap]
  rfl

end Trace

theorem Event.pllHz?_of_not_isPllStep {e : Event} (h : e.isPllStep = false) : e.pllHz? = none := by
  unfold pllHz?
  split
  · cases h
  · cases h
  · rfl

theorem Trace.pllRequests_of_pllSteps_nil {es : List Event} (h : pllSteps es = []) :
    pllRequests es = [] := by
  refine List.filterMap_eq_nil_iff.2 fun e he => Event.pllHz?_of_not_isPllStep ?_
  simpa using List.filter_eq_nil_iff.1 h e he

section Plans

variable {board : Board} {rate : Hz} {r : Except CardError Unit} {es : List Event}

/-- What holds of all that a plan may ask of the PLL holds of what was asked, wherever it was cut. -/
theorem CallsInTurn.forall_pllRequests {plan : List (CardStep × Call)} {P : Hz → Prop}
    (h : CallsInTurn plan r es)
    (hplan : ∀ p ∈ plan, ∀ f, ∀ hz ∈ (Event.call p.2 f).pllHz?, P hz) :
    ∀ hz ∈ Trace.pllRequests es, P hz := by
  intro hz hhz
  obtain ⟨e, he, hask⟩ := List.mem_filterMap.1 hhz
  obtain ⟨p, hp, f, rfl⟩ := h.mem he
  exact hplan p hp f hz hask

theorem pllPlan_requests :
    ∀ p ∈ pllPlan board rate, ∀ f, ∀ hz ∈ (Event.call p.2 f).pllHz?,
      hz = scaled rate Transceiver.pllRatio := by
  simp [pllPlan, Event.pllHz?]

/-- However a plan that programs the PLL was cut, its first call was issued. -/
theorem CallsInTurn.pllRequests_ne_nil (h : CallsInTurn (pllPlan board rate) r es) :
    Trace.pllRequests es ≠ [] := by
  cases h with
  | failed _ _ _ f => exact List.cons_ne_nil _ _
  | next _ => exact List.cons_ne_nil _ _

/-- A negotiation comes to the PLL only where its rate is not too low. -/
theorem negotiationPlan_supported {params : StreamParams} :
    ∀ p ∈ negotiationPlan board params, ∀ f, ∀ hz ∈ (Event.call p.2 f).pllHz?,
      Transceiver.Supports hz := by
  refine forall_negotiationPlan board ?_ (fun hmin p hp f hz hhz => ?_) ?_
  · simp [interfacePlan, Event.pllHz?]
  · rw [pllPlan_requests p hp f hz hhz]
    exact ⟨params.rate, hmin, TransceiverClocks.toNat_pllOutput params.rate⟩
  · simp [sysclkPlan, Event.pllHz?]

/-- No block of steps on the clocks asks anything of the PLL. -/
theorem supports_byBlocks (board : Board) :
    ByBlocks board rate fun es => ∀ hz ∈ Trace.pllRequests es, Transceiver.Supports hz where
  nil := List.forall_mem_nil _
  append hes hfs := by
    rw [Trace.pllRequests_append]
    exact List.forall_mem_append.2 ⟨hes, hfs⟩
  disable _ _ := List.forall_mem_nil _
  masterLock _ _ := List.forall_mem_nil _
  prime _ _ := List.forall_mem_nil _
  recoveredLock _ _ := List.forall_mem_nil _
  derive32k _ := List.forall_mem_nil _
  gateSysclk _ := List.forall_mem_nil _

end Plans

/-- The link was set up as far as the PLL: the divider before it was accepted. -/
def Entry.ProgramsDefault (e : Entry) : Prop :=
  e.SetsUpTransceiver ∧ .call selectMclk none ∈ e.events

instance (e : Entry) : Decidable e.ProgramsDefault :=
  inferInstanceAs (Decidable (e.operation = .setUpTransceiver ∧ .call selectMclk none ∈ e.events))

/-- Setting up the link asks something of the PLL just if the divider was accepted, and then it is
for the default rate. -/
theorem LinkSetUpOutcome.pllRequests {board : Board} {r : Except CardError Unit} {es : List Event}
    (h : LinkSetUpOutcome board r es) :
    (∀ hz ∈ Trace.pllRequests es, hz = scaled board.defaultRate Transceiver.pllRatio) ∧
      (Trace.pllRequests es ≠ [] ↔ .call selectMclk none ∈ es) := by
  have hnone : ∀ {es : List Event}, (∀ e ∈ es, e.Aside) → Trace.pllRequests es = [] := fun hes =>
    List.filterMap_eq_nil_iff.2 fun e he =>
      Event.pllHz?_of_not_isPllStep (hes e he).not_isPllStep
  cases h with
  | @refused es f hes =>
    have hrequests : Trace.pllRequests (es ++ [.call selectMclk (some f)]) = [] := by
      rw [Trace.pllRequests_append, hnone hes]
      rfl
    rw [hrequests]
    refine ⟨List.forall_mem_nil _, fun hne => (hne rfl).elim, fun hmem => ?_⟩
    rcases List.mem_append.1 hmem with hmem | hmem
    · cases hes _ hmem
    · simp at hmem
  | @tried _ es fs routed hes hplan =>
    have hrequests : Trace.pllRequests
        (es ++ [.call selectMclk none, .call routeClkout routed] ++ fs) = Trace.pllRequests fs := by
      rw [Trace.pllRequests_append, Trace.pllRequests_append, hnone hes]
      rfl
    rw [hrequests]
    exact ⟨hplan.forall_pllRequests pllPlan_requests, fun _ => by simp,
      fun _ => hplan.pllRequests_ne_nil⟩

/-- Where an entry's requests to the PLL come from: from a negotiation, for a rate that is not too
low, or from setting up the link, for the default rate. -/
structure Entry.PllOrigin (default : StreamRate) (e : Entry) : Prop where
  origin : ∀ hz ∈ Trace.pllRequests e.events,
    (e.Negotiates ∧ Transceiver.Supports hz) ∨
      (e.ProgramsDefault ∧ hz.toNat = 256 * default.hz.toNat)
  programmed : e.ProgramsDefault →
    ∃ hz ∈ Trace.pllRequests e.events, hz.toNat = 256 * default.hz.toNat

section Entries

variable {H : Type} (dev : Device H)

theorem Entry.pllOrigin (op : Operation) (c : Card) (h : H) {default : StreamRate}
    (hdefault : c.board.defaultRate = default.hz) :
    (op.entry dev c h).PllOrigin default := by
  by_cases hsetUp : op = .setUpTransceiver
  · subst hsetUp
    obtain ⟨r, hout⟩ := Entry.linkSetUpOutcome dev c h
    obtain ⟨heq, hne⟩ := hout.pllRequests
    rw [Trace.pllRequests_steps] at heq hne
    rw [Trace.call_mem_steps] at hne
    have hrate : ∀ hz ∈ Trace.pllRequests (Operation.setUpTransceiver.entry dev c h).events,
        hz.toNat = 256 * default.hz.toNat := by
      intro hz hhz
      rw [heq hz hhz, hdefault]
      exact TransceiverClocks.toNat_pllOutput default
    refine ⟨fun hz hhz => .inr ⟨⟨rfl, hne.1 (List.ne_nil_of_mem hhz)⟩, hrate hz hhz⟩, ?_⟩
    intro hprog
    obtain ⟨hz, hhz⟩ := List.exists_mem_of_ne_nil _ (hne.2 hprog.2)
    exact ⟨hz, hhz, hrate hz hhz⟩
  have hnot : ¬ (op.entry dev c h).ProgramsDefault := fun hprog => hsetUp hprog.1
  by_cases hnegotiate : ∃ d params, op = .negotiate d params
  · obtain ⟨d, params, rfl⟩ := hnegotiate
    obtain ⟨r, t, hout, -⟩ := (Operation.performs_negotiate d params c).run dev h
    have hsupported := NegotiateOutcome.byBlocks hout (supports_byBlocks c.board) fun hplan =>
      hplan.forall_pllRequests negotiationPlan_supported
    rw [Trace.pllRequests_steps] at hsupported
    exact ⟨fun hz hhz => .inl ⟨⟨d, params, rfl⟩, hsupported hz hhz⟩, fun hprog => (hnot hprog).elim⟩
  · have hnone := Trace.pllRequests_of_pllSteps_nil <| Entry.pllSteps_nil dev c h hsetUp
      fun d params heq => hnegotiate ⟨d, params, heq⟩
    exact ⟨by rw [hnone]; exact List.forall_mem_nil _, fun hprog => (hnot hprog).elim⟩

theorem Card.play_pllOrigin (board : Board) {default : StreamRate}
    (hdefault : board.defaultRate = default.hz) (ops : List Operation) (h : H) :
    ∀ e ∈ (play dev ops (initial board) h).entries, e.PllOrigin default := by
  refine forall_entries_of dev (fun c => c.board = board) (fun op c h hc => ?_)
    (fun op c h hc => ?_) ops (initial board) h rfl
  · exact (entry_domainMove dev op c h).1.trans hc
  · exact Entry.pllOrigin dev op c h (hc ▸ hdefault)

/-- On a board whose default rate the converters support, whatever is done and whichever calls fail,
the PLL is asked for no more than it supports just if the default rate is not too low for it, or the
link was never set up as far as the PLL. In any case each request is a negotiation's for a rate that
is not too low, or comes of setting up the link and is for the default rate. -/
theorem Card.play_pll_supported_iff (board : Board) (default : StreamRate)
    (hdefault : board.defaultRate = default.hz) (ops : List Operation) (h : H) :
    let p := play dev ops (initial board) h
    ((∀ hz ∈ Trace.pllRequests p.events, Transceiver.Supports hz) ↔
      Transceiver.minPllRate ≤ board.defaultRate ∨ ∀ e ∈ p.entries, ¬ e.ProgramsDefault) ∧
    ∀ e ∈ p.entries, ∀ hz ∈ Trace.pllRequests e.events,
      (e.Negotiates ∧ Transceiver.Supports hz) ∨
        (e.ProgramsDefault ∧ hz.toNat = 256 * board.defaultRate.toNat) := by
  intro p
  have hentries : ∀ e ∈ p.entries, e.PllOrigin default := play_pllOrigin dev board hdefault ops h
  rw [hdefault]
  refine ⟨⟨fun hall => ?_, fun hcond hz hhz => ?_⟩, fun e he => (hentries e he).origin⟩
  · by_contra hcond
    obtain ⟨hlow, hsome⟩ := not_or.1 hcond
    obtain ⟨e, he, hprog⟩ : ∃ e ∈ p.entries, e.ProgramsDefault := by simpa using hsome
    obtain ⟨hz, hhz, hrequest⟩ := (hentries e he).programmed hprog
    obtain ⟨rate, hmin, hrate⟩ := hall hz (Trace.mem_pllRequests_flatMap.2 ⟨e, he, hhz⟩)
    have heq : rate.hz = default.hz := UInt32.toNat_inj.1 (by omega)
    exact hlow (heq ▸ hmin)
  · obtain ⟨e, he, hhz⟩ := Trace.mem_pllRequests_flatMap.1 hhz
    rcases (hentries e he).origin hz hhz with ⟨-, hsupports⟩ | ⟨hprog, hhz⟩
    · exact hsupports
    · rcases hcond with hmin | hnever
      · exact ⟨default, hmin, hhz⟩
      · exact (hnever e he hprog).elim

/-- The default rate is 16 kHz, but the divider is refused when the link is set up; then a stream at
16 kHz and one at 96 kHz are negotiated, and the first request to the PLL fails. -/
theorem Card.play_pll_supported_refused :
    let board : Board := { defaultRate := 16000 }
    let default : StreamRate := ⟨16000, by decide, by decide⟩
    let dev := Scripted.device (.ofFaults [{ first := 4, failure := .bus },
      { first := 10, failure := .bus }])
    let p := play dev [.setUpTransceiver, .negotiate .capture ⟨default, .s16⟩,
      .negotiate .playback ⟨⟨96000, by decide, by decide⟩, .s24⟩] (initial board) {}
    board.defaultRate = default.hz ∧ Trace.pllRequests p.events = [24576000] ∧
      ∀ hz ∈ Trace.pllRequests p.events, Transceiver.Supports hz := by
  intro board default dev p
  have hdefault : board.defaultRate = default.hz := rfl
  have hrequests : Trace.pllRequests p.events = [24576000] := by decide
  have hnever : ∀ e ∈ p.entries, ¬ e.ProgramsDefault := by decide
  refine ⟨hdefault, hrequests, ?_⟩
  exact (play_pll_supported_iff dev board default hdefault _ {}).1.2 (.inr hnever)

/-- With a default rate of 8 kHz, setting up the link programs the PLL for 8 kHz. -/
theorem Card.play_pll_unsupported :
    let p := play (Scripted.device (.ofFaults [])) [.setUpTransceiver]
      (initial { defaultRate := 8000 }) {}
    Trace.pllRequests p.events = [2048000, 2048000] ∧ ¬ Transceiver.Supports 2048000 := by
  intro p
  refine ⟨by decide, ?_⟩
  rintro ⟨rate, hmin, hrate⟩
  have hlow : 32000 ≤ rate.hz.toNat := hmin
  have hrate : 2048000 = 256 * rate.hz.toNat := hrate
  omega

end Entries

end SoundCard
