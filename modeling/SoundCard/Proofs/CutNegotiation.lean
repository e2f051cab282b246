import SoundCard.Proofs.CarriedOut
import SoundCard.Proofs.DomainMoves

/-!
# A negotiation that is cut short

A negotiation has its calls to issue in a fixed order (`Card.negotiationCalls`): the formats of the
interfaces, the PLL of the transceiver, SYSCLK, and then FLL1 where it has to follow. The first call
that fails cuts it short (`Operation.negotiate_calls`). What the card has on record then is what it
had before, but for FLL1, which is off where its new lock was refused; where no call failed, the
whole outcome is on record (`Operation.negotiate_atomic`).
-/

namespace SoundCard

open Clock

section Plans

/-- The calls by which FLL1 follows a rate: none, unless it runs from the master clock at another
SYSCLK. -/
def FllMode.followCalls (board : Board) (rate : Hz) : FllMode → List Call
  | .master current =>
    if current = board.sysclk rate then []
    else [.codec (.disable .main), .codec (.disable .reference),
      .codec (.setFll .main (some .mclk1) board.masterClock (board.sysclk rate))]
  | .off | .recovered _ => []

/-- The calls of a negotiation, in order, for the card as it finds it. -/
def Card.negotiationCalls (c : Card) (params : StreamParams) : List Call :=
  [.bitClockRatio (2 * params.width.bits), .codec (.setTdmSlots 3 3 2 params.width.bits)] ++
  (if 32000 ≤ params.rate.hz then
    [.transceiver (.setPll c.board.masterClock (256 * params.rate.hz)),
      .transceiver (.setClock .transmitPll (256 * params.rate.hz))]
  else []) ++
  [.codec (.setSysclk (c.board.sysclk params.rate.hz))] ++
  c.clock.fll.followCalls c.board params.rate.hz

variable {board : Board} {params : StreamParams}

/-- A product of words that fits in 32 bits is exact. -/
theorem toNat_mul_of_lt {hz ratio : UInt32} (h : hz.toNat * ratio.toNat < UInt32.size) :
    (ratio * hz).toNat = ratio.toNat * hz.toNat := by
  rw [Nat.mul_comm] at h
  rw [UInt32.toNat_mul, Nat.mod_eq_of_lt h]

theorem scaled_eq_mul {hz ratio : UInt32} (h : hz.toNat * ratio.toNat < UInt32.size) :
    scaled hz ratio = ratio * hz := by
  rw [← UInt32.toNat_inj, toNat_scaled_of_lt h, toNat_mul_of_lt h, Nat.mul_comm]

theorem SampleWidth.bits_mul_lt (width : SampleWidth) :
    width.bits.toNat * (2 : UInt32).toNat < UInt32.size := by
  have hbits : width.bits.toNat ≤ 32 := width.upper
  have htwo : (2 : UInt32).toNat = 2 := rfl
  rw [htwo, UInt32.size]
  omega

theorem StreamRate.hz_mul_lt (rate : StreamRate) :
    rate.hz.toNat * Transceiver.pllRatio.toNat < UInt32.size := by
  have hrate : rate.hz.toNat ≤ 192000 := rate.upper
  have hratio : Transceiver.pllRatio.toNat = 256 := rfl
  rw [hratio, UInt32.size]
  omega

theorem negotiationCalls_eq (c : Card) (params : StreamParams) :
    c.negotiationCalls params = (negotiationPlan c.board params).map Prod.snd ++
      c.clock.fll.followCalls c.board params.rate.hz := by
  rw [Card.negotiationCalls, negotiationPlan, preludePlan, interfacePlan, pllPlan, sysclkPlan,
    SampleWidth.bitClockRatio, scaled_eq_mul params.width.bits_mul_lt,
    scaled_eq_mul params.rate.hz_mul_lt, List.map_append, List.map_append, apply_ite (List.map _)]
  rfl

theorem nodup_negotiationCalls (c : Card) (params : StreamParams) :
    (c.negotiationCalls params).Nodup := by
  rw [Card.negotiationCalls, FllMode.followCalls.eq_def]
  repeat' split
  all_goals simp [CodecCall.disable]

end Plans

section Outcomes

variable {α : Type} {board : Board} {rate : Hz} {s t : ClockDomain} {r : Except CardError Unit}
  {es : List Event}

theorem Clock.FollowOutcome.carriedOut (h : FollowOutcome board rate s r t es) :
    CarriedOut (s.fll.followCalls board rate) es := by
  cases h with
  | idle hagrees =>
    refine .whole rfl ?_
    rcases hfll : s.fll with _ | hz | hz
    · rfl
    · exact (if_pos (hagrees hz hfll)).symm
    · rfl
  | tried hmaster hne h =>
    rw [hmaster, FllMode.followCalls, if_neg hne]
    exact h.carriedOut

theorem NegotiateOutcome.carriedOut {d : Direction} {params : StreamParams}
    (h : NegotiateOutcome board d params s r t es) :
    CarriedOut ((negotiationPlan board params).map Prod.snd ++
      s.fll.followCalls board params.rate.hz) es := by
  have hplan := negotiationPlan_steps board params
  have htail : ∀ p ∈ negotiationPlan board params, p.2.tail = [] := fun p hp => (hplan p hp).2
  cases h with
  | refused h => exact (h.carriedOut htail).append_right h.failures_of_error _
  | stuck hok h | settled hok h =>
    have hfs := (hok.decided hplan).failures_of_ok
    rw [← (hok.carriedOut htail).calls_eq hfs]
    exact h.carriedOut.append_left hfs

theorem CallsInTurn.step_of_error {plan : List (CardStep × Call)} {e : CardError}
    (h : CallsInTurn plan (.error e : Except CardError α) es) :
    ∃ p ∈ plan, ∃ f, e = .hardware p.1 f := by
  induction plan generalizing es with
  | nil => cases h
  | cons c plan ih =>
    cases h with
    | failed step c rest f => exact ⟨_, List.mem_cons_self, f, rfl⟩
    | next h =>
      obtain ⟨p, hp, hf⟩ := ih h
      exact ⟨p, List.mem_cons_of_mem _ hp, hf⟩

/-- A lock to the master clock that came to nothing: FLL1 is off where the lock was refused, and as
it was where the paths were not disabled. -/
theorem Clock.RelockOutcome.of_error {e : CardError}
    (h : RelockOutcome board rate s (.error e) t es) :
    ∃ step f, e = .hardware step f ∧
      t = { s with fll := if step = .lockMaster then .off else s.fll } := by
  cases h with
  | stuck h => cases h <;> exact ⟨_, _, rfl, rfl⟩
  | tried h => cases h; exact ⟨_, _, rfl, rfl⟩

theorem NegotiateOutcome.of_error {d : Direction} {params : StreamParams} {e : CardError}
    (h : NegotiateOutcome board d params s (.error e) t es) :
    ∃ step f, e = .hardware step f ∧
      t = { s with fll := if step = .lockMaster then .off else s.fll } := by
  cases h with
  | refused h =>
    obtain ⟨p, hp, f, rfl⟩ := h.step_of_error
    have hstep : ∀ p ∈ negotiationPlan board params, p.1 ≠ .lockMaster := by
      refine forall_negotiationPlan board ?_ ?_ ?_
      all_goals simp [interfacePlan, pllPlan, sysclkPlan]
    exact ⟨p.1, f, rfl, by rw [if_neg (hstep p hp)]⟩
  | stuck _ h =>
    cases h with
    | tried _ _ h => exact h.of_error

end Outcomes

namespace Operation

variable {H : Type}

/-- What a negotiation issues, on any card and whichever calls fail. Where none does, it is the
whole plan. Otherwise it is the plan up to the first call that failed; only where FLL1 was to be
disabled, the reference path is still disabled after the main path. No product in the plan is too
large for its word. -/
theorem negotiate_calls (dev : Device H) (c : Card) (h : H) (d : Direction)
    (params : StreamParams) :
    let e := (negotiate d params).entry dev c h
    let plan := c.negotiationCalls params
    (Trace.failures e.events = [] → Trace.calls e.events = plan) ∧
      (∀ failed f more, Trace.failures e.events = (failed, f) :: more →
        ∃ before after, plan = before ++ failed :: after ∧ failed ∉ before ∧
          Trace.calls e.events = before ++ failed ::
            if failed = .codec (.disable .main) then [.codec (.disable .reference)] else []) ∧
      (2 * params.width.bits).toNat = 2 * params.width.bits.toNat ∧
      (256 * params.rate.hz).toNat = 256 * params.rate.hz.toNat := by
  intro e plan
  obtain ⟨r, t, hout, -⟩ := (performs_negotiate d params c).run dev h
  have hcarried : CarriedOut plan (Trace.steps e.events) := by
    rw [show plan = _ from negotiationCalls_eq c params]
    exact NegotiateOutcome.carriedOut hout
  rw [← Trace.calls_steps, ← Trace.failures_steps]
  refine ⟨hcarried.calls_eq, fun failed f more hfailures => ?_,
    toNat_mul_of_lt params.width.bits_mul_lt, toNat_mul_of_lt params.rate.hz_mul_lt⟩
  exact hcarried.calls_cut hfailures (nodup_negotiationCalls c params)

/-- FLL1 is to follow the rate to the other family, and its main path cannot be disabled: the
reference path is disabled all the same, and the lock is not tried. -/
theorem negotiate_calls_disable_failed :
    let dev := Scripted.device (.ofFaults [{ first := 8, failure := .bus }])
    let params : StreamParams := ⟨⟨48000, by decide, by decide⟩, .s16⟩
    let p := Card.play dev [.startClock] (Card.initial {}) {}
    let e := (negotiate .playback params).entry dev p.card p.hardware
    Trace.failures e.events = [(.codec (.disable .main), .bus)] ∧
      (p.card.negotiationCalls params).length = 8 ∧
      ∃ before after, p.card.negotiationCalls params =
          before ++ .codec (.disable .main) :: after ∧ .codec (.disable .main) ∉ before ∧
        Trace.calls e.events =
          before ++ [.codec (.disable .main), .codec (.disable .reference)] := by
  intro dev params p e
  have hfailures : Trace.failures e.events = [(.codec (.disable .main), .bus)] := by decide
  obtain ⟨-, hcut, -, -⟩ := negotiate_calls dev p.card p.hardware .playback params
  exact ⟨hfailures, by decide, hcut _ _ _ hfailures⟩

/-- A negotiation on any card succeeds just if no call fails. Then its rate is on record, for the
card and for the link, its direction holds parameters beside those that did before, and a lock of
FLL1 to the master clock is at the SYSCLK of the rate. Otherwise it is reported which step failed,
and all is on record as it was, but for FLL1 where it was that new lock that was refused: then FLL1
is off. -/
theorem negotiate_atomic (dev : Device H) (c : Card) (h : H) (d : Direction)
    (params : StreamParams) :
    let e := (negotiate d params).entry dev c h
    (Trace.failures e.events = [] ∧ e.result = .ok .unit ∧
      e.card = { c with clock := { c.clock with
        rate := params.rate.hz, linkRate := params.rate.hz
        streams := c.clock.streams.insert d
        fll := c.clock.fll.retuned (c.board.sysclk params.rate.hz) } } ∧
      ∀ d', d' ∈ e.card.clock.streams ↔ d' = d ∨ d' ∈ c.clock.streams) ∨
    (Trace.failures e.events ≠ [] ∧ ∃ step f, e.result = .error (.hardware step f) ∧
      e.card = { c with clock := { c.clock with
        fll := if step = .lockMaster then .off else c.clock.fll } }) := by
  intro e
  obtain ⟨r, t, hout, hcard, hr⟩ := (performs_negotiate d params c).run dev h
  have hresult : e.result = r.map fun _ => .unit := hr
  have hdecided : Decided .sysclk r (Trace.steps e.events) := NegotiateOutcome.decided hout
  rw [← Trace.failures_steps, hresult, show e.card = _ from hcard]
  rcases r with err | ⟨⟩
  · obtain ⟨step, f, rfl, rfl⟩ := NegotiateOutcome.of_error hout
    exact .inr ⟨hdecided.failures_of_error, step, f, rfl, rfl⟩
  · obtain rfl := NegotiateOutcome.negotiated hout
    exact .inl ⟨hdecided.failures_of_ok, rfl, rfl, fun d' => ActiveStreams.mem_insert⟩

end Operation

end SoundCard
