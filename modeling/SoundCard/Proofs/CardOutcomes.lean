import SoundCard.Card.Negotiation
import SoundCard.Card.PowerChanges
import SoundCard.Proofs.CallsInTurn
import SoundCard.Proofs.ClockOutcomes
import SoundCard.Proofs.Quiet

/-!
# How the card's work on its clocks ends

Setting up the codec and negotiating a stream do more than change the clock domain. Their outcomes
are relations too, between clock domains, since neither touches the rest of the card.
-/

namespace SoundCard

open SoundCard.Action

variable (board : Board)

section SetUp

/-- The call that derives the 32 kHz clock from SYSCLK. -/
def derive32k : CodecCall :=
  .updateBits Codec.clock32kRegister Codec.clock32kSourceMask Codec.clock32kFromSysclk

/-- Only the gate decides the result. -/
inductive SetUpOutcome (s : ClockDomain) :
    Except CardError Unit → ClockDomain → List Event → Prop
  | gated {r : Except CardError Unit} {t : ClockDomain} {es : List Event}
    (derived : Option Failure) :
    Clock.DisableOutcome s r t es → SetUpOutcome s (.ok ()) t
      (.call (.codec derive32k) derived :: es ++ [.call (.codec .gateSysclk) none])
  | gateFailed {r : Except CardError Unit} {t : ClockDomain} {es : List Event}
    (derived : Option Failure) (f : Failure) :
    Clock.DisableOutcome s r t es → SetUpOutcome s (.error (.hardware .gateSysclk f)) t
      (.call (.codec derive32k) derived :: es ++ [.call (.codec .gateSysclk) (some f)])

theorem setUpCodec_ensures (c : Card) :
    Card.setUpCodec.Ensures c fun r c' es =>
      ∃ t, SetUpOutcome c.clock r t es ∧ c' = { c with clock := t } := by
  have htail : ∀ derived, (do
      let cleared ← Action.attempt (Card.onClock Clock.disablePaths)
      Action.logFailure .setupClearFailed cleared
      Action.orLog (.codec .gateSysclk .gateSysclk) .setupGateFailed).Ensures c fun r c' es =>
        ∃ t, SetUpOutcome c.clock r t (.call (.codec derive32k) derived :: es) ∧
          c' = { c with clock := t } := by
    intro derived
    simp only [Card.onClock, ensures_bind, ensures_attempt, ensures_within]
    refine (Clock.disablePaths_ensures c.clock).mono fun r t es h => ?_
    simp only [then_ok, ensures_bind, ensures_logFailure, ensures_orLog, ensures_codec]
    exact ⟨⟨t, by simpa using SetUpOutcome.gated derived h, rfl⟩, fun f =>
      ⟨t, by simpa using SetUpOutcome.gateFailed derived f h, rfl⟩⟩
  rw [Card.setUpCodec, ensures_bind, ensures_attempt, ensures_codec]
  refine ⟨?_, fun f => ?_⟩
  · rw [then_ok, ensures_bind, ensures_logFailure, then_ok]
    simpa [derive32k] using htail none
  · rw [then_ok, ensures_bind, ensures_logFailure, then_ok]
    simpa [derive32k] using htail (some f)

end SetUp

section Negotiation

/-- The calls that program the transceiver's PLL for `rate`. -/
def pllPlan (rate : Hz) : List (CardStep × Call) :=
  [(.transceiverPll, .transceiver (.setPll board.masterClock (scaled rate Transceiver.pllRatio))),
    (.transmitClock, .transceiver (.setClock .transmitPll (scaled rate Transceiver.pllRatio)))]

/-- The calls that set the formats of the interfaces. -/
def interfacePlan (params : StreamParams) : List (CardStep × Call) :=
  [(.bitClockRatio, .bitClockRatio params.width.bitClockRatio),
    (.tdmSlots, .codec (.setTdmSlots Board.slotMask Board.slotMask Board.slots params.width.bits))]

/-- The call that sets SYSCLK for `rate`. -/
def sysclkPlan (rate : Hz) : List (CardStep × Call) :=
  [(.sysclk, .codec (.setSysclk (board.sysclk rate)))]

/-- The calls of a negotiation before it comes to the codec's clocks. -/
def preludePlan (params : StreamParams) : List (CardStep × Call) :=
  interfacePlan params ++
    if Transceiver.minPllRate ≤ params.rate.hz then pllPlan board params.rate.hz else []

/-- The calls of a negotiation before FLL1 follows the rate. -/
def negotiationPlan (params : StreamParams) : List (CardStep × Call) :=
  preludePlan board params ++ sysclkPlan board params.rate.hz

/-- What holds of each call of a negotiation before FLL1 follows the rate. -/
theorem forall_negotiationPlan {params : StreamParams} {P : CardStep × Call → Prop}
    (hinterface : ∀ p ∈ interfacePlan params, P p)
    (hpll : Transceiver.minPllRate ≤ params.rate.hz → ∀ p ∈ pllPlan board params.rate.hz, P p)
    (hsysclk : ∀ p ∈ sysclkPlan board params.rate.hz, P p) :
    ∀ p ∈ negotiationPlan board params, P p := by
  rw [negotiationPlan, preludePlan]
  refine List.forall_mem_append.2 ⟨List.forall_mem_append.2 ⟨hinterface, ?_⟩, hsysclk⟩
  split
  · rename_i hmin
    exact hpll hmin
  · exact List.forall_mem_nil _

theorem clockSteps_of_prelude {α : Type} {params : StreamParams} {r : Except CardError α}
    {es : List Event} (h : CallsInTurn (preludePlan board params) r es) :
    Trace.clockSteps es = [] := by
  refine h.filter_eq_nil fun p hp f => ?_
  rw [preludePlan, List.mem_append] at hp
  rcases hp with hp | hp
  · simp only [interfacePlan, List.mem_cons, List.not_mem_nil, or_false] at hp
    rcases hp with rfl | rfl <;> rfl
  · split at hp
    · simp only [pllPlan, List.mem_cons, List.not_mem_nil, or_false] at hp
      rcases hp with rfl | rfl <;> rfl
    · cases hp

theorem programPll_issues (rate : Hz) (c : Card) :
    (Card.programPll rate).Issues c (pllPlan c.board rate) := by
  rw [Card.programPll, Issues, ensures_bind, ensures_state, then_ok]
  exact ((issues_perform _ _ c).orLog _).bind fun _ => (issues_perform _ _ c).orLog _

variable (d : Direction) (params : StreamParams)

inductive NegotiateOutcome (s : ClockDomain) :
    Except CardError Unit → ClockDomain → List Event → Prop
  /-- A call was refused before FLL1 was looked at. -/
  | refused {e : CardError} {es : List Event} :
    CallsInTurn (negotiationPlan board params) (.error e : Except CardError Unit) es →
      NegotiateOutcome s (.error e) s es
  /-- FLL1 did not follow the rate. -/
  | stuck {e : CardError} {t : ClockDomain} {es fs : List Event} :
    CallsInTurn (negotiationPlan board params) (.ok ()) es →
      Clock.FollowOutcome board params.rate.hz s (.error e) t fs →
      NegotiateOutcome s (.error e) t (es ++ fs)
  | settled {t : ClockDomain} {es fs : List Event} :
    CallsInTurn (negotiationPlan board params) (.ok ()) es →
      Clock.FollowOutcome board params.rate.hz s (.ok ()) t fs →
      NegotiateOutcome s (.ok ())
        { t with rate := params.rate.hz, linkRate := params.rate.hz, streams := t.streams.insert d }
        (es ++ fs)

/-- The end of a negotiation, after the calls of `plan`. -/
theorem follow_ensures {plan : List (CardStep × Call)} {es : List Event} (c : Card)
    (hplan : CallsInTurn plan (.ok ()) es)
    (hall : negotiationPlan c.board params = plan ++ sysclkPlan c.board params.rate.hz) :
    (do
      Action.orLog (.codec .sysclk (.setSysclk (c.board.sysclk params.rate.hz)))
        (.sysclkFailed (c.board.sysclk params.rate.hz))
      Card.onClock (Clock.followRate c.board params.rate.hz)
      Card.onClock (Clock.recordStream d params.rate.hz)).Ensures c fun r c' fs =>
        ∃ t, NegotiateOutcome c.board d params c.clock r t (es ++ fs) ∧
          c' = { c with clock := t } := by
  refine Issues.andThen ((issues_perform _ _ c).orLog _) ?_ ?_
  · intro _ fs hsysclk
    have hok : CallsInTurn (negotiationPlan c.board params) (.ok ()) (es ++ fs) :=
      hall ▸ hplan.append hsysclk
    rw [ensures_bind, Card.onClock, ensures_within]
    refine (Clock.followRate_ensures c.board params.rate.hz c.clock).mono ?_
    rintro (e | ⟨⟩) t gs h
    · exact ⟨t, by simpa using NegotiateOutcome.stuck hok h, rfl⟩
    · rw [then_ok, Card.onClock, ensures_within]
      refine (Clock.recordStream_ensures d params.rate.hz t).mono ?_
      rintro _ _ _ ⟨rfl, rfl, rfl⟩
      exact ⟨_, by simpa using NegotiateOutcome.settled hok h, rfl⟩
  · intro e fs h
    exact ⟨c.clock, .refused (hall ▸ hplan.append h), rfl⟩

theorem negotiate_ensures (c : Card) :
    (Card.negotiate d params).Ensures c fun r c' es =>
      ∃ t, NegotiateOutcome c.board d params c.clock r t es ∧ c' = { c with clock := t } := by
  have hrefused : ∀ {e : CardError} {es : List Event},
      CallsInTurn (negotiationPlan c.board params) (.error e : Except CardError Unit) es →
      ∃ t, NegotiateOutcome c.board d params c.clock (.error e) t es ∧ c = { c with clock := t } :=
    fun h => ⟨c.clock, .refused h, rfl⟩
  rw [Card.negotiate, ensures_bind, ensures_state, then_ok, ensures_bind, ensures_log, then_ok]
  refine Issues.andThen ((issues_perform _ _ c).orLog _) (fun _ es h₁ => ?_) fun e es h =>
    hrefused (h.append_of_error _)
  refine Issues.andThen ((issues_perform _ _ c).orLog _) (fun _ fs h₂ => ?_) fun e fs h =>
    hrefused (h₁.append (h.append_of_error _))
  by_cases hpll : Transceiver.minPllRate ≤ params.rate.hz
  · have hplan : negotiationPlan c.board params = interfacePlan params ++
        (pllPlan c.board params.rate.hz ++ sysclkPlan c.board params.rate.hz) := by
      rw [negotiationPlan, preludePlan, if_pos hpll, List.append_assoc]
    rw [hplan] at hrefused
    simp only [hpll, if_true]
    refine Issues.andThen (programPll_issues params.rate.hz c) (fun _ gs h₃ => ?_) fun e gs h =>
      hrefused (h₁.append (h₂.append (h.append_of_error _)))
    simpa using follow_ensures d params c (h₁.append (h₂.append h₃)) hplan
  · simp only [hpll, if_false]
    simpa using follow_ensures d params c (h₁.append h₂) (by
      rw [negotiationPlan, preludePlan, if_neg hpll]
      rfl)

end Negotiation

end SoundCard
