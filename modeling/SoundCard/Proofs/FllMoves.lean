import SoundCard.Proofs.Tasks

/-!
# What an operation does to FLL1

Whatever an operation is, it moves FLL1 at most once, and in one of the few ways that `FllMove`
lists (`ClockTask.Outcome.fllMove`). What holds of FLL1 over a history is shown from these ways
alone.
-/

namespace SoundCard

open Clock

/-- A call on FLL1, or time for it to settle. -/
def Event.isFllStep : Event → Bool
  | .call (.codec (.setFll _ _ _ _)) _ | .wait _ => true
  | _ => false

theorem Event.isClockStep_of_isFllStep {e : Event} (h : e.isFllStep = true) :
    e.isClockStep = true := by
  rcases e with ⟨c | c | ratio, f⟩ | us | line
  · cases c with
    | setFll path input fref fout => rfl
    | _ => cases h
  all_goals first | rfl | cases h

namespace Trace

/-- The steps that concern FLL1. -/
def fllSteps (es : List Event) : List Event := es.filter Event.isFllStep

@[simp] theorem fllSteps_append (es fs : List Event) :
    fllSteps (es ++ fs) = fllSteps es ++ fllSteps fs := List.filter_append ..

@[simp] theorem fllSteps_steps (es : List Event) : fllSteps (steps es) = fllSteps es :=
  filter_steps (fun _ => rfl) es

theorem fllSteps_of_clockSteps_nil {es : List Event} : clockSteps es = [] → fllSteps es = [] :=
  filter_of_clockSteps_nil fun _ => Event.isClockStep_of_isFllStep

end Trace

namespace CodecClocks

/-- Both paths of FLL1 are set alike. -/
def SamePaths (k k' : CodecClocks) : Prop := k.main = k'.main ∧ k.reference = k'.reference

theorem SamePaths.replay_event {k k' : CodecClocks} (h : SamePaths k k') (e : Event) :
    SamePaths (k.replay [e]) (k'.replay [e]) := by
  rcases e with ⟨c | c | ratio, _ | f⟩ | us | line
  · cases c with
    | setFll path input fref fout => cases path <;> simp_all [SamePaths, replay, acceptAll, accept,
        Trace.codecCalls, Event.acceptedByCodec?]
    | _ => exact h
  all_goals exact h

theorem SamePaths.replay_other {k k' : CodecClocks} (h : SamePaths k k') {e : Event}
    (he : e.isFllStep = false) : SamePaths (k.replay [e]) k' := by
  rcases e with ⟨c | c | ratio, _ | f⟩ | us | line
  · cases c with
    | setFll path input fref fout => cases he
    | _ => exact h
  all_goals exact h

/-- The paths of FLL1 depend only on the steps that concern it. -/
theorem replay_fllSteps (k : CodecClocks) (es : List Event) :
    SamePaths (k.replay es) (k.replay (Trace.fllSteps es)) :=
  replay_filter (fun e _ _ h => h.replay_event e) (fun _ _ _ he h => h.replay_other he) es
    ⟨rfl, rfl⟩

end CodecClocks

/-- The ways an operation may move FLL1, from the mode on record, by the steps it takes, to the mode
it records. -/
inductive FllMove (board : Board) (mode : FllMode) : List Event → FllMode → Prop
  | idle : FllMove board mode [] mode
  /-- The paths were not both disabled, and the mode was left as it was. -/
  | kept {f g : Option Failure} (h : f ≠ none ∨ g ≠ none) :
    FllMove board mode (disableSteps f g) mode
  /-- Both paths were to be disabled, and `off` was recorded in any case. -/
  | stopped (f g : Option Failure) : FllMove board mode (disableSteps f g) .off
  | master (hz : Hz) :
    FllMove board mode (disableSteps none none ++ masterLockSteps board hz none) (.master hz)
  | masterRefused (hz : Hz) (f : Failure) :
    FllMove board mode (disableSteps none none ++ masterLockSteps board hz (some f)) .off
  | primeFailed (hz : Hz) (f : Failure) :
    FllMove board mode (disableSteps none none ++ primeSteps board hz (some f)) .off
  | recovered (bitClock hz : Hz) :
    FllMove board mode (disableSteps none none ++
      (primeSteps board hz none ++ recoveredLockSteps board bitClock hz none)) (.recovered hz)
  | recoveredRefused (bitClock hz : Hz) (f : Failure) :
    FllMove board mode (disableSteps none none ++
      (primeSteps board hz none ++ recoveredLockSteps board bitClock hz (some f))) .off

section Outcomes

variable {board : Board} {rate : Hz} {s t : ClockDomain} {r : Except CardError Unit}
  {es : List Event}

theorem Clock.DisableOutcome.fllMove (h : DisableOutcome s r t es) :
    FllMove board s.fll (Trace.fllSteps es) t.fll := by
  cases h with
  | disabled => exact .stopped none none
  | mainFailed f g => exact .kept (.inl (by simp))
  | referenceFailed f => exact .kept (.inr (by simp))

theorem Clock.RelockOutcome.fllMove (h : RelockOutcome board rate s r t es) :
    FllMove board s.fll (Trace.fllSteps es) t.fll := by
  cases h with
  | stuck h => exact h.fllMove
  | tried h =>
    cases h with
    | locked => exact .master _
    | refused f => exact .masterRefused _ f

theorem Clock.FollowOutcome.fllMove (h : FollowOutcome board rate s r t es) :
    FllMove board s.fll (Trace.fllSteps es) t.fll := by
  cases h with
  | idle h => exact .idle
  | tried _ _ h => exact h.fllMove

theorem Clock.StartOutcome.fllMove (h : StartOutcome board s r t es) :
    FllMove board s.fll (Trace.fllSteps es) t.fll := by
  cases h with
  | owned _ | running _ => exact .idle
  | tried _ _ h => exact h.fllMove

theorem Clock.StopOutcome.fllMove (h : StopOutcome s r t es) :
    FllMove board s.fll (Trace.fllSteps es) t.fll := by
  cases h with
  | stopped h => cases h <;> exact .stopped _ _

theorem Clock.RaiseOutcome.fllMove (h : RaiseOutcome board s r t es) :
    FllMove board s.fll (Trace.fllSteps es) t.fll := by
  cases h with
  | stuck h => cases h <;> exact .stopped _ _
  | failed h =>
    cases h with
    | primeFailed f => exact .primeFailed _ f
    | refused f => exact .recoveredRefused _ _ f
  | raised h => cases h with | locked => exact .recovered _ _

theorem Clock.DropOutcome.fllMove {d : Direction} (h : DropOutcome d s r t es) :
    FllMove board s.fll (Trace.fllSteps es) t.fll := by
  cases h <;> exact .idle

theorem SetUpOutcome.fllMove (h : SetUpOutcome s r t es) :
    FllMove board s.fll (Trace.fllSteps es) t.fll := by
  cases h with
  | gated derived h | gateFailed derived f h =>
    rw [Trace.fllSteps_append]
    simpa [Trace.fllSteps, Event.isFllStep, derive32k, CodecCall.gateSysclk] using h.fllMove

/-- Nothing before FLL1 follows the rate concerns it. -/
theorem fllSteps_of_plan {params : StreamParams}
    (h : CallsInTurn (negotiationPlan board params) r es) : Trace.fllSteps es = [] := by
  rcases h.of_append with ⟨e, rfl, hes⟩ | ⟨fs, gs, rfl, hfs, hgs⟩
  · exact Trace.fllSteps_of_clockSteps_nil (clockSteps_of_prelude board hes)
  · rw [Trace.fllSteps_append, Trace.fllSteps_of_clockSteps_nil (clockSteps_of_prelude board hfs)]
    refine hgs.filter_eq_nil fun p hp f => ?_
    rw [sysclkPlan, List.mem_singleton] at hp
    rw [hp]
    rfl

theorem NegotiateOutcome.fllMove {d : Direction} {params : StreamParams}
    (h : NegotiateOutcome board d params s r t es) :
    FllMove board s.fll (Trace.fllSteps es) t.fll := by
  cases h with
  | refused h => rw [fllSteps_of_plan h]; exact .idle
  | stuck hplan h | settled hplan h =>
    rw [Trace.fllSteps_append, fllSteps_of_plan hplan]
    exact h.fllMove

theorem ClockTask.Outcome.fllMove {task : ClockTask} (h : task.Outcome board s r t es) :
    FllMove board s.fll (Trace.fllSteps es) t.fll := by
  cases task with
  | setUp => exact SetUpOutcome.fllMove h
  | negotiate d params => exact NegotiateOutcome.fllMove h
  | drop d => exact DropOutcome.fllMove h
  | start => exact StartOutcome.fllMove h
  | stop => exact StopOutcome.fllMove h
  | raise => exact RaiseOutcome.fllMove h
  | lower => obtain ⟨-, rfl, rfl⟩ := h; exact .idle

end Outcomes

theorem Operation.ClockOutcome.fllMove {op : Operation} {c c' : Card}
    {r : Except CardError Answer} {es : List Event} (h : op.ClockOutcome c r c' es) :
    FllMove c.board c.clock.fll (Trace.fllSteps es) c'.clock.fll := by
  cases h with
  | quiet _ hc hes =>
    simp only [Card.clockSide, Prod.mk.injEq] at hc
    rw [hc.2, Trace.fllSteps_of_clockSteps_nil hes]
    exact .idle
  | task _ h => exact h.fllMove

theorem Card.run_fllMove {H : Type} (dev : Device H) (op : Operation) (c : Card) (h : H) :
    let run := (op.perform c).run dev h
    FllMove c.board c.clock.fll (Trace.fllSteps run.events) run.value.2.clock.fll := by
  have := ((op.perform_ensures c).run dev h).fllMove
  rwa [Trace.fllSteps_steps] at this

/-- What every way of moving FLL1 preserves, a history preserves, as far as its events are
allowed. -/
theorem Card.play_fll {H : Type} (dev : Device H) {board : Board}
    (Inv : FllMode → CodecClocks → Prop) (Allowed : Event → Prop)
    (hpaths : ∀ {m : FllMode} {k k' : CodecClocks}, k.SamePaths k' → Inv m k' → Inv m k)
    (hmove : ∀ {m m' : FllMode} {k : CodecClocks} {es : List Event}, FllMove board m es m' →
      Inv m k → (∀ e ∈ es, Allowed e) → Inv m' (k.replay es))
    (ops : List Operation) {c : Card} (h : H) {k : CodecClocks} (hboard : c.board = board)
    (hinv : Inv c.clock.fll k) (hallowed : ∀ e ∈ (play dev ops c h).events, Allowed e) :
    Inv (play dev ops c h).card.clock.fll (k.replay (play dev ops c h).events) := by
  refine play_clocks dev (fun s k => Inv s.fll k) Allowed ?_ ops h hboard hinv hallowed
  intro task s t k r es hout hinv hes
  refine hpaths (k.replay_fllSteps es) (hmove hout.fllMove hinv fun e he => ?_)
  exact hes e (List.mem_filter.1 he).1

end SoundCard
