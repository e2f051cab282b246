import SoundCard.Proofs.Tasks

/-!
# What the traces of tasks are put together from

Every task of the clocks takes its steps in a few blocks: both paths are disabled, one of them is
told to lock, SYSCLK is gated, or a negotiation makes its calls. So what holds of each block, and of
blocks put one after the other, holds of the trace of every task (`ClockTask.Outcome.byBlocks`),
wherever the task was cut; of the clock domain only the rate matters, which the recovered bit clock
goes by.
-/

namespace SoundCard

open Clock

/-- What holds of each block of steps on the clocks, and of such blocks in sequence, where `rate` is
on record. The calls that a negotiation makes before FLL1 follows are no block, since they go beyond
the clocks. -/
structure ByBlocks (board : Board) (rate : Hz) (P : List Event → Prop) : Prop where
  nil : P []
  append : ∀ {es fs : List Event}, P es → P fs → P (es ++ fs)
  disable : ∀ main reference, P (disableSteps main reference)
  masterLock : ∀ hz failure, P (masterLockSteps board hz failure)
  prime : ∀ hz failure, P (primeSteps board hz failure)
  recoveredLock : ∀ hz failure,
    P (recoveredLockSteps board (scaled rate Board.aif2BitClockRatio) hz failure)
  derive32k : ∀ failure, P [.call (.codec derive32k) failure]
  gateSysclk : ∀ failure, P [.call (.codec .gateSysclk) failure]

variable {board : Board} {P : List Event → Prop} {rate : Hz} {s t : ClockDomain}
  {r : Except CardError Unit} {es : List Event}

namespace Clock

theorem DisableOutcome.byBlocks (h : DisableOutcome s r t es) (hP : ByBlocks board s.rate P) :
    P es := by
  cases h with
  | disabled | mainFailed _ _ | referenceFailed _ => exact hP.disable _ _

theorem MasterLockOutcome.byBlocks (h : MasterLockOutcome board rate s r t es)
    (hP : ByBlocks board s.rate P) : P es := by
  cases h with
  | locked | refused _ => exact hP.masterLock _ _

theorem RecoveredLockOutcome.byBlocks (h : RecoveredLockOutcome board rate s r t es)
    (hP : ByBlocks board rate P) : P es := by
  cases h with
  | locked | refused _ => exact hP.append (hP.prime _ _) (hP.recoveredLock _ _)
  | primeFailed _ => exact hP.prime _ _

theorem RelockOutcome.byBlocks (h : RelockOutcome board rate s r t es)
    (hP : ByBlocks board s.rate P) : P es := by
  cases h with
  | stuck h => exact h.byBlocks hP
  | tried h => exact hP.append (hP.disable _ _) (h.byBlocks hP)

theorem FollowOutcome.byBlocks (h : FollowOutcome board rate s r t es)
    (hP : ByBlocks board s.rate P) : P es := by
  cases h with
  | idle _ => exact hP.nil
  | tried _ _ h => exact h.byBlocks hP

theorem StartOutcome.byBlocks (h : StartOutcome board s r t es) (hP : ByBlocks board s.rate P) :
    P es := by
  cases h with
  | owned _ | running _ => exact hP.nil
  | tried _ _ h => exact h.byBlocks hP

theorem RaiseOutcome.byBlocks (h : RaiseOutcome board s r t es) (hP : ByBlocks board s.rate P) :
    P es := by
  cases h with
  | stuck h => exact h.byBlocks hP
  | failed h | raised h => exact hP.append (hP.disable _ _) (h.byBlocks hP)

theorem DropOutcome.byBlocks {d : Direction} (h : DropOutcome d s r t es)
    (hP : ByBlocks board s.rate P) : P es := by
  cases h with
  | silent _ => exact hP.nil
  | gated _ _ | gateFailed _ _ _ => exact hP.gateSysclk _

end Clock

theorem SetUpOutcome.byBlocks (h : SetUpOutcome s r t es) (hP : ByBlocks board s.rate P) :
    P es := by
  cases h with
  | gated derived h | gateFailed derived _ h =>
    exact hP.append (hP.append (hP.derive32k derived) (h.byBlocks hP)) (hP.gateSysclk _)

theorem NegotiateOutcome.byBlocks {d : Direction} {params : StreamParams}
    (h : NegotiateOutcome board d params s r t es) (hP : ByBlocks board s.rate P)
    (hplan : ∀ {r : Except CardError Unit} {es : List Event},
      CallsInTurn (negotiationPlan board params) r es → P es) : P es := by
  cases h with
  | refused h => exact hplan h
  | stuck hok h | settled hok h => exact hP.append (hplan hok) (h.byBlocks hP)

theorem ClockTask.Outcome.byBlocks {task : ClockTask} (h : task.Outcome board s r t es)
    (hP : ByBlocks board s.rate P)
    (hplan : ∀ d params, task = .negotiate d params →
      ∀ {r : Except CardError Unit} {es : List Event},
        CallsInTurn (negotiationPlan board params) r es → P es) : P es := by
  cases task with
  | setUp => exact SetUpOutcome.byBlocks h hP
  | negotiate d params => exact NegotiateOutcome.byBlocks h hP (hplan d params rfl)
  | drop d => exact DropOutcome.byBlocks h hP
  | start => exact StartOutcome.byBlocks h hP
  | stop =>
    cases h with
    | stopped h => exact h.byBlocks hP
  | raise => exact RaiseOutcome.byBlocks h hP
  | lower =>
    obtain ⟨-, -, rfl⟩ := h
    exact hP.nil

end SoundCard
