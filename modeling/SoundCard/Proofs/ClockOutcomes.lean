import SoundCard.Clock.Changes
import SoundCard.Proofs.Ensures

/-!
# How changes of the clock domain end

For each change there is a relation between its result, the clock domain it leaves and the steps it
took, with one constructor for each way it may end; the change ensures that relation. Later proofs
split on the ways and never look at the change itself.
-/

namespace SoundCard.Clock

open SoundCard.Action

/-- The calls that disable both paths, with the failures they met. -/
def disableSteps (main reference : Option Failure) : List Event :=
  [.call (.codec (.disable .main)) main, .call (.codec (.disable .reference)) reference]

inductive DisableOutcome (s : ClockDomain) :
    Except CardError Unit → ClockDomain → List Event → Prop
  | disabled : DisableOutcome s (.ok ()) { s with fll := .off } (disableSteps none none)
  | mainFailed (f : Failure) (reference : Option Failure) :
    DisableOutcome s (.error (.hardware .clearMain f)) s (disableSteps (some f) reference)
  | referenceFailed (f : Failure) :
    DisableOutcome s (.error (.hardware .clearReference f)) s (disableSteps none (some f))

theorem DisableOutcome.unchanged {s t : ClockDomain} {e : CardError} {es : List Event}
    (h : DisableOutcome s (.error e) t es) : t = s := by
  cases h <;> rfl

theorem disablePaths_ensures (s : ClockDomain) : disablePaths.Ensures s (DisableOutcome s) := by
  simp only [disablePaths, ensures_bind, ensures_attempt, ensures_codec, then_ok]
  refine ⟨⟨?_, fun f => ?_⟩, fun f => ⟨?_, fun g => ?_⟩⟩
  · simpa using .disabled
  · simpa using .referenceFailed f
  · simpa using .mainFailed f none
  · simpa using .mainFailed f (some g)

theorem giveUp_ensures (line : LogLine) (e : CardError) (s : ClockDomain) :
    (giveUp line e).Ensures s
      fun r t es => r = .error e ∧ t = { s with fll := .off } ∧ es = [] := by
  simp [giveUp]

section Locks

variable (board : Board) (rate : Hz)

/-- The attempt to lock FLL1 to the master clock, and the time it is given to settle. -/
def masterLockSteps (hz : Hz) (failure : Option Failure) : List Event :=
  [.call (.codec (.setFll .main (some .mclk1) board.masterClock hz)) failure,
    .wait board.settleTime]

/-- The attempt to prime the reference path from the master clock. -/
def primeSteps (hz : Hz) (failure : Option Failure) : List Event :=
  [.call (.codec (.setFll .reference (some .mclk1) board.masterClock hz)) failure]

/-- The attempt to lock FLL1 to the recovered bit clock, and the time it is given to settle. -/
def recoveredLockSteps (bitClock hz : Hz) (failure : Option Failure) : List Event :=
  [.call (.codec (.setFll .main (some .aif2BitClock) bitClock hz)) failure,
    .wait board.settleTime]

inductive MasterLockOutcome (s : ClockDomain) :
    Except CardError Unit → ClockDomain → List Event → Prop
  | locked : MasterLockOutcome s (.ok ()) { s with fll := .master (board.sysclk rate) }
      (masterLockSteps board (board.sysclk rate) none)
  | refused (f : Failure) :
    MasterLockOutcome s (.error (.hardware .lockMaster f)) { s with fll := .off }
      (masterLockSteps board (board.sysclk rate) (some f))

theorem lockToMaster_ensures (s : ClockDomain) :
    (lockToMaster board rate).Ensures s (MasterLockOutcome board rate s) := by
  simp only [lockToMaster, ensures_bind, ensures_attempt, ensures_codec, ensures_wait, then_ok]
  refine ⟨?_, fun f => ?_⟩
  · simpa using .locked
  · refine (giveUp_ensures _ _ s).mono ?_
    rintro _ _ _ ⟨rfl, rfl, rfl⟩
    exact .refused f

inductive RecoveredLockOutcome (s : ClockDomain) :
    Except CardError Unit → ClockDomain → List Event → Prop
  | locked : RecoveredLockOutcome s (.ok ()) { s with fll := .recovered (board.sysclk rate) }
      (primeSteps board (board.sysclk rate) none ++
        recoveredLockSteps board (scaled rate Board.aif2BitClockRatio) (board.sysclk rate) none)
  | primeFailed (f : Failure) :
    RecoveredLockOutcome s (.error (.hardware .primeReference f)) { s with fll := .off }
      (primeSteps board (board.sysclk rate) (some f))
  | refused (f : Failure) :
    RecoveredLockOutcome s (.error (.hardware .lockRecovered f)) { s with fll := .off }
      (primeSteps board (board.sysclk rate) none ++
        recoveredLockSteps board (scaled rate Board.aif2BitClockRatio) (board.sysclk rate)
          (some f))

theorem lockToRecovered_ensures (s : ClockDomain) :
    (lockToRecovered board rate).Ensures s (RecoveredLockOutcome board rate s) := by
  simp only [lockToRecovered, ensures_bind, ensures_attempt, ensures_codec, ensures_wait, then_ok]
  refine ⟨⟨?_, fun f => ?_⟩, fun f => ?_⟩
  · simpa using .locked
  · refine (giveUp_ensures _ _ s).mono ?_
    rintro _ _ _ ⟨rfl, rfl, rfl⟩
    exact .refused f
  · refine (giveUp_ensures _ _ s).mono ?_
    rintro _ _ _ ⟨rfl, rfl, rfl⟩
    exact .primeFailed f

/-- Disabling both paths and locking FLL1 to the master clock. -/
inductive RelockOutcome (s : ClockDomain) :
    Except CardError Unit → ClockDomain → List Event → Prop
  /-- The paths were not both disabled, and nothing else was tried. -/
  | stuck {e : CardError} {t : ClockDomain} {es : List Event} :
    DisableOutcome s (.error e) t es → RelockOutcome s (.error e) t es
  | tried {r : Except CardError Unit} {t : ClockDomain} {es : List Event} :
    MasterLockOutcome board rate { s with fll := .off } r t es →
      RelockOutcome s r t (disableSteps none none ++ es)

theorem relock_ensures (s : ClockDomain) (clearFailed lockFailed : LogLine) :
    (do
      Action.orLog disablePaths clearFailed
      Action.orLog (lockToMaster board rate) lockFailed).Ensures s
        (RelockOutcome board rate s) := by
  rw [ensures_bind, ensures_orLog]
  refine (disablePaths_ensures s).mono ?_
  rintro (e | ⟨⟩) t es h
  · exact .stuck h
  · cases h
    rw [then_ok, ensures_orLog]
    exact (lockToMaster_ensures board rate _).mono fun _ _ _ => .tried

inductive FollowOutcome (s : ClockDomain) :
    Except CardError Unit → ClockDomain → List Event → Prop
  | idle (h : ∀ hz, s.fll = .master hz → hz = board.sysclk rate) : FollowOutcome s (.ok ()) s []
  | tried {hz : Hz} {r : Except CardError Unit} {t : ClockDomain} {es : List Event}
    (hm : s.fll = .master hz) (hne : hz ≠ board.sysclk rate) :
    RelockOutcome board rate s r t es → FollowOutcome s r t es

theorem followRate_ensures (s : ClockDomain) :
    (followRate board rate).Ensures s (FollowOutcome board rate s) := by
  rw [followRate, ensures_bind, ensures_state, then_ok]
  rcases hm : s.fll with _ | current | current
  · exact .idle (by simp [hm])
  · by_cases hc : current = board.sysclk rate
    · simp only [hc, if_true]
      exact .idle (by simp [hm, hc])
    · simp only [hc, if_false, ensures_bind (x := Action.log _), ensures_log, then_ok]
      exact (relock_ensures board rate s _ _).mono fun _ _ _ h => .tried hm hc (by simpa using h)
  · exact .idle (by simp [hm])

end Locks

section Changes

variable (board : Board)

inductive StartOutcome (s : ClockDomain) :
    Except CardError Unit → ClockDomain → List Event → Prop
  | owned (h : s.syncPath = true) : StartOutcome s (.ok ()) s []
  | running (h : s.fll = .master (board.sysclk s.rate)) : StartOutcome s (.ok ()) s []
  | tried {r : Except CardError Unit} {t : ClockDomain} {es : List Event}
    (hs : s.syncPath = false) (hm : s.fll ≠ .master (board.sysclk s.rate)) :
    RelockOutcome board s.rate s r t es → StartOutcome s r t es

theorem start_ensures (s : ClockDomain) : (start board).Ensures s (StartOutcome board s) := by
  rw [start, ensures_bind, ensures_state, then_ok]
  rcases hs : s.syncPath with _ | _
  · by_cases hm : s.fll = .master (board.sysclk s.rate)
    · simp only [Bool.false_eq_true, hm, if_false, if_true]
      exact .running hm
    · simp only [Bool.false_eq_true, hm, if_false, ensures_bind (x := Action.log _), ensures_log,
        then_ok]
      exact (relock_ensures board s.rate s _ _).mono fun _ _ _ h =>
        .tried hs hm (by simpa using h)
  · exact .owned hs

/-- Whatever comes of disabling the paths, `off` is on record. -/
inductive StopOutcome (s : ClockDomain) :
    Except CardError Unit → ClockDomain → List Event → Prop
  | stopped {r : Except CardError Unit} {t : ClockDomain} {es : List Event} :
    DisableOutcome s r t es → StopOutcome s r { s with fll := .off } es

theorem stop_ensures (s : ClockDomain) : stop.Ensures s (StopOutcome s) := by
  simp only [stop, ensures_bind, ensures_state, ensures_log, ensures_attempt, then_ok]
  refine (disablePaths_ensures s).mono ?_
  rintro (e | ⟨⟩) t es h
  · obtain rfl := h.unchanged
    simp only [then_ok]
    refine (giveUp_ensures _ _ t).mono ?_
    rintro _ _ _ ⟨rfl, rfl, rfl⟩
    simpa using StopOutcome.stopped h
  · cases h
    simpa using StopOutcome.stopped .disabled

inductive RaiseOutcome (s : ClockDomain) :
    Except CardError Unit → ClockDomain → List Event → Prop
  | stuck {e : CardError} {t : ClockDomain} {es : List Event} :
    DisableOutcome s (.error e) t es → RaiseOutcome s (.error e) { s with fll := .off } es
  | failed {e : CardError} {t : ClockDomain} {es : List Event} :
    RecoveredLockOutcome board s.rate { s with fll := .off } (.error e) t es →
      RaiseOutcome s (.error e) t (disableSteps none none ++ es)
  | raised {t : ClockDomain} {es : List Event} :
    RecoveredLockOutcome board s.rate { s with fll := .off } (.ok ()) t es →
      RaiseOutcome s (.ok ()) { t with syncPath := true } (disableSteps none none ++ es)

theorem raiseSyncPath_ensures (s : ClockDomain) :
    (raiseSyncPath board).Ensures s (RaiseOutcome board s) := by
  simp only [raiseSyncPath, ensures_bind, ensures_state, ensures_log, ensures_attempt, then_ok]
  refine (disablePaths_ensures s).mono ?_
  rintro (e | ⟨⟩) t es h
  · obtain rfl := h.unchanged
    simp only [then_ok]
    refine (giveUp_ensures _ _ t).mono ?_
    rintro _ _ _ ⟨rfl, rfl, rfl⟩
    simpa using RaiseOutcome.stuck h
  · cases h
    simp only [then_ok, ensures_bind, ensures_orLog]
    refine (lockToRecovered_ensures board s.rate _).mono ?_
    rintro (e | ⟨⟩) t es h
    · simpa using RaiseOutcome.failed h
    · simpa using RaiseOutcome.raised h

theorem lowerSyncPath_ensures (s : ClockDomain) :
    lowerSyncPath.Ensures s
      fun r t es => r = .ok () ∧ t = { s with syncPath := false } ∧ es = [] := by
  simp [lowerSyncPath]

/-- SYSCLK is gated only where a set of streams that was not empty becomes so. -/
inductive DropOutcome (d : Direction) (s : ClockDomain) :
    Except CardError Unit → ClockDomain → List Event → Prop
  | silent (h : s.streams.isEmpty = true ∨ (s.streams.erase d).isEmpty = false) :
    DropOutcome d s (.ok ()) { s with streams := s.streams.erase d } []
  | gated (hs : s.streams.isEmpty = false) (hl : (s.streams.erase d).isEmpty = true) :
    DropOutcome d s (.ok ()) { s with streams := s.streams.erase d }
      [.call (.codec .gateSysclk) none]
  | gateFailed (hs : s.streams.isEmpty = false) (hl : (s.streams.erase d).isEmpty = true)
    (f : Failure) :
    DropOutcome d s (.error (.hardware .gateSysclk f)) { s with streams := s.streams.erase d }
      [.call (.codec .gateSysclk) (some f)]

theorem dropStream_ensures (d : Direction) (s : ClockDomain) :
    (dropStream d).Ensures s (DropOutcome d s) := by
  simp only [dropStream, ensures_bind, ensures_state, ensures_update, then_ok]
  rcases hs : s.streams.isEmpty with _ | _
  · rcases hl : (s.streams.erase d).isEmpty with _ | _
    · simpa using DropOutcome.silent (.inr hl)
    · simp only [Bool.not_true, Bool.or_self, Bool.false_eq_true, if_false, ensures_bind,
        ensures_log, ensures_orLog, ensures_codec, then_ok]
      exact ⟨by simpa using DropOutcome.gated hs hl, fun f => by
        simpa using DropOutcome.gateFailed hs hl f⟩
  · simpa using DropOutcome.silent (.inl hs)

theorem recordStream_ensures (d : Direction) (rate : Hz) (s : ClockDomain) :
    (recordStream d rate).Ensures s fun r t es => r = .ok () ∧
      t = { s with rate, linkRate := rate, streams := s.streams.insert d } ∧ es = [] := by
  simp [recordStream]

end Changes

end SoundCard.Clock
