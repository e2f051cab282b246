import SoundCard.Action

/-!
# Moving FLL1

FLL1 is locked only while both of its paths are disabled: whoever locks it calls `disablePaths`
first, and goes on only if that succeeded. A mode other than `off` is recorded only when the codec
acknowledged the lock, and a lock it refused leaves `off` on record.
-/

namespace SoundCard.Clock

/-- Disables the main path, then the reference path. Both are tried, and the first failure is the
one reported; only if there was none is FLL1 recorded `off`. -/
def disablePaths : Action ClockDomain Unit := do
  let main ← .attempt (.codec .clearMain (.disable .main))
  let reference ← .attempt (.codec .clearReference (.disable .reference))
  .logFailure .mainClearFailed main
  .logFailure .referenceClearFailed reference
  .ofExcept main
  .ofExcept reference
  .update fun s => { s with fll := .off }

/-- Records `off` after a failure, and fails with it. -/
def giveUp (line : LogLine) (e : CardError) : Action ClockDomain Unit := do
  .log line
  .update fun s => { s with fll := .off }
  .fail e

variable (board : Board)

/-- Locks FLL1 to the master clock, at the SYSCLK of `rate`. FLL1 is given its time to settle
whether or not the codec accepted. -/
def lockToMaster (rate : Hz) : Action ClockDomain Unit := do
  let sysclk := board.sysclk rate
  let locked ← .attempt
    (.codec .lockMaster (.setFll .main (some .mclk1) board.masterClock sysclk))
  .wait board.settleTime
  match locked with
  | .ok () =>
    .log (.masterLocked sysclk)
    .update fun s => { s with fll := .master sysclk }
  | .error e => giveUp (.masterLockFailed sysclk) e

/-- Primes the reference path from the master clock, then locks FLL1 to the recovered bit clock.
There is nothing to settle where priming failed. -/
def lockToRecovered (rate : Hz) : Action ClockDomain Unit := do
  let sysclk := board.sysclk rate
  let bitClock := scaled rate Board.aif2BitClockRatio
  let primed ← .attempt
    (.codec .primeReference (.setFll .reference (some .mclk1) board.masterClock sysclk))
  match primed with
  | .error e => giveUp (.primeFailed sysclk) e
  | .ok () =>
    let locked ← .attempt
      (.codec .lockRecovered (.setFll .main (some .aif2BitClock) bitClock sysclk))
    .wait board.settleTime
    match locked with
    | .ok () =>
      .log (.recoveredLocked bitClock sysclk)
      .update fun s => { s with fll := .recovered sysclk }
    | .error e => giveUp (.recoveredLockFailed bitClock sysclk) e

/-- Follows a change of rate while FLL1 runs from the master clock at another SYSCLK; in any other
mode there is nothing to do. -/
def followRate (rate : Hz) : Action ClockDomain Unit := do
  let s ← .state
  let sysclk := board.sysclk rate
  match s.fll with
  | .master current =>
    if current = sysclk then pure ()
    else do
      .log (.following current sysclk)
      .orLog disablePaths .followClearFailed
      .orLog (lockToMaster board rate) .followLockFailed
  | .off | .recovered _ => pure ()

end SoundCard.Clock
