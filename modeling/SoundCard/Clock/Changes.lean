import SoundCard.Clock.Fll

/-!
# Changes of the clock domain

What the power framework and the streams ask of the clock domain: FLL1 runs from the master clock
while the codec is prepared, from the recovered clock while the S/PDIF receive path is up, and not
at all in standby; SYSCLK is gated when the last stream lets go of its parameters.
-/

namespace SoundCard.Clock

variable (board : Board)

/-- The receive path powered up: FLL1 moves to the recovered clock. Only where that succeeds is the
path recorded up; where it fails, FLL1 is recorded `off`. -/
def raiseSyncPath : Action ClockDomain Unit := do
  let s ← .state
  .log (.syncRising (board.sysclk s.rate) (scaled s.rate Board.aif2BitClockRatio))
  let cleared ← .attempt disablePaths
  match cleared with
  | .error e => giveUp .syncClearFailed e
  | .ok () =>
    .orLog (lockToRecovered board s.rate) .syncLockFailed
    .update fun s => { s with syncPath := true }

/-- The receive path powered down; FLL1 is left as it is. -/
def lowerSyncPath : Action ClockDomain Unit :=
  .update fun s => { s with syncPath := false }

/-- The codec is about to be prepared: FLL1 runs from the master clock at the negotiated rate,
unless it does so already or belongs to the receive path. Both paths are disabled even when `off` is
on record, since an earlier attempt may have failed and left one armed. -/
def start : Action ClockDomain Unit := do
  let s ← .state
  let sysclk := board.sysclk s.rate
  if s.syncPath then pure ()
  else if s.fll = .master sysclk then pure ()
  else do
    .log (.starting s.fll sysclk)
    .orLog disablePaths .startClearFailed
    .orLog (lockToMaster board s.rate) .startLockFailed

/-- The codec reached standby: FLL1 stops, and is recorded `off` even where the codec did not
acknowledge it, so that the next start disables them again. -/
def stop : Action ClockDomain Unit := do
  let s ← .state
  .log (.stopping s.fll)
  let cleared ← .attempt disablePaths
  match cleared with
  | .ok () => pure ()
  | .error e => giveUp .stopClearFailed e

/-- A stream lets go of its parameters; SYSCLK is gated with the last one. -/
def dropStream (direction : Direction) : Action ClockDomain Unit := do
  let s ← .state
  let left := s.streams.erase direction
  .update fun s => { s with streams := left }
  if s.streams.isEmpty || !left.isEmpty then pure ()
  else do
    .log .gating
    .orLog (.codec .gateSysclk .gateSysclk) .gateFailed

/-- Records the parameters a stream has settled on. -/
def recordStream (direction : Direction) (rate : Hz) : Action ClockDomain Unit :=
  .update fun s => { s with rate, linkRate := rate, streams := s.streams.insert direction }

end SoundCard.Clock
