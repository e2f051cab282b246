import SoundCard.Bench.Recorder
import SoundCard.Hardware.Call

/-!
# The simulated codec

Records every call, fails those it was told to fail, and sets its clocks by the others.
-/

namespace SoundCard

structure BenchCodec where
  recorder : Recorder CodecCall := {}
  /-- How many calls were made, those past the recorder's room included. It is kept below 2^64 and
  stops at its largest value. -/
  total : Nat := 0
  clocks : CodecClocks := {}
  deriving DecidableEq

namespace BenchCodec

def call (b : BenchCodec) (stamp : Nat) (c : CodecCall) : Except Failure Unit × BenchCodec :=
  let noted := { b with
    recorder := b.recorder.record stamp c
    total := min (b.total + 1) (UInt64.size - 1) }
  if noted.recorder.fails c then (.error .bus, noted)
  else (.ok (), { noted with clocks := noted.clocks.accept c })

def injectFailure (b : BenchCodec) (c : CodecCall) : BenchCodec :=
  { b with recorder := b.recorder.injectFailure c }

def forgetFailures (b : BenchCodec) : BenchCodec :=
  { b with recorder := b.recorder.forgetFailures }

def forgetCalls (b : BenchCodec) : BenchCodec := { b with recorder := b.recorder.reset }

end BenchCodec

end SoundCard
