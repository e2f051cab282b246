import SoundCard.Bench.Codec
import SoundCard.Bench.Delay
import SoundCard.Bench.Transceiver

/-!
# The bench

The three components simulated side by side, with one counter that stamps their calls, and the time
spent waiting. The processor's interface stamps a ratio only when it takes it.
-/

namespace SoundCard

/-- The simulated processor interface. -/
structure BenchInterface where
  /-- The stamp and the value of the ratio taken last. -/
  accepted : Option (Nat × UInt32) := none
  refusing : Bool := false
  deriving DecidableEq

structure Bench where
  codec : BenchCodec := {}
  transceiver : BenchTransceiver := {}
  interface : BenchInterface := {}
  delays : DelayTally := {}
  /-- The next stamp. It is kept below 2^32 and starts again from zero. -/
  stamp : Nat := 0
  deriving DecidableEq

namespace Bench

def nextStamp (b : Bench) : Nat := (b.stamp + 1) % UInt32.size

def codecCall (b : Bench) (c : CodecCall) : Except Failure Unit × Bench :=
  let (answer, codec) := b.codec.call b.stamp c
  (answer, { b with codec, stamp := b.nextStamp })

def transceiverCall (b : Bench) (c : TransceiverCall) : Except Failure c.Answer × Bench :=
  let (answer, transceiver) := b.transceiver.call b.stamp c
  (answer, { b with transceiver, stamp := b.nextStamp })

def setBitClockRatio (b : Bench) (ratio : UInt32) : Except Failure Unit × Bench :=
  if b.interface.refusing then (.error (.rejected (-22)), b)
  else
    (.ok (), { b with
      interface := { b.interface with accepted := some (b.stamp, ratio) }
      stamp := b.nextStamp })

def device : Device Bench where
  perform
    | .codec c, b => b.codecCall c
    | .transceiver c, b => b.transceiverCall c
    | .bitClockRatio ratio, b => b.setBitClockRatio ratio
  wait us b := { b with delays := b.delays.addMicroseconds us }

end Bench

end SoundCard
