import SoundCard.Hardware.Codec
import SoundCard.Hardware.Failure
import SoundCard.Hardware.Transceiver

/-!
# Calls to the hardware

The card drives three components: the codec, the transceiver and the processor's interface, which
only knows the bit-clock ratio. A `Device` is anything that carries calls out, with a state of its
own; it may fail any of them.
-/

namespace SoundCard

/-- A request to one of the three components. -/
inductive Call
  | codec (call : CodecCall)
  | transceiver (call : TransceiverCall)
  /-- Sets the bit clocks in a frame on the processor's interface. -/
  | bitClockRatio (ratio : UInt32)
  deriving DecidableEq

/-- What a call that succeeds is answered with. -/
abbrev Call.Answer : Call → Type
  | .transceiver call => call.Answer
  | _ => Unit

/-- Hardware with states of type `H`. -/
structure Device (H : Type) where
  perform : (c : Call) → H → Except Failure c.Answer × H
  /-- Lets the given number of microseconds pass. -/
  wait : UInt32 → H → H

/-- The failure a call met, if it met one. -/
def failureOf {α : Type} : Except Failure α → Option Failure
  | .ok _ => none
  | .error f => some f

end SoundCard
