import SoundCard.Action

/-!
# The transmitted channel status

The card keeps the transmitted channel status beside the transceiver's registers, so that it can be
read without the bus. `load` fills what is kept from the registers, and `store` writes the bytes
that differ, one after another, keeping each byte as soon as its write is acknowledged: a write
that fails leaves the earlier bytes changed on both sides, and the later ones on neither.
-/

namespace SoundCard

/-- A status read byte by byte from four registers in a row. -/
def readStatus {σ : Type} (first : UInt8) : Action σ ChannelStatus := do
  let b0 ← .transceiver .readStatus (.readRegister first)
  let b1 ← .transceiver .readStatus (.readRegister (first + 1))
  let b2 ← .transceiver .readStatus (.readRegister (first + 2))
  let b3 ← .transceiver .readStatus (.readRegister (first + 3))
  return ChannelStatus.masked ⟨#v[b0, b1, b2, b3]⟩

namespace TransmitStatus

def load : Action ChannelStatus Unit := do
  let status ← readStatus Transceiver.transmittedStatus
  .update fun _ => status

/-- The call that writes byte `i` of a status. -/
def writeCall (status : ChannelStatus) (i : Fin 4) : TransceiverCall :=
  .updateBits (Transceiver.transmitRegister i) (ChannelStatus.mask.byte i) (status.masked.byte i)

/-- Writes the bytes at the given places, where they differ; whether any did. -/
def storeAt (status : ChannelStatus) : List (Fin 4) → Action ChannelStatus Bool
  | [] => pure false
  | i :: rest => do
    let kept ← .state
    if kept.masked.byte i = status.masked.byte i then storeAt status rest
    else do
      .orLog (.transceiver .writeStatus (writeCall status i))
        (.statusWriteFailed (Transceiver.transmitRegister i))
      .update (·.setByte i (status.masked.byte i))
      let _ ← storeAt status rest
      return true

/-- Writes the bytes that differ under the mask; whether any did. -/
def store (status : ChannelStatus) : Action ChannelStatus Bool := storeAt status (List.finRange 4)

end TransmitStatus

end SoundCard
