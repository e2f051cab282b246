import SoundCard.Receiver
import SoundCard.TransmitStatus

/-!
# Reading the receiver

The state of the S/PDIF input, read from the transceiver each time it is asked for.
-/

namespace SoundCard

variable {σ : Type}

def ReceiverFlag.read (flag : ReceiverFlag) : Action σ Bool := do
  let raw ← .transceiver .readStatus (.readRegister flag.source.register)
  return flag.decode raw

def RecoveredRate.read : Action σ RecoveredRate := do
  let raw ← .transceiver .readStatus (.readRegister Transceiver.receiverStatus)
  return decode raw

/-- The received channel status. -/
def ChannelStatus.readReceived : Action σ ChannelStatus := readStatus Transceiver.receivedStatus

end SoundCard
