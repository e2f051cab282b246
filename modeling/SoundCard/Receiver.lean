import SoundCard.Hardware.Transceiver

/-!
# Receiver status

What the status registers of the transceiver say of the S/PDIF input. A flag is one bit of one
register, which some flags read inverted; the class of the recovered rate is a field of two bits.
-/

namespace SoundCard

inductive ReceiverFlag
  | audio
  | nonPcm
  | copyright
  | deEmphasis
  | lock
  | invalid
  | transmissionError
  deriving DecidableEq

/-- Where a flag is read from. -/
structure FlagSource where
  register : UInt8
  bit : UInt8
  /-- The flag holds where the bit is clear. -/
  inverted : Bool
  deriving DecidableEq

namespace ReceiverFlag

def all : List ReceiverFlag :=
  [.audio, .nonPcm, .copyright, .deEmphasis, .lock, .invalid, .transmissionError]

def label : ReceiverFlag → String
  | .audio => "Audio"
  | .nonPcm => "Non-PCM"
  | .copyright => "Copyright"
  | .deEmphasis => "De-Emphasis"
  | .lock => "Lock"
  | .invalid => "Invalid"
  | .transmissionError => "TransErr"

def source : ReceiverFlag → FlagSource
  | .audio => ⟨Transceiver.receiverStatus, 0, true⟩
  | .nonPcm => ⟨Transceiver.receiverStatus, 1, false⟩
  | .copyright => ⟨Transceiver.receiverStatus, 2, true⟩
  | .deEmphasis => ⟨Transceiver.receiverStatus, 3, false⟩
  | .lock => ⟨Transceiver.receiverStatus, 6, true⟩
  | .invalid => ⟨Transceiver.interruptStatus, 1, false⟩
  | .transmissionError => ⟨Transceiver.interruptStatus, 3, false⟩

/-- The flag in a value of its register. -/
def decode (f : ReceiverFlag) (raw : UInt8) : Bool :=
  (raw &&& (1 <<< f.source.bit) != 0) != f.source.inverted

end ReceiverFlag

/-- The class of the rate recovered from the input. -/
inductive RecoveredRate
  | khz176or192
  | khz88or96
  | khz44or48
  | khz32
  deriving DecidableEq

namespace RecoveredRate

/-- The classes in the order of the field's values. -/
def all : List RecoveredRate := [.khz176or192, .khz88or96, .khz44or48, .khz32]

/-- The class in a value of the receiver status register. -/
def decode (raw : UInt8) : RecoveredRate :=
  match (raw >>> 4) &&& 3 with
  | 0 => .khz176or192
  | 1 => .khz88or96
  | 2 => .khz44or48
  | _ => .khz32

def index : RecoveredRate → Nat
  | .khz176or192 => 0
  | .khz88or96 => 1
  | .khz44or48 => 2
  | .khz32 => 3

def name : RecoveredRate → String
  | .khz176or192 => "176.4/192 kHz"
  | .khz88or96 => "88.2/96 kHz"
  | .khz44or48 => "44.1/48 kHz"
  | .khz32 => "32 kHz"

/-- The class at an index, or the last one where the index is past the field. -/
def select (i : Nat) : RecoveredRate := all[i]?.getD .khz32

end RecoveredRate

end SoundCard
