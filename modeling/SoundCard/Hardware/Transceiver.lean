import SoundCard.Rate

/-!
# The S/PDIF transceiver

The WM8804 sends and receives S/PDIF. Its status lives in byte registers, and a masked write
touches the bits of its mask only (`Registers.update`).
-/

namespace SoundCard

/-- What a clock output of the transceiver is driven by. -/
inductive TransceiverClock
  /-- The transmitter runs from the PLL. -/
  | transmitPll
  /-- CLKOUT runs from the oscillator. -/
  | clkoutOscillator
  deriving DecidableEq

/-- A request to the transceiver. -/
inductive TransceiverCall
  | readRegister (register : UInt8)
  | updateBits (register mask value : UInt8)
  | setPll (fref fout : Hz)
  | setClock (source : TransceiverClock) (hz : Hz)
  | setMclkDivider (value : UInt8)
  deriving DecidableEq

/-- A read is answered with the byte it found. -/
abbrev TransceiverCall.Answer : TransceiverCall → Type
  | .readRegister _ => UInt8
  | _ => Unit

namespace TransceiverCall

def isUpdate : TransceiverCall → Bool
  | .updateBits _ _ _ => true
  | _ => false

/-- The register a call reads or writes. -/
def register? : TransceiverCall → Option UInt8
  | .readRegister register | .updateBits register _ _ => some register
  | .setPll _ _ | .setClock _ _ | .setMclkDivider _ => none

end TransceiverCall

/-- `value` under `mask`, and `old` elsewhere. -/
def maskedByte (old mask value : UInt8) : UInt8 := (old &&& ~~~mask) ||| (value &&& mask)

/-- A register file: one byte for each address. -/
structure Registers where
  bytes : Vector UInt8 UInt8.size
  deriving DecidableEq

namespace Registers

def zero : Registers := ⟨Vector.replicate UInt8.size 0⟩

instance : Inhabited Registers := ⟨zero⟩

def read (r : Registers) (i : UInt8) : UInt8 := r.bytes[i.toFin]

def write (r : Registers) (i value : UInt8) : Registers := ⟨r.bytes.set i.toFin value⟩

/-- Writes `value` under `mask`, and keeps the other bits of the register. -/
def update (r : Registers) (i mask value : UInt8) : Registers :=
  r.write i (maskedByte (r.read i) mask value)

theorem read_write (r : Registers) (i j value : UInt8) :
    (r.write i value).read j = if j = i then value else r.read j := by
  by_cases h : j = i
  · subst h
    simp [read, write]
  · have hne : i.toNat ≠ j.toNat := fun e => h (UInt8.toNat_inj.1 e.symm)
    simp [read, write, h, hne]

@[simp] theorem read_write_self (r : Registers) (i value : UInt8) :
    (r.write i value).read i = value := by
  rw [read_write, if_pos rfl]

theorem read_write_of_ne (r : Registers) {i j : UInt8} (value : UInt8) (h : j ≠ i) :
    (r.write i value).read j = r.read j := by
  rw [read_write, if_neg h]

/-- What an accepted call answers and leaves: only the calls on registers touch them. -/
def accept (r : Registers) : (c : TransceiverCall) → c.Answer × Registers
  | .readRegister i => (r.read i, r)
  | .updateBits i mask value => ((), r.update i mask value)
  | .setPll _ _ | .setClock _ _ | .setMclkDivider _ => ((), r)

end Registers

namespace Transceiver

/-- What CLKOUT runs at, from the oscillator. -/
def clkoutHz : Hz := 12000000

/-- PLL output clocks in one frame. -/
def pllRatio : UInt32 := 256

/-- The lowest rate the PLL can be programmed for. -/
def minPllRate : Hz := 32000

/-- The divider setting that gives MCLK 256 clocks in a frame. -/
def mclkDivider256 : UInt8 := 0

/-- Interrupt status. -/
def interruptStatus : UInt8 := 0x0B

/-- Receiver status. -/
def receiverStatus : UInt8 := 0x0C

/-- The register of the first byte of the received channel status; the others follow it. -/
def receivedStatus : UInt8 := 0x0D

/-- The register of the first byte of the transmitted channel status; the others follow it. -/
def transmittedStatus : UInt8 := 0x12

/-- The register of byte `i` of the transmitted channel status. -/
def transmitRegister (i : Fin 4) : UInt8 := transmittedStatus + UInt8.ofNat i

end Transceiver

end SoundCard
