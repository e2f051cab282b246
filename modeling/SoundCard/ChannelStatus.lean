/-!
# Channel status

S/PDIF carries a channel status beside the samples, four bytes of which the transceiver knows. The
top two bits of the last byte do not exist in it, so a status counts only under `mask`.
-/

namespace SoundCard

structure ChannelStatus where
  bytes : Vector UInt8 4
  deriving DecidableEq

namespace ChannelStatus

def zero : ChannelStatus := ⟨#v[0, 0, 0, 0]⟩

instance : Inhabited ChannelStatus := ⟨zero⟩

/-- The bits the transceiver has. -/
def mask : ChannelStatus := ⟨#v[0xFF, 0xFF, 0xFF, 0x3F]⟩

def byte (s : ChannelStatus) (i : Fin 4) : UInt8 := s.bytes[i]

def setByte (s : ChannelStatus) (i : Fin 4) (b : UInt8) : ChannelStatus := ⟨s.bytes.set i b⟩

/-- The status with the bits that do not exist cleared. -/
def masked (s : ChannelStatus) : ChannelStatus := ⟨Vector.ofFn fun i => s.byte i &&& mask.byte i⟩

@[ext] theorem ext {s t : ChannelStatus} (h : ∀ i, s.byte i = t.byte i) : s = t := by
  obtain ⟨s⟩ := s
  obtain ⟨t⟩ := t
  congr 1
  exact Vector.ext fun i hi => h ⟨i, hi⟩

@[simp] theorem byte_masked (s : ChannelStatus) (i : Fin 4) :
    s.masked.byte i = s.byte i &&& mask.byte i := by
  simp [masked, byte]

@[simp] theorem byte_setByte_self (s : ChannelStatus) (i : Fin 4) (b : UInt8) :
    (s.setByte i b).byte i = b := by
  simp [setByte, byte]

theorem byte_setByte_of_ne (s : ChannelStatus) {i j : Fin 4} (b : UInt8) (h : j ≠ i) :
    (s.setByte i b).byte j = s.byte j := by
  have : i.val ≠ j.val := fun e => h (Fin.ext e.symm)
  simp [setByte, byte, this]

theorem masked_masked (s : ChannelStatus) : s.masked.masked = s.masked := by
  ext i
  simp [UInt8.and_assoc]

end ChannelStatus

end SoundCard
