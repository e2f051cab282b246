/-!
# Rates, widths and ranges

A stream has a rate and a sample width, both of which the converters support only in a range.
`StreamRate` and `SampleWidth` carry the proof that they lie in it, and `StreamRate.ofHz` and
`SampleWidth.ofBits` are the only checks anyone needs. Clocks are whole multiples of a rate, and
`scaled` is that product.
-/

namespace SoundCard

/-- A frequency in hertz. -/
abbrev Hz := UInt32

/-- The product of a frequency and a whole ratio, held at the largest 32-bit value where it would
not fit. -/
def scaled (hz ratio : UInt32) : UInt32 :=
  UInt32.ofNat (min (hz.toNat * ratio.toNat) (UInt32.size - 1))

theorem toNat_scaled (hz ratio : UInt32) :
    (scaled hz ratio).toNat = min (hz.toNat * ratio.toNat) (UInt32.size - 1) := by
  have h : min (hz.toNat * ratio.toNat) (UInt32.size - 1) < UInt32.size := by
    simp only [UInt32.size]; omega
  rw [scaled, UInt32.toNat_ofNat_of_lt' h]

/-- A product that fits in 32 bits is exact. -/
theorem toNat_scaled_of_lt {hz ratio : UInt32} (h : hz.toNat * ratio.toNat < UInt32.size) :
    (scaled hz ratio).toNat = hz.toNat * ratio.toNat := by
  rw [toNat_scaled]; omega

/-- A number that a range does not admit. -/
structure OutOfRange where
  value : UInt32
  min : UInt32
  max : UInt32
  deriving DecidableEq

def OutOfRange.message (e : OutOfRange) : String :=
  s!"{e.value} outside {e.min}..={e.max}"

/-- The frame rate of a stream, in the range the converters support. -/
structure StreamRate where
  hz : Hz
  lower : 8000 ≤ hz
  upper : hz ≤ 192000
  deriving DecidableEq

namespace StreamRate

def minHz : Hz := 8000

def maxHz : Hz := 192000

def ofHz (hz : Hz) : Except OutOfRange StreamRate :=
  if h : minHz ≤ hz ∧ hz ≤ maxHz then .ok ⟨hz, h.1, h.2⟩ else .error ⟨hz, minHz, maxHz⟩

end StreamRate

/-- The bits of a sample on the wire. -/
structure SampleWidth where
  bits : UInt32
  lower : 8 ≤ bits
  upper : bits ≤ 32
  deriving DecidableEq

namespace SampleWidth

def minBits : UInt32 := 8

def maxBits : UInt32 := 32

def ofBits (bits : UInt32) : Except OutOfRange SampleWidth :=
  if h : minBits ≤ bits ∧ bits ≤ maxBits then .ok ⟨bits, h.1, h.2⟩
  else .error ⟨bits, minBits, maxBits⟩

def s16 : SampleWidth := ⟨16, by decide, by decide⟩

def s24 : SampleWidth := ⟨24, by decide, by decide⟩

def s32 : SampleWidth := ⟨32, by decide, by decide⟩

/-- Bit clocks in one stereo frame: two samples. -/
def bitClockRatio (w : SampleWidth) : UInt32 := scaled w.bits 2

end SampleWidth

/-- The rates from `min` to `max`, both included. -/
structure RateRange where
  min : Hz
  max : Hz
  deriving DecidableEq

instance : Membership Hz RateRange where
  mem w hz := w.min ≤ hz ∧ hz ≤ w.max

instance (hz : Hz) (w : RateRange) : Decidable (hz ∈ w) :=
  inferInstanceAs (Decidable (w.min ≤ hz ∧ hz ≤ w.max))

end SoundCard
