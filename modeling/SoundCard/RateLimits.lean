import SoundCard.Rate

/-!
# Rate limits

The user bounds the rates a stream may negotiate with two selectors, each over a small table whose
first entry lifts the bound. An index past the table selects its last entry.
-/

namespace SoundCard

structure RateChoice where
  /-- Zero lifts the bound. -/
  hz : Hz
  name : String
  deriving DecidableEq

/-- The entries of a selector, of which there is at least one. -/
structure RateMenu where
  options : List RateChoice
  nonempty : 0 < options.length := by decide

namespace RateMenu

def size (t : RateMenu) : Nat := t.options.length

def isEmpty (t : RateMenu) : Bool := t.options.isEmpty

/-- The index itself, or the last one where it is past the table. -/
def clamp (t : RateMenu) (i : Nat) : Nat := min i (t.size - 1)

theorem clamp_lt (t : RateMenu) (i : Nat) : t.clamp i < t.size := by
  have := t.nonempty
  simp only [clamp, size]; omega

/-- The entry an index selects. -/
def select (t : RateMenu) (i : Nat) : RateChoice := t.options.get ⟨t.clamp i, t.clamp_lt i⟩

/-- The lower bounds. -/
def lowest : RateMenu where
  options := [⟨0, "off"⟩, ⟨32000, "32kHz"⟩, ⟨44100, "44.1kHz"⟩]

/-- The upper bounds. -/
def highest : RateMenu where
  options := [⟨0, "off"⟩, ⟨48000, "48kHz"⟩, ⟨96000, "96kHz"⟩]

end RateMenu

/-- What the two selectors stand at. -/
structure RateLimits where
  min : Nat
  max : Nat
  deriving DecidableEq

namespace RateLimits

/-- No rate below the transceiver's lowest, and no upper bound. -/
def initial : RateLimits := ⟨1, 0⟩

instance : Inhabited RateLimits := ⟨initial⟩

def selectMin (p : RateLimits) (i : Nat) : RateLimits := { p with min := RateMenu.lowest.clamp i }

def selectMax (p : RateLimits) (i : Nat) : RateLimits := { p with max := RateMenu.highest.clamp i }

/-- The rates a stream may take; `none` when neither bound is set. -/
def range (p : RateLimits) : Option RateRange :=
  let low := (RateMenu.lowest.select p.min).hz
  let high := (RateMenu.highest.select p.max).hz
  if low = 0 ∧ high = 0 then none
  else some ⟨low, if high = 0 then 0xFFFFFFFF else high⟩

end RateLimits

end SoundCard
