import SoundCard.Rate

/-!
# Streams

A stream runs in one of two directions and holds parameters once they are negotiated. While it
opens, a `RateConstraint` says which rates it may still ask for.
-/

namespace SoundCard

/-- Playback runs from the processor to the codec, capture the other way. -/
inductive Direction
  | playback
  | capture
  deriving DecidableEq

namespace Direction

def label : Direction → String
  | .playback => "playback"
  | .capture => "capture"

/-- The bit that stands for the direction where a set of directions is written as a mask. -/
def bit : Direction → UInt8
  | .playback => 1
  | .capture => 2

end Direction

/-- The directions that hold negotiated parameters. -/
structure ActiveStreams where
  playback : Bool
  capture : Bool
  deriving DecidableEq

namespace ActiveStreams

def empty : ActiveStreams := ⟨false, false⟩

instance : EmptyCollection ActiveStreams := ⟨empty⟩

instance : Inhabited ActiveStreams := ⟨empty⟩

def contains (s : ActiveStreams) : Direction → Bool
  | .playback => s.playback
  | .capture => s.capture

instance : Membership Direction ActiveStreams where
  mem s d := s.contains d = true

instance (d : Direction) (s : ActiveStreams) : Decidable (d ∈ s) :=
  inferInstanceAs (Decidable (s.contains d = true))

def insert (s : ActiveStreams) : Direction → ActiveStreams
  | .playback => { s with playback := true }
  | .capture => { s with capture := true }

def erase (s : ActiveStreams) : Direction → ActiveStreams
  | .playback => { s with playback := false }
  | .capture => { s with capture := false }

def isEmpty (s : ActiveStreams) : Bool := !s.playback && !s.capture

/-- The set written as a mask, with a bit for each direction in it. -/
def mask (s : ActiveStreams) : UInt8 :=
  (if s.playback then Direction.playback.bit else 0) |||
    (if s.capture then Direction.capture.bit else 0)

variable {s : ActiveStreams} {d e : Direction}

@[simp] theorem mem_insert : e ∈ s.insert d ↔ e = d ∨ e ∈ s := by
  cases d <;> cases e <;> simp [Membership.mem, insert, contains]

@[simp] theorem mem_erase : e ∈ s.erase d ↔ e ≠ d ∧ e ∈ s := by
  cases d <;> cases e <;> simp [Membership.mem, erase, contains]

@[simp] theorem isEmpty_iff : s.isEmpty = true ↔ ∀ d, d ∉ s := by
  obtain ⟨p, c⟩ := s
  constructor
  · intro h d
    cases d <;> simp_all [isEmpty, Membership.mem, contains]
  · intro h
    have hp := h .playback
    have hc := h .capture
    simp_all [isEmpty, Membership.mem, contains]

section Mask

variable (s : ActiveStreams) (d : Direction)

theorem mask_empty : (∅ : ActiveStreams).mask = 0 := rfl

theorem mask_inj {s t : ActiveStreams} : s.mask = t.mask ↔ s = t := by
  obtain ⟨p, c⟩ := s
  obtain ⟨p', c'⟩ := t
  revert p c p' c'
  decide

theorem mask_insert : (s.insert d).mask = s.mask ||| d.bit := by
  obtain ⟨p, c⟩ := s
  cases p <;> cases c <;> cases d <;> rfl

theorem mask_erase : (s.erase d).mask = s.mask &&& ~~~d.bit := by
  obtain ⟨p, c⟩ := s
  cases p <;> cases c <;> cases d <;> rfl

theorem contains_eq_mask : s.contains d = (s.mask &&& d.bit != 0) := by
  obtain ⟨p, c⟩ := s
  cases p <;> cases c <;> cases d <;> rfl

theorem isEmpty_eq_mask : s.isEmpty = (s.mask == 0) := by
  obtain ⟨p, c⟩ := s
  cases p <;> cases c <;> rfl

end Mask

end ActiveStreams

/-- The parameters a stream settles on. -/
structure StreamParams where
  rate : StreamRate
  width : SampleWidth
  deriving DecidableEq

/-- Checks the rate before the width. -/
def StreamParams.ofNumbers (rate width : UInt32) : Except OutOfRange StreamParams := do
  let rate ← StreamRate.ofHz rate
  let width ← SampleWidth.ofBits width
  return ⟨rate, width⟩

/-- What an opening stream may still ask for; `none` leaves it free. -/
structure RateConstraint where
  range : Option RateRange := none
  deriving DecidableEq

namespace RateConstraint

/-- Confines the stream to `range`, whatever confined it before. -/
def confine (_ : RateConstraint) (range : RateRange) : RateConstraint := ⟨some range⟩

def Permits (c : RateConstraint) (hz : Hz) : Prop := ∀ w ∈ c.range, hz ∈ w

end RateConstraint

end SoundCard
