/-!
# Bounded lists

A list that takes no more than `capacity` elements: what is pushed onto a full one is dropped.
-/

namespace SoundCard

structure Bounded (α : Type) (capacity : Nat) where
  toList : List α
  length_le : toList.length ≤ capacity
  deriving DecidableEq

namespace Bounded

variable {α : Type} {capacity : Nat}

def empty : Bounded α capacity := ⟨[], Nat.zero_le _⟩

instance : EmptyCollection (Bounded α capacity) := ⟨empty⟩

instance : Inhabited (Bounded α capacity) := ⟨empty⟩

/-- Puts an element at the end, if there is room. -/
def push (b : Bounded α capacity) (a : α) : Bounded α capacity :=
  if h : b.toList.length < capacity then
    ⟨b.toList ++ [a], by rw [List.length_append]; exact h⟩
  else b

/-- Pushing keeps the first `capacity` elements. -/
theorem toList_push (b : Bounded α capacity) (a : α) :
    (b.push a).toList = (b.toList ++ [a]).take capacity := by
  have hle := b.length_le
  unfold push
  split
  · rename_i h
    exact (List.take_of_length_le (by rw [List.length_append]; exact h)).symm
  · rename_i h
    rw [List.take_append_of_le_length (by omega), List.take_of_length_le hle]

end Bounded

end SoundCard
