import SoundCard.Proofs.Confined
import SoundCard.Proofs.Entries

/-!
# Interleaved histories

Two sequences of operations, each confined to its own side of a cut, take nothing from each other:
in every interleaving of them each sequence is answered as if it were played alone, and leaves its
side as it would alone (`Card.play_interleaving`).
-/

namespace SoundCard

section Lists

variable {α β : Type} {xs ys zs : List α}

/-- The third list takes the elements of the other two, each in its own order. -/
inductive Interleaving : List α → List α → List α → Prop
  | nil : Interleaving [] [] []
  | left (a : α) {xs ys zs : List α} : Interleaving xs ys zs → Interleaving (a :: xs) ys (a :: zs)
  | right (a : α) {xs ys zs : List α} : Interleaving xs ys zs → Interleaving xs (a :: ys) (a :: zs)

namespace Interleaving

theorem symm (h : Interleaving xs ys zs) : Interleaving ys xs zs := by
  induction h with
  | nil => exact .nil
  | left a _ ih => exact .right a ih
  | right a _ ih => exact .left a ih

theorem perm (h : Interleaving xs ys zs) : zs.Perm (xs ++ ys) := by
  induction h with
  | nil => exact .refl []
  | left a _ ih => exact ih.cons a
  | right a _ ih => exact (ih.cons a).trans List.perm_middle.symm

/-- What tells the lists apart takes the one back out. -/
theorem filter_eq_left {p : α → Bool} (h : Interleaving xs ys zs) (hx : ∀ a ∈ xs, p a = true)
    (hy : ∀ a ∈ ys, p a = false) : zs.filter p = xs := by
  induction h with
  | nil => rfl
  | left a _ ih =>
    obtain ⟨ha, hx⟩ := List.forall_mem_cons.1 hx
    rw [List.filter_cons_of_pos ha, ih hx hy]
  | right a _ ih =>
    obtain ⟨ha, hy⟩ := List.forall_mem_cons.1 hy
    rw [List.filter_cons_of_neg (by simp [ha]), ih hx hy]

theorem append_left (xs ys : List α) : Interleaving xs ys (xs ++ ys) := by
  induction xs with
  | nil =>
    induction ys with
    | nil => exact .nil
    | cons a ys ih => exact .right a ih
  | cons a xs ih => exact .left a ih

end Interleaving

end Lists

/-- The rest, with the part as the rest of it. -/
def Cut.swap {σ υ ρ : Type} (cut : Cut σ υ ρ) : Cut σ ρ υ := ⟨cut.rest, cut.part⟩

/-- What came of an operation, apart from the card it left. -/
def Entry.outcome (e : Entry) : Operation × Except CardError Answer × List Event :=
  (e.operation, e.result, e.events)

namespace Played

variable {H : Type}

def outcomes (p : Played H) : List (Operation × Except CardError Answer × List Event) :=
  p.entries.map Entry.outcome

theorem events_eq_flatMap (p : Played H) : p.events = p.outcomes.flatMap (·.2.2) := by
  rw [events, outcomes, List.flatMap_map]
  rfl

end Played

namespace Card

variable {H υ ρ υ' ρ' : Type} {dev : Device H} {side : Cut H υ' ρ'} {cut : Cut Card υ ρ}
  {xs ys ops : List Operation}

theorem operation_of_mem_outcomes {o : Operation × Except CardError Answer × List Event}
    (ops : List Operation) (c : Card) (h : H) (ho : o ∈ (play dev ops c h).outcomes) :
    o.1 ∈ ops := by
  obtain ⟨e, he, rfl⟩ := List.mem_map.1 ho
  exact operation_of_mem_entries dev ops c h he

theorem outcomes_play_cons (op : Operation) (c : Card) (g : H) :
    (play dev (op :: ops) c g).outcomes =
      (let run := (op.perform c).run dev g
       (op, run.value.1, run.events) :: (play dev ops run.value.2 run.hardware).outcomes) := rfl

/-- Each sequence meets in the interleaving what it meets when played alone, from a card and
hardware that agree on its side. One side takes a step at a time, and the other one is as it was,
however far it has come alone. -/
theorem play_interleaving (h : Interleaving xs ys ops)
    (hx : ∀ op ∈ xs, op.perform.Confined dev side cut)
    (hy : ∀ op ∈ ys, op.perform.Confined dev side.swap cut.swap)
    (c c₁ c₂ : Card) (g g₁ g₂ : H) (hc₁ : cut.part c = cut.part c₁)
    (hg₁ : side.part g = side.part g₁) (hc₂ : cut.rest c = cut.rest c₂)
    (hg₂ : side.rest g = side.rest g₂) :
    let p := play dev ops c g
    let p₁ := play dev xs c₁ g₁
    let p₂ := play dev ys c₂ g₂
    Interleaving p₁.outcomes p₂.outcomes p.outcomes ∧
      (cut.part p.card = cut.part p₁.card ∧ side.part p.hardware = side.part p₁.hardware) ∧
      cut.rest p.card = cut.rest p₂.card ∧ side.rest p.hardware = side.rest p₂.hardware := by
  induction h generalizing c c₁ c₂ g g₁ g₂ with
  | nil => exact ⟨.nil, ⟨hc₁, hg₁⟩, hc₂, hg₂⟩
  | left op _ ih =>
    obtain ⟨hop, hx⟩ := List.forall_mem_cons.1 hx
    obtain ⟨⟨hr, hes⟩, ⟨hc, hg⟩, hrest, hrest'⟩ := hop c c₁ g g₁ hc₁ hg₁
    obtain ⟨hout, hparts⟩ := ih hx hy _ _ c₂ _ _ g₂ hc hg (hrest.trans hc₂) (hrest'.trans hg₂)
    refine ⟨?_, hparts⟩
    rw [outcomes_play_cons, outcomes_play_cons]
    simp only [hr, hes]
    exact hout.left _
  | right op _ ih =>
    obtain ⟨hop, hy⟩ := List.forall_mem_cons.1 hy
    obtain ⟨⟨hr, hes⟩, ⟨hc, hg⟩, hrest, hrest'⟩ := hop c c₂ g g₂ hc₂ hg₂
    obtain ⟨hout, hparts⟩ := ih hx hy _ c₁ _ _ g₁ _ (hrest.trans hc₁) (hrest'.trans hg₁) hc hg
    refine ⟨?_, hparts⟩
    rw [outcomes_play_cons, outcomes_play_cons]
    simp only [hr, hes]
    exact hout.right _

end Card

end SoundCard
