import SoundCard.Operation
import SoundCard.Trace

/-!
# Histories

A card worked by one operation after another, whether they succeed or not. `Card.play` keeps an
entry for each, and `play_append` says that a history may be cut anywhere and played on from there.
-/

namespace SoundCard

/-- What one operation of a history did, with the card it left. -/
structure Entry where
  operation : Operation
  result : Except CardError Answer
  events : List Event
  card : Card

/-- A history that has been played. -/
structure Played (H : Type) where
  entries : List Entry
  card : Card
  hardware : H

namespace Played

variable {H : Type}

/-- All that happened, in order. -/
def events (p : Played H) : List Event := p.entries.flatMap (·.events)

end Played

namespace Card

variable {H : Type}

def play (dev : Device H) : List Operation → Card → H → Played H
  | [], c, h => ⟨[], c, h⟩
  | op :: ops, c, h =>
    let run := (op.perform c).run dev h
    let rest := play dev ops run.value.2 run.hardware
    { rest with entries := ⟨op, run.value.1, run.events, run.value.2⟩ :: rest.entries }

theorem play_append (dev : Device H) (first second : List Operation) (c : Card) (h : H) :
    play dev (first ++ second) c h =
      let p := play dev first c h
      let q := play dev second p.card p.hardware
      ⟨p.entries ++ q.entries, q.card, q.hardware⟩ := by
  induction first generalizing c h with
  | nil => rfl
  | cons op ops ih => simp only [List.cons_append, play, ih]

end Card

end SoundCard
