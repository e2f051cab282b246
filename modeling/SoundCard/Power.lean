/-!
# Power

The power framework walks each domain of the card up and down the bias levels, and powers widgets
of its graph up and down. Both are announced to the card.
-/

namespace SoundCard

/-- The levels of a power domain, lowest first. -/
inductive BiasLevel
  | off
  | standby
  | prepare
  | on
  deriving DecidableEq

namespace BiasLevel

def label : BiasLevel → String
  | .off => "off"
  | .standby => "standby"
  | .prepare => "prepare"
  | .on => "on"

def rank : BiasLevel → Nat
  | .off => 0
  | .standby => 1
  | .prepare => 2
  | .on => 3

instance : Ord BiasLevel := ⟨fun a b => compare a.rank b.rank⟩

end BiasLevel

inductive PowerDomain
  | card
  | codec
  | transceiver
  deriving DecidableEq

/-- A power change of a widget, announced before or after it happens. -/
inductive PowerEvent
  | beforeUp
  | afterUp
  | beforeDown
  | afterDown
  deriving DecidableEq

/-- The events a widget asks for. -/
structure EventSet where
  beforeUp : Bool := false
  afterUp : Bool := false
  beforeDown : Bool := false
  afterDown : Bool := false
  deriving DecidableEq

namespace EventSet

instance : EmptyCollection EventSet := ⟨{}⟩

def contains (m : EventSet) : PowerEvent → Bool
  | .beforeUp => m.beforeUp
  | .afterUp => m.afterUp
  | .beforeDown => m.beforeDown
  | .afterDown => m.afterDown

def singleton : PowerEvent → EventSet
  | .beforeUp => { beforeUp := true }
  | .afterUp => { afterUp := true }
  | .beforeDown => { beforeDown := true }
  | .afterDown => { afterDown := true }

def union (m n : EventSet) : EventSet where
  beforeUp := m.beforeUp || n.beforeUp
  afterUp := m.afterUp || n.afterUp
  beforeDown := m.beforeDown || n.beforeDown
  afterDown := m.afterDown || n.afterDown

instance : Union EventSet := ⟨union⟩

def ofList (events : List PowerEvent) : EventSet := events.foldl (· ∪ singleton ·) ∅

/-- The events of the mask, those of powering up first. -/
def toList (m : EventSet) : List PowerEvent :=
  [.beforeUp, .afterUp, .beforeDown, .afterDown].filter m.contains

@[simp] theorem contains_union (m n : EventSet) (e : PowerEvent) :
    (m ∪ n).contains e = (m.contains e || n.contains e) := by
  cases e <;> rfl

@[simp] theorem contains_singleton (d e : PowerEvent) :
    (singleton d).contains e = decide (e = d) := by
  cases d <;> cases e <;> rfl

end EventSet

end SoundCard
