import SoundCard.Bench.Bounded

/-!
# Call recorders

A simulated component records its calls, each with a stamp that orders it among the calls of all
components, and can be told which calls to fail. It has room for 128 recorded calls and for 8
failing ones.
-/

namespace SoundCard

structure Recorder (C : Type) where
  /-- The calls with their stamps, oldest first. -/
  log : Bounded (Nat × C) 128 := ∅
  failing : Bounded C 8 := ∅
  deriving DecidableEq

namespace Recorder

variable {C : Type}

def calls (r : Recorder C) : List C := r.log.toList.map (·.2)

def record (r : Recorder C) (stamp : Nat) (c : C) : Recorder C :=
  { r with log := r.log.push (stamp, c) }

/-- Every later call equal to `c` fails, if there is room for `c`. -/
def injectFailure (r : Recorder C) (c : C) : Recorder C := { r with failing := r.failing.push c }

def forgetFailures (r : Recorder C) : Recorder C := { r with failing := ∅ }

/-- Forgets the recorded calls. -/
def reset (r : Recorder C) : Recorder C := { r with log := ∅ }

variable [DecidableEq C]

def fails (r : Recorder C) (c : C) : Bool := decide (c ∈ r.failing.toList)

/-- The stamp of the first recorded call equal to `c`. -/
def stampOf? (r : Recorder C) (c : C) : Option Nat :=
  (r.log.toList.find? (·.2 == c)).map (·.1)

end Recorder

end SoundCard
