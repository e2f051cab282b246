import SoundCard.Hardware.Call

/-!
# Scripted hardware

Hardware whose failures are laid down in advance: its calls are numbered from zero, and a schedule
says which of them fail, and how. A failed call changes nothing. Any pattern of failures is a
schedule.
-/

namespace SoundCard

/-- A run of failing calls. -/
structure Fault where
  /-- The number of the first. -/
  first : Nat
  count : Nat := 1
  failure : Failure
  deriving DecidableEq

def Fault.covers (f : Fault) (number : Nat) : Bool :=
  f.first ≤ number && number < f.first + f.count

/-- Which calls fail, by number. -/
def Schedule := Nat → Option Failure

/-- Of several faults that cover a call, the first one counts. -/
def Schedule.ofFaults (faults : List Fault) : Schedule :=
  fun number => (faults.find? (·.covers number)).map (·.failure)

/-- The number of the next call, and the registers of the transceiver. -/
structure Scripted where
  number : Nat := 0
  registers : Registers := .zero
  deriving DecidableEq

namespace Scripted

/-- What an accepted call answers, and the registers it leaves. -/
def accept (r : Registers) : (c : Call) → c.Answer × Registers
  | .codec _ => ((), r)
  | .transceiver c => r.accept c
  | .bitClockRatio _ => ((), r)

def device (schedule : Schedule) : Device Scripted where
  perform c s :=
    match schedule s.number with
    | some f => (.error f, { s with number := s.number + 1 })
    | none =>
      let (answer, registers) := accept s.registers c
      (.ok answer, { number := s.number + 1, registers })
  wait _ s := s

end Scripted

end SoundCard
