import SoundCard.Bench.Recorder
import SoundCard.Hardware.Call

/-!
# The simulated transceiver

Records every call and fails those it was told to fail. It has 64 registers, and refuses calls on
others.
-/

namespace SoundCard

structure BenchTransceiver where
  recorder : Recorder TransceiverCall := {}
  registers : Registers := .zero
  deriving DecidableEq

namespace BenchTransceiver

def registerCount : UInt8 := 64

/-- The answer to a call the bus carried, and the registers it leaves. -/
def carryOut (r : Registers) (c : TransceiverCall) : Except Failure c.Answer × Registers :=
  if c.register?.all (· < registerCount) then
    let (answer, r) := r.accept c
    (.ok answer, r)
  else (.error (.rejected (-22)), r)

def call (b : BenchTransceiver) (stamp : Nat) (c : TransceiverCall) :
    Except Failure c.Answer × BenchTransceiver :=
  let noted := { b with recorder := b.recorder.record stamp c }
  if noted.recorder.fails c then (.error .bus, noted)
  else
    let (answer, registers) := carryOut noted.registers c
    (answer, { noted with registers })

/-- Sets a register from outside; there is nothing to set past the last one. -/
def preset (b : BenchTransceiver) (register value : UInt8) : BenchTransceiver :=
  if register < registerCount then { b with registers := b.registers.write register value } else b

/-- Looks at a register from outside; past the last one there is zero. -/
def peek (b : BenchTransceiver) (register : UInt8) : UInt8 :=
  if register < registerCount then b.registers.read register else 0

/-- The recorded writes to registers. -/
def writes (b : BenchTransceiver) : List TransceiverCall :=
  b.recorder.calls.filter (·.isUpdate)

def injectFailure (b : BenchTransceiver) (c : TransceiverCall) : BenchTransceiver :=
  { b with recorder := b.recorder.injectFailure c }

def forgetCalls (b : BenchTransceiver) : BenchTransceiver :=
  { b with recorder := b.recorder.reset }

end BenchTransceiver

end SoundCard
