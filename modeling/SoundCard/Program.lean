import SoundCard.Hardware.Call
import SoundCard.LogLine

/-!
# Programs

Work on the hardware, as a tree: each call branches on how it may be answered, so one tree holds
what happens for every pattern of failures. `Program.run` follows the branch a device picks and
keeps the events on the way, in order; `run_bind` says that the events of two programs in sequence
are those of the first followed by those of the second.
-/

namespace SoundCard

inductive Program (α : Type)
  | done (value : α)
  | call (c : Call) (next : Except Failure c.Answer → Program α)
  | wait (us : UInt32) (next : Program α)
  | log (line : LogLine) (next : Program α)

namespace Program

variable {α β γ : Type}

/-- First the one program, then the one its value picks. -/
def bind : Program α → (α → Program β) → Program β
  | .done a, f => f a
  | .call c next, f => .call c fun r => (next r).bind f
  | .wait us next, f => .wait us (next.bind f)
  | .log line next, f => .log line (next.bind f)

def map (f : α → β) (p : Program α) : Program β := p.bind fun a => .done (f a)

@[simp] theorem done_bind (a : α) (f : α → Program β) : (done a).bind f = f a := rfl

@[simp] theorem call_bind (c : Call) (next : Except Failure c.Answer → Program α)
    (f : α → Program β) : (call c next).bind f = call c fun r => (next r).bind f := rfl

@[simp] theorem wait_bind (us : UInt32) (next : Program α) (f : α → Program β) :
    (wait us next).bind f = wait us (next.bind f) := rfl

@[simp] theorem log_bind (line : LogLine) (next : Program α) (f : α → Program β) :
    (log line next).bind f = log line (next.bind f) := rfl

theorem bind_assoc (p : Program α) (f : α → Program β) (g : β → Program γ) :
    (p.bind f).bind g = p.bind fun a => (f a).bind g := by
  induction p with
  | done a => rfl
  | call c next ih => exact congrArg (call c) (funext ih)
  | wait us next ih => exact congrArg (wait us) ih
  | log line next ih => exact congrArg (log line) ih

end Program

/-- What happens while a program runs. -/
inductive Event
  /-- A call, with the failure it met. -/
  | call (c : Call) (failure : Option Failure)
  | wait (us : UInt32)
  | log (line : LogLine)
  deriving DecidableEq

/-- A finished run: its value, the hardware it leaves and what happened, in order. -/
structure Run (H α : Type) where
  value : α
  hardware : H
  events : List Event

/-- The run with an earlier event put in front. -/
def Run.after {H α : Type} (e : Event) (r : Run H α) : Run H α := { r with events := e :: r.events }

namespace Program

variable {H α β : Type}

def run (dev : Device H) : Program α → H → Run H α
  | .done a, h => ⟨a, h, []⟩
  | .call c next, h =>
    let (r, h') := dev.perform c h
    ((next r).run dev h').after (.call c (failureOf r))
  | .wait us next, h => (next.run dev (dev.wait us h)).after (.wait us)
  | .log line next, h => (next.run dev h).after (.log line)

theorem run_bind (dev : Device H) (p : Program α) (f : α → Program β) (h : H) :
    (p.bind f).run dev h =
      let first := p.run dev h
      let second := (f first.value).run dev first.hardware
      ⟨second.value, second.hardware, first.events ++ second.events⟩ := by
  induction p generalizing h with
  | done a => rfl
  | call c next ih => simp only [bind, run, ih, Run.after, List.cons_append]
  | wait us next ih => simp only [bind, run, ih, Run.after, List.cons_append]
  | log line next ih => simp only [bind, run, ih, Run.after, List.cons_append]

end Program

end SoundCard
