import SoundCard.CardError
import SoundCard.Program

/-!
# Actions

An `Action σ α` is work on the hardware that reads and changes a state of type `σ`, and ends in a
value or in an error. An error ends the work but keeps the state as it was left, so what an action
wrote before it failed stays written.
-/

namespace SoundCard

def Action (σ α : Type) : Type := σ → Program (Except CardError α × σ)

namespace Action

variable {σ τ α β : Type}

/-- Goes on with the value, or ends in the error. -/
def proceed (f : α → Action σ β) : Except CardError α × σ → Program (Except CardError β × σ)
  | (.ok a, s) => f a s
  | (.error e, s) => .done (.error e, s)

instance : Monad (Action σ) where
  pure a := fun s => .done (.ok a, s)
  bind x f := fun s => (x s).bind (proceed f)

theorem bind_apply (x : Action σ α) (f : α → Action σ β) (s : σ) :
    (x >>= f) s = (x s).bind (proceed f) := rfl

def state : Action σ σ := fun s => .done (.ok s, s)

def update (f : σ → σ) : Action σ Unit := fun s => .done (.ok (), f s)

def ofExcept (r : Except CardError α) : Action σ α := fun s => .done (r, s)

def fail (e : CardError) : Action σ α := ofExcept (.error e)

def log (line : LogLine) : Action σ Unit := fun s => .log line (.done (.ok (), s))

def wait (us : UInt32) : Action σ Unit := fun s => .wait us (.done (.ok (), s))

/-- Issues a call; a failure is reported under the name of the step. -/
def perform (step : CardStep) (c : Call) : Action σ c.Answer :=
  fun s => .call c fun r => .done (r.mapError (.hardware step), s)

def codec (step : CardStep) (c : CodecCall) : Action σ Unit := perform step (.codec c)

def transceiver (step : CardStep) (c : TransceiverCall) : Action σ c.Answer :=
  perform step (.transceiver c)

/-- Never fails: the error becomes part of the value. -/
def attempt (x : Action σ α) : Action σ (Except CardError α) :=
  fun s => (x s).map fun (r, s) => (.ok r, s)

/-- Logs the line where there is an error. -/
def logFailure (line : LogLine) : Except CardError α → Action σ Unit
  | .ok _ => pure ()
  | .error _ => log line

/-- Logs the line where the action fails, and fails with it. -/
def orLog (x : Action σ α) (line : LogLine) : Action σ α := do
  let r ← x.attempt
  logFailure line r
  ofExcept r

/-- Work on a part of the state, given how to read and to replace that part. -/
def within (get : τ → σ) (set : σ → τ → τ) (x : Action σ α) : Action τ α :=
  fun t => (x (get t)).map fun (r, s) => (r, set s t)

end Action

end SoundCard
