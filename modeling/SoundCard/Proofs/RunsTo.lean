import SoundCard.Proofs.Ensures

/-!
# What a run on one device leads to

`Action.Ensures` covers every way the calls of an action may be answered. Where the answers depend
on what the hardware holds, a run has to be followed on the hardware itself: `Action.RunsTo` says
what an action leads to from one state of it, with one equation for each way actions are put
together.
-/

namespace SoundCard.Action

variable {σ τ α β H : Type}

/-- From this state and hardware, the action ends in a result, a state, hardware and steps that
satisfy `Q`. -/
def RunsTo (dev : Device H) (x : Action σ α) (s : σ) (h : H)
    (Q : Except CardError α → σ → H → List Event → Prop) : Prop :=
  let run := (x s).run dev h
  Q run.value.1 run.value.2 run.hardware (Trace.steps run.events)

variable {dev : Device H} {s : σ} {h : H} {Q : Except CardError α → σ → H → List Event → Prop}

theorem RunsTo.mono {x : Action σ α} {P : Except CardError α → σ → H → List Event → Prop}
    (hx : x.RunsTo dev s h P) (hPQ : ∀ r t h' es, P r t h' es → Q r t h' es) :
    x.RunsTo dev s h Q :=
  hPQ _ _ _ _ hx

theorem Ensures.runsTo {x : Action σ α} {P : Except CardError α → σ → List Event → Prop}
    (hx : x.Ensures s P) (dev : Device H) (h : H) :
    x.RunsTo dev s h fun r t _ es => P r t es :=
  hx.run dev h

@[simp] theorem runsTo_pure (a : α) : (pure a : Action σ α).RunsTo dev s h Q ↔ Q (.ok a) s h [] :=
  Iff.rfl

@[simp] theorem runsTo_state {Q : Except CardError σ → σ → H → List Event → Prop} :
    (state : Action σ σ).RunsTo dev s h Q ↔ Q (.ok s) s h [] := Iff.rfl

@[simp] theorem runsTo_update (f : σ → σ)
    {Q : Except CardError Unit → σ → H → List Event → Prop} :
    (update f).RunsTo dev s h Q ↔ Q (.ok ()) (f s) h [] := Iff.rfl

@[simp] theorem runsTo_ofExcept (r : Except CardError α) :
    (ofExcept r : Action σ α).RunsTo dev s h Q ↔ Q r s h [] := Iff.rfl

@[simp] theorem runsTo_perform (step : CardStep) (c : Call)
    {Q : Except CardError c.Answer → σ → H → List Event → Prop} :
    (perform step c).RunsTo dev s h Q ↔
      Q ((dev.perform c h).1.mapError (.hardware step)) s (dev.perform c h).2
        [.call c (failureOf (dev.perform c h).1)] := Iff.rfl

/-- What is left of a run when a first action has ended. -/
def RunsThen (dev : Device H) (f : α → Action σ β)
    (Q : Except CardError β → σ → H → List Event → Prop) :
    Except CardError α → σ → H → List Event → Prop
  | .ok a, s, h, es => (f a).RunsTo dev s h fun r t h' fs => Q r t h' (es ++ fs)
  | .error e, s, h, es => Q (.error e) s h es

section Bind

variable {f : α → Action σ β} {Q : Except CardError β → σ → H → List Event → Prop}

@[simp] theorem runsThen_ok (a : α) (es : List Event) :
    RunsThen dev f Q (.ok a) s h es ↔
      (f a).RunsTo dev s h fun r t h' fs => Q r t h' (es ++ fs) := Iff.rfl

@[simp] theorem runsThen_error (e : CardError) (es : List Event) :
    RunsThen dev f Q (.error e) s h es ↔ Q (.error e) s h es := Iff.rfl

@[simp] theorem runsTo_bind (x : Action σ α) :
    (x >>= f).RunsTo dev s h Q ↔ x.RunsTo dev s h (RunsThen dev f Q) := by
  rw [RunsTo, RunsTo, bind_apply, Program.run_bind]
  rcases (x s).run dev h with ⟨⟨e | a, t⟩, h', es⟩
  · simp [proceed, Program.run]
  · simp only [proceed, Trace.steps_append]
    exact Iff.rfl

end Bind

@[simp] theorem runsTo_attempt (x : Action σ α)
    {Q : Except CardError (Except CardError α) → σ → H → List Event → Prop} :
    x.attempt.RunsTo dev s h Q ↔ x.RunsTo dev s h fun r => Q (.ok r) := by
  simp [RunsTo, attempt, Program.map, Program.run_bind, Program.run]

@[simp] theorem runsTo_logFailure (line : LogLine) (r : Except CardError α)
    {Q : Except CardError Unit → σ → H → List Event → Prop} :
    (logFailure line r : Action σ Unit).RunsTo dev s h Q ↔ Q (.ok ()) s h [] := by
  cases r <;> rfl

@[simp] theorem runsTo_orLog (x : Action σ α) (line : LogLine) :
    (x.orLog line).RunsTo dev s h Q ↔ x.RunsTo dev s h Q := by
  simp only [orLog, runsTo_bind, runsTo_attempt]
  refine ⟨fun hx => hx.mono fun r t h' es hr => ?_, fun hx => hx.mono fun r t h' es hr => ?_⟩
  · simpa using hr
  · simpa using hr

@[simp] theorem runsTo_within (get : τ → σ) (set : σ → τ → τ) (x : Action σ α) (t : τ)
    {Q : Except CardError α → τ → H → List Event → Prop} :
    (x.within get set).RunsTo dev t h Q ↔
      x.RunsTo dev (get t) h fun r s h' es => Q r (set s t) h' es := by
  simp [RunsTo, within, Program.map, Program.run_bind, Program.run]

end SoundCard.Action
