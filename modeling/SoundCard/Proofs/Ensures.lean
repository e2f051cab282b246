import SoundCard.Action
import SoundCard.Trace

/-!
# What every answer leads to

A postcondition that a program meets however its calls are answered (`Program.Ensures`) holds of
every run of it, on any device (`Program.Ensures.run`).

`Action.Ensures` says the same of an action, of its result, the state it leaves and the steps it
took; log lines are no steps. A call may be accepted or fail with any failure (`ensures_codec`), so
what an action ensures covers every pattern of failures.
-/

namespace SoundCard

namespace Trace

/-- The calls and waits, without the log. -/
def steps : List Event → List Event
  | [] => []
  | .call c f :: es => .call c f :: steps es
  | .wait us :: es => .wait us :: steps es
  | .log _ :: es => steps es

@[simp] theorem steps_append (es fs : List Event) : steps (es ++ fs) = steps es ++ steps fs := by
  induction es with
  | nil => rfl
  | cons e es ih => cases e <;> simp [steps, ih]

theorem mem_of_mem_steps {e : Event} {es : List Event} (h : e ∈ steps es) : e ∈ es := by
  induction es with
  | nil => exact h
  | cons e' es ih =>
    cases e' with
    | call c f | wait us =>
      rcases List.mem_cons.1 h with rfl | h
      · exact List.mem_cons_self
      · exact List.mem_cons_of_mem _ (ih h)
    | log line => exact List.mem_cons_of_mem _ (ih h)

/-- What holds of log lines anyway holds of all events if it holds of the steps. -/
theorem forall_of_forall_steps {P : Event → Prop} (hlog : ∀ line, P (.log line)) {es : List Event}
    (h : ∀ e ∈ steps es, P e) : ∀ e ∈ es, P e := by
  induction es with
  | nil => exact h
  | cons e es ih =>
    cases e with
    | call c f | wait us =>
      obtain ⟨he, hes⟩ := List.forall_mem_cons.1 h
      exact List.forall_mem_cons.2 ⟨he, ih hes⟩
    | log line => exact List.forall_mem_cons.2 ⟨hlog line, ih h⟩

theorem filter_steps {p : Event → Bool} (hlog : ∀ line, p (.log line) = false) (es : List Event) :
    (steps es).filter p = es.filter p := by
  induction es with
  | nil => rfl
  | cons e es ih => cases e <;> simp [steps, List.filter_cons, hlog, ih]

theorem countP_steps {p : Event → Bool} (hlog : ∀ line, p (.log line) = false) (es : List Event) :
    (steps es).countP p = es.countP p := by
  rw [List.countP_eq_length_filter, List.countP_eq_length_filter, filter_steps hlog]

theorem filterMap_steps {β : Type} {f : Event → Option β} (hlog : ∀ line, f (.log line) = none)
    (es : List Event) : (steps es).filterMap f = es.filterMap f := by
  induction es with
  | nil => rfl
  | cons e es ih => cases e <;> simp [steps, List.filterMap_cons, hlog, ih]

theorem call_mem_steps {c : Call} {f : Option Failure} {es : List Event} :
    .call c f ∈ steps es ↔ .call c f ∈ es := by
  induction es with
  | nil => simp [steps]
  | cons e es ih => cases e <;> simp [steps, ih]

end Trace

theorem CodecClocks.replay_steps (k : CodecClocks) (es : List Event) :
    k.replay (Trace.steps es) = k.replay es := by
  have hcalls : Trace.codecCalls (Trace.steps es) = Trace.codecCalls es :=
    Trace.filterMap_steps (fun _ => rfl) es
  rw [replay, replay, hcalls]

namespace Program

variable {α β H : Type}

/-- However its calls are answered, the program ends with a value and events that satisfy `Q`. -/
def Ensures : Program α → (α → List Event → Prop) → Prop
  | .done a, Q => Q a []
  | .call c next, Q => ∀ r, (next r).Ensures fun a es => Q a (.call c (failureOf r) :: es)
  | .wait us next, Q => next.Ensures fun a es => Q a (.wait us :: es)
  | .log line next, Q => next.Ensures fun a es => Q a (.log line :: es)

theorem Ensures.mono {p : Program α} {P Q : α → List Event → Prop} (hp : p.Ensures P)
    (h : ∀ a es, P a es → Q a es) : p.Ensures Q := by
  induction p generalizing P Q with
  | done a => exact h a [] hp
  | call c next ih => exact fun r => ih r (hp r) fun a es => h a _
  | wait us next ih => exact ih hp fun a es => h a _
  | log line next ih => exact ih hp fun a es => h a _

theorem ensures_of_forall (p : Program α) {Q : α → List Event → Prop} (h : ∀ a es, Q a es) :
    p.Ensures Q := by
  induction p generalizing Q with
  | done a => exact h a []
  | call c next ih => exact fun r => ih r fun a es => h a _
  | wait us next ih => exact ih fun a es => h a _
  | log line next ih => exact ih fun a es => h a _

theorem ensures_bind (p : Program α) (f : α → Program β) (Q : β → List Event → Prop) :
    (p.bind f).Ensures Q ↔
      p.Ensures fun a es => (f a).Ensures fun b fs => Q b (es ++ fs) := by
  induction p generalizing Q with
  | done a => rfl
  | call c next ih => exact forall_congr' fun r => ih r _
  | wait us next ih => exact ih _
  | log line next ih => exact ih _

theorem Ensures.run (dev : Device H) {p : Program α} {Q : α → List Event → Prop}
    (hp : p.Ensures Q) (h : H) : Q (p.run dev h).value (p.run dev h).events := by
  induction p generalizing h Q with
  | done a => exact hp
  | call c next ih => exact ih _ (hp _) _
  | wait us next ih => exact ih hp _
  | log line next ih => exact ih hp _

/-- Where no step was taken, the hardware is as it was. -/
theorem hardware_run_of_steps_nil (dev : Device H) {p : Program α} {h : H}
    (hp : Trace.steps (p.run dev h).events = []) : (p.run dev h).hardware = h := by
  induction p with
  | done a => rfl
  | call c next _ => cases hp
  | wait us next _ => cases hp
  | log line next ih => exact ih hp

end Program

namespace Action

variable {σ τ α β H : Type}

/-- However its calls are answered, the action ends in a result, a state and steps that satisfy
`Q`. -/
def Ensures (x : Action σ α) (s : σ) (Q : Except CardError α → σ → List Event → Prop) : Prop :=
  (x s).Ensures fun v es => Q v.1 v.2 (Trace.steps es)

theorem Ensures.mono {x : Action σ α} {s : σ}
    {P Q : Except CardError α → σ → List Event → Prop} (hx : x.Ensures s P)
    (h : ∀ r t es, P r t es → Q r t es) : x.Ensures s Q :=
  Program.Ensures.mono hx fun v es => h v.1 v.2 (Trace.steps es)

theorem Ensures.run (dev : Device H) {x : Action σ α} {s : σ}
    {Q : Except CardError α → σ → List Event → Prop} (hx : x.Ensures s Q) (h : H) :
    let run := (x s).run dev h
    Q run.value.1 run.value.2 (Trace.steps run.events) :=
  Program.Ensures.run dev hx h

variable {s : σ} {Q : Except CardError α → σ → List Event → Prop}

@[simp] theorem ensures_pure (a : α) : (pure a : Action σ α).Ensures s Q ↔ Q (.ok a) s [] := Iff.rfl

@[simp] theorem ensures_update (f : σ → σ) {Q : Except CardError Unit → σ → List Event → Prop} :
    (update f).Ensures s Q ↔ Q (.ok ()) (f s) [] := Iff.rfl

@[simp] theorem ensures_state {Q : Except CardError σ → σ → List Event → Prop} :
    (state : Action σ σ).Ensures s Q ↔ Q (.ok s) s [] := Iff.rfl

@[simp] theorem ensures_ofExcept (r : Except CardError α) :
    (ofExcept r : Action σ α).Ensures s Q ↔ Q r s [] := Iff.rfl

@[simp] theorem ensures_fail (e : CardError) :
    (fail e : Action σ α).Ensures s Q ↔ Q (.error e) s [] := Iff.rfl

@[simp] theorem ensures_log (line : LogLine) {Q : Except CardError Unit → σ → List Event → Prop} :
    (log line : Action σ Unit).Ensures s Q ↔ Q (.ok ()) s [] := Iff.rfl

@[simp] theorem ensures_wait (us : UInt32) {Q : Except CardError Unit → σ → List Event → Prop} :
    (wait us : Action σ Unit).Ensures s Q ↔ Q (.ok ()) s [.wait us] := Iff.rfl

@[simp] theorem ensures_codec (step : CardStep) (c : CodecCall)
    {Q : Except CardError Unit → σ → List Event → Prop} :
    (codec step c).Ensures s Q ↔ Q (.ok ()) s [.call (.codec c) none] ∧
      ∀ f, Q (.error (.hardware step f)) s [.call (.codec c) (some f)] := by
  refine ⟨fun h => ⟨h (.ok ()), fun f => h (.error f)⟩, ?_⟩
  rintro ⟨hok, herror⟩ (f | ⟨⟩)
  · exact herror f
  · exact hok

@[simp] theorem ensures_perform (step : CardStep) (c : Call)
    {Q : Except CardError c.Answer → σ → List Event → Prop} :
    (perform step c).Ensures s Q ↔ (∀ a, Q (.ok a) s [.call c none]) ∧
      ∀ f, Q (.error (.hardware step f)) s [.call c (some f)] := by
  refine ⟨fun h => ⟨fun a => h (.ok a), fun f => h (.error f)⟩, ?_⟩
  rintro ⟨hok, herror⟩ (f | a)
  · exact herror f
  · exact hok a

/-- What is left to ensure when a first action has ended: all of it of the second one where the
first succeeded, nothing but the error where it failed. -/
def Then (f : α → Action σ β) (Q : Except CardError β → σ → List Event → Prop) :
    Except CardError α → σ → List Event → Prop
  | .ok a, s, es => (f a).Ensures s fun r t fs => Q r t (es ++ fs)
  | .error e, s, es => Q (.error e) s es

section Bind

variable {f : α → Action σ β} {Q : Except CardError β → σ → List Event → Prop}

@[simp] theorem then_ok (a : α) (es : List Event) :
    Then f Q (.ok a) s es ↔ (f a).Ensures s fun r t fs => Q r t (es ++ fs) := Iff.rfl

@[simp] theorem then_error (e : CardError) (es : List Event) :
    Then f Q (.error e) s es ↔ Q (.error e) s es := Iff.rfl

@[simp] theorem ensures_bind (x : Action σ α) :
    (x >>= f).Ensures s Q ↔ x.Ensures s (Then f Q) := by
  rw [Ensures, bind_apply, Program.ensures_bind]
  refine ⟨fun h => Program.Ensures.mono h ?_, fun h => Program.Ensures.mono h ?_⟩
  all_goals
    rintro ⟨r, t⟩ es h
    cases r with
    | ok a => simpa [Then, Ensures, proceed] using h
    | error e => simpa [Then, Ensures, proceed, Program.Ensures, Trace.steps] using h

/-- An action of whose value only something is returned. -/
theorem ensures_return (g : α → β) (x : Action σ α) :
    (do return g (← x)).Ensures s Q ↔ x.Ensures s fun r t es => Q (r.map g) t es := by
  rw [ensures_bind]
  refine ⟨fun h => h.mono ?_, fun h => h.mono ?_⟩
  all_goals
    rintro (e | a) t es h
    · exact h
    · simpa [Except.map] using h

end Bind

@[simp] theorem ensures_attempt (x : Action σ α)
    {Q : Except CardError (Except CardError α) → σ → List Event → Prop} :
    x.attempt.Ensures s Q ↔ x.Ensures s fun r => Q (.ok r) := by
  simp [Ensures, attempt, Program.map, Program.ensures_bind, Program.Ensures]

@[simp] theorem ensures_logFailure (line : LogLine) (r : Except CardError α)
    {Q : Except CardError Unit → σ → List Event → Prop} :
    (logFailure line r : Action σ Unit).Ensures s Q ↔ Q (.ok ()) s [] := by
  cases r <;> rfl

@[simp] theorem ensures_orLog (x : Action σ α) (line : LogLine) :
    (x.orLog line).Ensures s Q ↔ x.Ensures s Q := by
  simp only [orLog, ensures_bind, ensures_attempt]
  refine ⟨fun h => h.mono fun r t es hr => ?_, fun h => h.mono fun r t es hr => ?_⟩
  · simpa using hr
  · simpa using hr

@[simp] theorem ensures_within (get : τ → σ) (set : σ → τ → τ) (x : Action σ α) (t : τ)
    {Q : Except CardError α → τ → List Event → Prop} :
    (x.within get set).Ensures t Q ↔ x.Ensures (get t) fun r s => Q r (set s t) := by
  simp [Ensures, within, Program.map, Program.ensures_bind, Program.Ensures]

end Action

end SoundCard
