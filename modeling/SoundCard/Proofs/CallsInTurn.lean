import SoundCard.Proofs.Ensures

/-!
# Calls in turn

Much of the card's work is a list of calls, each of which has to succeed before the next one is
issued. `CallsInTurn` relates such a list to what came of it: all of it was issued and succeeded, or
it was cut just after the first call that failed.
-/

namespace SoundCard

variable {σ α β : Type}

inductive CallsInTurn : List (CardStep × Call) → Except CardError α → List Event → Prop
  | done (a : α) : CallsInTurn [] (.ok a) []
  | failed (step : CardStep) (c : Call) (rest : List (CardStep × Call)) (f : Failure) :
    CallsInTurn ((step, c) :: rest) (.error (.hardware step f)) [.call c (some f)]
  | next {step : CardStep} {c : Call} {rest : List (CardStep × Call)} {r : Except CardError α}
    {es : List Event} :
    CallsInTurn rest r es → CallsInTurn ((step, c) :: rest) r (.call c none :: es)

namespace CallsInTurn

variable {plan rest : List (CardStep × Call)} {es fs : List Event}

theorem append {a : α} {r : Except CardError β} (h : CallsInTurn plan (.ok a) es)
    (hr : CallsInTurn rest r fs) : CallsInTurn (plan ++ rest) r (es ++ fs) := by
  induction plan generalizing es with
  | nil => cases h; exact hr
  | cons c plan ih => cases h with | next h => exact .next (ih h)

theorem append_of_error {e : CardError} (rest : List (CardStep × Call))
    (h : CallsInTurn plan (.error e : Except CardError α) es) :
    CallsInTurn (plan ++ rest) (.error e : Except CardError β) es := by
  induction plan generalizing es with
  | nil => cases h
  | cons c plan ih =>
    cases h with
    | failed step c rest f => exact .failed step c _ f
    | next h => exact .next (ih h)

/-- Every event is the outcome of one of the calls. -/
theorem mem {r : Except CardError α} (h : CallsInTurn plan r es) {e : Event} (he : e ∈ es) :
    ∃ p ∈ plan, ∃ f, e = .call p.2 f := by
  induction h with
  | done a => cases he
  | failed step c rest f =>
    rw [List.mem_singleton] at he
    exact ⟨_, List.mem_cons_self, some f, he⟩
  | next h ih =>
    rcases List.mem_cons.1 he with rfl | he
    · exact ⟨_, List.mem_cons_self, none, rfl⟩
    · obtain ⟨p, hp, hf⟩ := ih he
      exact ⟨p, List.mem_cons_of_mem _ hp, hf⟩

theorem forall_events {r : Except CardError α} {P : Event → Prop} (h : CallsInTurn plan r es)
    (hplan : ∀ p ∈ plan, ∀ f, P (.call p.2 f)) : ∀ e ∈ es, P e := by
  intro e he
  obtain ⟨p, hp, f, rfl⟩ := h.mem he
  exact hplan p hp f

/-- Where the plan was carried out, each of its calls was accepted. -/
theorem eq_of_ok {a : α} (h : CallsInTurn plan (.ok a) es) :
    es = plan.map fun p => .call p.2 none := by
  induction plan generalizing es with
  | nil => cases h; rfl
  | cons c plan ih => cases h with | next h => rw [ih h]; rfl

theorem failures_of_error {e : CardError} (h : CallsInTurn plan (.error e : Except CardError α) es) :
    Trace.failures es ≠ [] := by
  induction plan generalizing es with
  | nil => cases h
  | cons c plan ih =>
    cases h with
    | failed step c rest f => exact List.cons_ne_nil _ _
    | next h =>
      have hrest := ih h
      exact hrest

theorem filter_eq_nil {r : Except CardError α} (h : CallsInTurn plan r es) {p : Event → Bool}
    (hp : ∀ c ∈ plan, ∀ f, p (.call c.2 f) = false) : es.filter p = [] := by
  rw [List.filter_eq_nil_iff]
  refine h.forall_events fun c hc f => ?_
  rw [hp c hc f]
  exact Bool.false_ne_true

/-- Calls in turn were cut in the first part of their plan or in the rest of it. -/
theorem of_append {r : Except CardError α} (h : CallsInTurn (plan ++ rest) r es) :
    (∃ e, r = .error e ∧ CallsInTurn plan (.error e : Except CardError α) es) ∨
      ∃ fs gs, es = fs ++ gs ∧ CallsInTurn plan (.ok ()) fs ∧ CallsInTurn rest r gs := by
  induction plan generalizing es with
  | nil => exact .inr ⟨[], es, rfl, .done (), h⟩
  | cons c plan ih =>
    cases h with
    | failed step c _ f => exact .inl ⟨_, rfl, .failed step c plan f⟩
    | next h =>
      rcases ih h with ⟨e, rfl, hes⟩ | ⟨fs, gs, rfl, hfs, hgs⟩
      · exact .inl ⟨e, rfl, .next hes⟩
      · exact .inr ⟨_, gs, rfl, .next hfs, hgs⟩

end CallsInTurn

namespace Action

/-- The calls of a plan in turn, and nothing else. -/
def Issues (x : Action σ α) (s : σ) (plan : List (CardStep × Call)) : Prop :=
  x.Ensures s fun r t es => t = s ∧ CallsInTurn plan r es

theorem issues_perform (step : CardStep) (c : Call) (s : σ) :
    (perform step c).Issues s [(step, c)] := by
  rw [Issues, ensures_perform]
  exact ⟨fun a => ⟨rfl, .next (.done a)⟩, fun f => ⟨rfl, .failed step c [] f⟩⟩

theorem Issues.orLog {x : Action σ α} {s : σ} {plan : List (CardStep × Call)}
    (hx : x.Issues s plan) (line : LogLine) : (x.orLog line).Issues s plan :=
  (ensures_orLog x line).2 hx

theorem Issues.bind {x : Action σ α} {f : α → Action σ β} {s : σ}
    {plan rest : List (CardStep × Call)} (hx : x.Issues s plan)
    (hf : ∀ a, (f a).Issues s rest) : (x >>= f).Issues s (plan ++ rest) := by
  rw [Issues, ensures_bind]
  refine hx.mono ?_
  rintro (e | a) t es ⟨rfl, h⟩
  · exact ⟨rfl, h.append_of_error rest⟩
  · rw [then_ok]
    refine (hf a).mono ?_
    rintro r t fs ⟨rfl, h'⟩
    exact ⟨rfl, h.append h'⟩

/-- Calls in turn, and what is done once they all succeeded. -/
theorem Issues.andThen {x : Action σ α} {f : α → Action σ β} {s : σ}
    {plan : List (CardStep × Call)} {Q : Except CardError β → σ → List Event → Prop}
    (hx : x.Issues s plan)
    (hok : ∀ a es, CallsInTurn plan (.ok a) es → (f a).Ensures s fun r t fs => Q r t (es ++ fs))
    (herror : ∀ e es, CallsInTurn plan (.error e : Except CardError α) es → Q (.error e) s es) :
    (x >>= f).Ensures s Q := by
  rw [ensures_bind]
  refine hx.mono ?_
  rintro (e | a) t es ⟨rfl, h⟩
  · exact herror e es h
  · exact hok a es h

end Action

end SoundCard
