import SoundCard.Proofs.Sides
import SoundCard.Proofs.TaskTraces

/-!
# Runs that meet the same failures

A call that accesses no register answers nothing but whether it failed. So work that accesses none
does the same on any two devices on which its calls meet the same failures, whatever state these are
in (`Program.run_eq_of_sameOutcomes`). The operations on the clocks are such work
(`Operation.run_eq_of_sameOutcomes`).
-/

namespace SoundCard

/-- The failure that a call met or did not meet. -/
def Event.outcome? : Event → Option (Option Failure)
  | .call _ f => some f
  | .wait _ | .log _ => none

namespace Trace

/-- What came of each call. -/
def outcomes (es : List Event) : List (Option Failure) := es.filterMap Event.outcome?

@[simp] theorem outcomes_append (es fs : List Event) :
    outcomes (es ++ fs) = outcomes es ++ outcomes fs := List.filterMap_append

/-- The calls of the two traces met the same failures, as far as both traces go. -/
def SameOutcomes (es fs : List Event) : Prop :=
  outcomes es <+: outcomes fs ∨ outcomes fs <+: outcomes es

instance (es fs : List Event) : Decidable (SameOutcomes es fs) :=
  inferInstanceAs (Decidable (outcomes es <+: outcomes fs ∨ outcomes fs <+: outcomes es))

namespace SameOutcomes

variable {es es' fs fs' : List Event}

theorem head {c c' : Call} {f f' : Option Failure}
    (h : SameOutcomes (.call c f :: es) (.call c' f' :: fs)) : f = f' ∧ SameOutcomes es fs := by
  rcases h with h | h
  · obtain ⟨hf, h⟩ := List.cons_prefix_cons.1 h
    exact ⟨hf, .inl h⟩
  · obtain ⟨hf, h⟩ := List.cons_prefix_cons.1 h
    exact ⟨hf.symm, .inr h⟩

theorem left (h : SameOutcomes (es ++ es') (fs ++ fs')) : SameOutcomes es fs := by
  rw [SameOutcomes, outcomes_append, outcomes_append] at h
  rcases h with h | h
  · exact List.prefix_or_prefix_of_prefix ((List.prefix_append _ _).trans h)
      (List.prefix_append _ _)
  · exact List.prefix_or_prefix_of_prefix (List.prefix_append _ _)
      ((List.prefix_append _ _).trans h)

theorem right (h : SameOutcomes (es ++ es') (es ++ fs')) : SameOutcomes es' fs' := by
  rw [SameOutcomes, outcomes_append, outcomes_append] at h
  exact h.imp (List.prefix_append_right_inj _).1 (List.prefix_append_right_inj _).1

end SameOutcomes

/-- No call accesses a register. -/
def Registerless (es : List Event) : Prop := ∀ c f, Event.call c f ∈ es → c.register? = none

namespace Registerless

variable {e : Event} {es fs : List Event}

theorem nil : Registerless [] := fun _ _ h => nomatch h

theorem call {c : Call} (hc : c.register? = none) (f : Option Failure) (h : Registerless es) :
    Registerless (.call c f :: es) := by
  intro c' f' hmem
  rcases List.mem_cons.1 hmem with heq | hmem
  · obtain ⟨rfl, -⟩ := Event.call.inj heq
    exact hc
  · exact h c' f' hmem

theorem wait (us : UInt32) (h : Registerless es) : Registerless (.wait us :: es) :=
  fun c f hmem => h c f ((List.mem_cons.1 hmem).resolve_left nofun)

theorem append (hes : Registerless es) (hfs : Registerless fs) : Registerless (es ++ fs) :=
  fun c f h => (List.mem_append.1 h).elim (hes c f) (hfs c f)

theorem tail (h : Registerless (e :: es)) : Registerless es :=
  fun c f hmem => h c f (List.mem_cons_of_mem _ hmem)

theorem of_steps (h : Registerless (steps es)) : Registerless es :=
  fun c f hmem => h c f (call_mem_steps.2 hmem)

end Registerless

end Trace

open Trace

/-- Without a register to read, an answer is known once it is known whether the call failed. -/
theorem Call.answer_eq {c : Call} (hc : c.register? = none) {r r' : Except Failure c.Answer}
    (h : failureOf r = failureOf r') : r = r' := by
  have hanswer : ∀ a a' : c.Answer, a = a' := by
    rcases c with c | c | ratio
    · exact fun _ _ => rfl
    · cases c with
      | readRegister i => cases hc
      | _ => exact fun _ _ => rfl
    · exact fun _ _ => rfl
  rcases r with f | a <;> rcases r' with f' | a'
  · exact congrArg Except.error (Option.some.inj h)
  · cases h
  · cases h
  · exact congrArg Except.ok (hanswer a a')

section Runs

variable {α H H' : Type} (dev : Device H) (dev' : Device H')

theorem Program.run_eq_of_sameOutcomes {p : Program α} (hp : p.Ensures fun _ es => Registerless es)
    (h : H) (h' : H') (hsame : SameOutcomes (p.run dev h).events (p.run dev' h').events) :
    (p.run dev h).value = (p.run dev' h').value ∧
      (p.run dev h).events = (p.run dev' h').events := by
  induction p generalizing h h' with
  | done a => exact ⟨rfl, rfl⟩
  | wait _ next ih | log _ next ih =>
    have hnext : next.Ensures fun _ es => Registerless es :=
      Ensures.mono (p := next) hp fun _ _ => Registerless.tail
    obtain ⟨hvalue, hevents⟩ := ih hnext _ _ hsame
    exact ⟨hvalue, congrArg _ hevents⟩
  | call c next ih =>
    have hc : c.register? = none :=
      (hp (dev.perform c h).1).run dev h c _ List.mem_cons_self
    obtain ⟨hfailure, hrest⟩ := hsame.head
    have hanswer : (dev.perform c h).1 = (dev'.perform c h').1 := Call.answer_eq hc hfailure
    simp only [run, Run.after, hanswer] at hrest ⊢
    obtain ⟨hvalue, hevents⟩ := ih _ ((hp _).mono fun _ _ => Registerless.tail) _ _ hrest
    exact ⟨hvalue, congrArg _ hevents⟩

end Runs

section Operations

theorem registerless_byBlocks (board : Board) {rate : Hz} : ByBlocks board rate Registerless where
  nil := .nil
  append := .append
  disable _ _ := .call rfl _ (.call rfl _ .nil)
  masterLock _ _ := .call rfl _ (.wait _ .nil)
  prime _ _ := .call rfl _ .nil
  recoveredLock _ _ := .call rfl _ (.wait _ .nil)
  derive32k _ := .call rfl _ .nil
  gateSysclk _ := .call rfl _ .nil

theorem registerless_of_plan {board : Board} {params : StreamParams} {r : Except CardError Unit}
    {es : List Event} (h : CallsInTurn (negotiationPlan board params) r es) :
    Registerless es := by
  have hplan : ∀ p ∈ negotiationPlan board params, p.2.register? = none := by
    refine forall_negotiationPlan board ?_ (fun _ => ?_) ?_
    all_goals simp [interfacePlan, pllPlan, sysclkPlan, Call.register?, TransceiverCall.register?]
  intro c f hmem
  obtain ⟨p, hp, f', heq⟩ := h.mem hmem
  cases heq
  exact hplan p hp

/-- What concerns the clocks accesses no register. -/
theorem Operation.registerless {op : Operation} (hop : op.side? = some .clock) (c : Card) :
    op.perform.Ensures c fun _ _ es => Registerless es := by
  have hidle : ∀ {x : Action Card Unit}, Action.Idle x →
      Action.Ensures (do x; return Answer.unit) c fun _ _ es => Registerless es := by
    intro x hx
    rw [Action.ensures_answer]
    refine (hx c).mono ?_
    rintro _ _ _ ⟨-, -, rfl⟩
    exact .nil
  rcases htask : op.clockTask? with _ | task
  · cases op with
    | changeBias domain current target =>
      refine hidle (Card.idle_changeBias ?_)
      simpa [clockTask?] using htask
    | biasChanged domain level =>
      refine hidle (Card.idle_biasChanged ?_)
      simpa [clockTask?] using htask
    | widgetPower widget event =>
      refine hidle (Card.idle_widgetPower fun hw => ?_)
      cases event <;> simp [clockTask?, hw] at htask ⊢
    | linkParams | board => exact .nil
    | setUpCodec | negotiate _ _ | freeStream _ | dropStream _ | startClock | stopClock
    | raiseSyncPath | lowerSyncPath => cases htask
    | _ => cases hop
  · refine (Operation.ensures_task htask c).mono ?_
    rintro _ _ es ⟨r, t, hout, -, -⟩
    exact hout.byBlocks (registerless_byBlocks c.board) fun _ _ _ => registerless_of_plan

/-- On two devices whose calls meet the same failures an operation on the clocks comes to the
same. -/
theorem Operation.run_eq_of_sameOutcomes {H H' : Type} (dev : Device H) (dev' : Device H')
    {op : Operation} (hop : op.side? = some .clock) (c : Card) (h : H) (h' : H') :
    let run := (op.perform c).run dev h
    let run' := (op.perform c).run dev' h'
    SameOutcomes run.events run'.events → run.value = run'.value ∧ run.events = run'.events := by
  intro run run' hsame
  have hfree : (op.perform c).Ensures fun _ es => Registerless es :=
    Program.Ensures.mono (p := op.perform c) (Operation.registerless hop c) fun _ _ =>
      Registerless.of_steps
  exact Program.run_eq_of_sameOutcomes dev dev' hfree h h' hsame

end Operations

end SoundCard
