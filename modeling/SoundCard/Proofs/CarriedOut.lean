import SoundCard.Proofs.FirstFailure

/-!
# Plans that are cut short

What is to be called can be planned. The first call that fails cuts the plan short, so what was
called is the plan up to that call, and then what still follows it (`CarriedOut`). Plans are put
together as the changes of the clock domain are: both paths of FLL1 are disabled, and then it is
locked to the master clock or to the recovered one.
-/

namespace SoundCard

open Clock

/-- The events issue the calls of a plan in turn: all of them where none failed, and otherwise those
up to the first that failed, and what still follows that one. -/
inductive CarriedOut (plan : List Call) : List Event → Prop
  | whole {es : List Event} (h : Trace.failures es = []) (hcalls : Trace.calls es = plan) :
    CarriedOut plan es
  | cut {es fs : List Event} (failed : Call) (f : Failure) (rest : List Call)
    (h : Trace.failures es = []) (hcalls : Trace.calls es ++ failed :: rest = plan)
    (htail : Trace.calls fs = failed.tail) : CarriedOut plan (es ++ .call failed (some f) :: fs)

namespace CarriedOut

variable {plan : List Call} {es fs : List Event}

/-- The first part of a plan was carried out without a failure, and then came the rest. -/
theorem append_left (h : CarriedOut plan fs) (hes : Trace.failures es = []) :
    CarriedOut (Trace.calls es ++ plan) (es ++ fs) := by
  have hnone : ∀ {gs}, Trace.failures gs = [] → Trace.failures (es ++ gs) = [] := fun hgs => by
    rw [Trace.failures_append, hes, hgs]
    rfl
  cases h with
  | whole hfs hcalls => exact .whole (hnone hfs) (by rw [Trace.calls_append, hcalls])
  | cut failed f rest hfs hcalls htail =>
    rw [← List.append_assoc]
    refine .cut failed f rest (hnone hfs) ?_ htail
    rw [Trace.calls_append, List.append_assoc, hcalls]

/-- A plan that was cut short was so whatever else it had to come. -/
theorem append_right (h : CarriedOut plan es) (hes : Trace.failures es ≠ []) (more : List Call) :
    CarriedOut (plan ++ more) es := by
  cases h with
  | whole hnone _ => exact (hes hnone).elim
  | cut failed f rest h hcalls htail =>
    refine .cut failed f (rest ++ more) h ?_ htail
    rw [← hcalls, List.append_assoc]
    rfl

theorem calls_eq (h : CarriedOut plan es) (hes : Trace.failures es = []) :
    Trace.calls es = plan := by
  cases h with
  | whole _ hcalls => exact hcalls
  | cut failed f rest _ _ _ => simp [Trace.failures, Event.failed?] at hes

/-- Where no call stands in the plan twice, the first that failed says where it was cut. -/
theorem calls_cut {failed : Call} {f : Failure} {more : List (Call × Failure)}
    (h : CarriedOut plan es) (hes : Trace.failures es = (failed, f) :: more)
    (hplan : plan.Nodup) :
    ∃ before after, plan = before ++ failed :: after ∧ failed ∉ before ∧
      Trace.calls es = before ++ failed :: failed.tail := by
  cases h with
  | whole hnone _ =>
    rw [hnone] at hes
    cases hes
  | @cut es fs failed' f' rest hnone hcalls htail =>
    have hfirst : failed' = failed := by
      rw [Trace.failures_append, hnone] at hes
      exact congrArg Prod.fst (List.cons.inj hes).1
    subst hfirst hcalls
    refine ⟨_, rest, rfl, fun hmem => ?_, ?_⟩
    · exact (List.nodup_append.1 hplan).2.2 _ hmem _ List.mem_cons_self rfl
    · rw [Trace.calls_append, ← htail]
      rfl

end CarriedOut

section Outcomes

variable {α : Type} {board : Board} {rate : Hz} {s t : ClockDomain} {r : Except CardError Unit}
  {es : List Event}

theorem CallsInTurn.carriedOut {plan : List (CardStep × Call)} {r : Except CardError α}
    (h : CallsInTurn plan r es) (htail : ∀ p ∈ plan, p.2.tail = []) :
    CarriedOut (plan.map Prod.snd) es := by
  induction h with
  | done a => exact .whole rfl rfl
  | failed step c rest f =>
    have hc : c.tail = [] := htail _ List.mem_cons_self
    exact @CarriedOut.cut _ [] [] c f (rest.map Prod.snd) rfl rfl hc.symm
  | @next step c rest r es _ ih =>
    exact (ih fun p hp => htail p (List.mem_cons_of_mem _ hp)).append_left
      (rfl : Trace.failures [.call c none] = [])

namespace Clock

theorem DisableOutcome.failures_of_error {e : CardError} (h : DisableOutcome s (.error e) t es) :
    Trace.failures es ≠ [] := by
  have hdecided : Decided .gateSysclk (.error e) es := h.decided
  exact hdecided.failures_of_error

theorem DisableOutcome.carriedOut (h : DisableOutcome s r t es) :
    CarriedOut [.codec (.disable .main), .codec (.disable .reference)] es := by
  cases h with
  | disabled => exact .whole rfl rfl
  | mainFailed f reference => exact @CarriedOut.cut _ [] _ _ f [_] rfl rfl rfl
  | referenceFailed f => exact @CarriedOut.cut _ [.call _ none] [] _ f [] rfl rfl rfl

theorem MasterLockOutcome.carriedOut (h : MasterLockOutcome board rate s r t es) :
    CarriedOut [.codec (.setFll .main (some .mclk1) board.masterClock (board.sysclk rate))]
      es := by
  cases h with
  | locked => exact .whole rfl rfl
  | refused f => exact @CarriedOut.cut _ [] [.wait _] _ f [] rfl rfl rfl

theorem RecoveredLockOutcome.carriedOut (h : RecoveredLockOutcome board rate s r t es) :
    CarriedOut [.codec (.setFll .reference (some .mclk1) board.masterClock (board.sysclk rate)),
      .codec (.setFll .main (some .aif2BitClock) (scaled rate Board.aif2BitClockRatio)
        (board.sysclk rate))] es := by
  cases h with
  | locked => exact .whole rfl rfl
  | primeFailed f => exact @CarriedOut.cut _ [] [] _ f [_] rfl rfl rfl
  | refused f => exact @CarriedOut.cut _ [.call _ none] [.wait _] _ f [] rfl rfl rfl

theorem RelockOutcome.carriedOut (h : RelockOutcome board rate s r t es) :
    CarriedOut [.codec (.disable .main), .codec (.disable .reference),
      .codec (.setFll .main (some .mclk1) board.masterClock (board.sysclk rate))] es := by
  cases h with
  | stuck h => exact h.carriedOut.append_right h.failures_of_error _
  | tried h =>
    exact h.carriedOut.append_left (rfl : Trace.failures (disableSteps none none) = [])

theorem RaiseOutcome.carriedOut (h : RaiseOutcome board s r t es) :
    CarriedOut [.codec (.disable .main), .codec (.disable .reference),
      .codec (.setFll .reference (some .mclk1) board.masterClock (board.sysclk s.rate)),
      .codec (.setFll .main (some .aif2BitClock) (scaled s.rate Board.aif2BitClockRatio)
        (board.sysclk s.rate))] es := by
  cases h with
  | stuck h => exact h.carriedOut.append_right h.failures_of_error _
  | failed h | raised h =>
    exact h.carriedOut.append_left (rfl : Trace.failures (disableSteps none none) = [])

end Clock

end Outcomes

end SoundCard
