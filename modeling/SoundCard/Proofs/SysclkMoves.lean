import SoundCard.Proofs.Tasks

/-!
# What an operation does to SYSCLK

An operation sets SYSCLK at most once, and only where it does may the set of streams become empty
or cease to be so (`SysclkMove`). Changes of FLL1 leave both alone.
-/

namespace SoundCard

open Clock

def Event.isSysclkStep : Event → Bool
  | .call (.codec (.setSysclk _)) _ => true
  | _ => false

theorem Event.isClockStep_of_isSysclkStep {e : Event} (h : e.isSysclkStep = true) :
    e.isClockStep = true := by
  rcases e with ⟨c | c | ratio, f⟩ | us | line
  · cases c with
    | setSysclk hz => rfl
    | _ => cases h
  all_goals cases h

namespace Trace

/-- The steps that concern SYSCLK. -/
def sysclkSteps (es : List Event) : List Event := es.filter Event.isSysclkStep

@[simp] theorem sysclkSteps_append (es fs : List Event) :
    sysclkSteps (es ++ fs) = sysclkSteps es ++ sysclkSteps fs := List.filter_append ..

@[simp] theorem sysclkSteps_steps (es : List Event) : sysclkSteps (steps es) = sysclkSteps es :=
  filter_steps (fun _ => rfl) es

theorem mem_sysclkSteps {es : List Event} {hz : Hz} {f : Option Failure} :
    .call (.codec (.setSysclk hz)) f ∈ sysclkSteps es ↔
      .call (.codec (.setSysclk hz)) f ∈ es := by
  simp [sysclkSteps, Event.isSysclkStep]

theorem sysclkSteps_of_clockSteps_nil {es : List Event} :
    clockSteps es = [] → sysclkSteps es = [] :=
  filter_of_clockSteps_nil fun _ => Event.isClockStep_of_isSysclkStep

end Trace

namespace CodecClocks

theorem sysclk_replay_other {k : CodecClocks} {e : Event} (he : e.isSysclkStep = false) :
    (k.replay [e]).sysclk = k.sysclk := by
  rcases e with ⟨c | c | ratio, _ | f⟩ | us | line
  · cases c with
    | setFll path input fref fout => cases path <;> rfl
    | setSysclk hz => cases he
    | _ => rfl
  all_goals rfl

theorem sysclk_replay_event {k k' : CodecClocks} (h : k.sysclk = k'.sysclk) (e : Event) :
    (k.replay [e]).sysclk = (k'.replay [e]).sysclk := by
  rcases e with ⟨c | c | ratio, _ | f⟩ | us | line
  · cases c with
    | setFll path input fref fout => cases path <;> exact h
    | setSysclk hz => rfl
    | _ => exact h
  all_goals exact h

/-- SYSCLK depends only on the steps that concern it. -/
theorem sysclk_replay (k : CodecClocks) (es : List Event) :
    (k.replay es).sysclk = (k.replay (Trace.sysclkSteps es)).sysclk :=
  replay_filter (R := fun k k' => k.sysclk = k'.sysclk) (fun e _ _ h => sysclk_replay_event h e)
    (fun _ _ _ he h => (sysclk_replay_other he).trans h) es rfl

end CodecClocks

/-- What an operation may do to SYSCLK, from the streams it found to the streams it left. -/
inductive SysclkMove (s : ActiveStreams) : List Event → ActiveStreams → Prop
  | idle {t : ActiveStreams} (h : t.isEmpty = s.isEmpty) : SysclkMove s [] t
  /-- Only the gate may fail where the set of streams becomes empty. -/
  | refused {hz : Hz} {t : ActiveStreams} (f : Failure) (h : hz ≠ 0 → t.isEmpty = s.isEmpty) :
    SysclkMove s [.call (.codec (.setSysclk hz)) (some f)] t
  | set (hz : Hz) (t : ActiveStreams) : SysclkMove s [.call (.codec (.setSysclk hz)) none] t

/-- The streams are left alone, and so is SYSCLK. -/
def Clock.LeavesStreams (s t : ClockDomain) (es : List Event) : Prop :=
  t.streams = s.streams ∧ Trace.sysclkSteps es = []

section Outcomes

variable {board : Board} {rate : Hz} {s t : ClockDomain} {r : Except CardError Unit}
  {es : List Event}

theorem Clock.LeavesStreams.sysclkMove (h : LeavesStreams s t es) :
    SysclkMove s.streams (Trace.sysclkSteps es) t.streams := by
  obtain ⟨hstreams, hes⟩ := h
  rw [hes, hstreams]
  exact .idle rfl

theorem Clock.DisableOutcome.leavesStreams (h : DisableOutcome s r t es) :
    LeavesStreams s t es := by
  cases h <;> exact ⟨rfl, rfl⟩

theorem Clock.RelockOutcome.leavesStreams (h : RelockOutcome board rate s r t es) :
    LeavesStreams s t es := by
  cases h with
  | stuck h => exact h.leavesStreams
  | tried h => cases h <;> exact ⟨rfl, rfl⟩

theorem Clock.FollowOutcome.leavesStreams (h : FollowOutcome board rate s r t es) :
    LeavesStreams s t es := by
  cases h with
  | idle _ => exact ⟨rfl, rfl⟩
  | tried _ _ h => exact h.leavesStreams

theorem Clock.StartOutcome.leavesStreams (h : StartOutcome board s r t es) :
    LeavesStreams s t es := by
  cases h with
  | owned _ | running _ => exact ⟨rfl, rfl⟩
  | tried _ _ h => exact h.leavesStreams

theorem Clock.StopOutcome.leavesStreams (h : StopOutcome s r t es) : LeavesStreams s t es := by
  cases h with
  | stopped h => exact ⟨rfl, h.leavesStreams.2⟩

theorem Clock.RaiseOutcome.leavesStreams (h : RaiseOutcome board s r t es) :
    LeavesStreams s t es := by
  cases h with
  | stuck h => exact ⟨rfl, h.leavesStreams.2⟩
  | failed h | raised h => cases h <;> exact ⟨rfl, rfl⟩

theorem ActiveStreams.isEmpty_erase {s : ActiveStreams} {d : Direction}
    (h : s.isEmpty = true ∨ (s.erase d).isEmpty = false) : (s.erase d).isEmpty = s.isEmpty := by
  rcases s with ⟨_ | _, _ | _⟩ <;> cases d <;> simp_all [isEmpty, erase]

theorem Clock.DropOutcome.sysclkMove {d : Direction} (h : DropOutcome d s r t es) :
    SysclkMove s.streams (Trace.sysclkSteps es) t.streams := by
  cases h with
  | silent h => exact .idle (ActiveStreams.isEmpty_erase h)
  | gated _ _ => exact .set 0 _
  | gateFailed _ _ f => exact .refused f fun hne => (hne rfl).elim

theorem sysclkSteps_setUp {derived gate : Option Failure} (h : DisableOutcome s r t es) :
    Trace.sysclkSteps
        (.call (.codec derive32k) derived :: es ++ [.call (.codec .gateSysclk) gate]) =
      [.call (.codec .gateSysclk) gate] := by
  have hes : Trace.sysclkSteps (.call (.codec derive32k) derived :: es) = Trace.sysclkSteps es :=
    rfl
  rw [Trace.sysclkSteps_append, hes, h.leavesStreams.2]
  rfl

theorem SetUpOutcome.sysclkMove (h : SetUpOutcome s r t es) :
    SysclkMove s.streams (Trace.sysclkSteps es) t.streams := by
  cases h with
  | gated derived h => rw [sysclkSteps_setUp h]; exact .set 0 _
  | gateFailed derived f h =>
    rw [sysclkSteps_setUp h]
    exact .refused f fun hne => (hne rfl).elim

section Negotiation

variable {d : Direction} {params : StreamParams}

theorem sysclkSteps_of_refused {e : CardError}
    (h : CallsInTurn (negotiationPlan board params) (.error e : Except CardError Unit) es) :
    Trace.sysclkSteps es = [] ∨ ∃ f, Trace.sysclkSteps es =
      [.call (.codec (.setSysclk (board.sysclk params.rate.hz))) (some f)] := by
  rcases h.of_append with ⟨_, _, hes⟩ | ⟨fs, gs, rfl, hfs, hgs⟩
  · exact .inl (Trace.sysclkSteps_of_clockSteps_nil (clockSteps_of_prelude board hes))
  · rw [Trace.sysclkSteps_append,
      Trace.sysclkSteps_of_clockSteps_nil (clockSteps_of_prelude board hfs)]
    cases hgs with
    | failed _ _ _ f => exact .inr ⟨f, rfl⟩
    | next hdone => cases hdone

theorem sysclkSteps_of_accepted
    (h : CallsInTurn (negotiationPlan board params) (.ok () : Except CardError Unit) es) :
    Trace.sysclkSteps es = [.call (.codec (.setSysclk (board.sysclk params.rate.hz))) none] := by
  rcases h.of_append with ⟨e, he, -⟩ | ⟨fs, gs, rfl, hfs, hgs⟩
  · cases he
  · rw [Trace.sysclkSteps_append,
      Trace.sysclkSteps_of_clockSteps_nil (clockSteps_of_prelude board hfs)]
    cases hgs with
    | next hdone => cases hdone; rfl

theorem NegotiateOutcome.sysclkMove (h : NegotiateOutcome board d params s r t es) :
    SysclkMove s.streams (Trace.sysclkSteps es) t.streams := by
  cases h with
  | refused h =>
    rcases sysclkSteps_of_refused h with hes | ⟨f, hes⟩
    · rw [hes]; exact .idle rfl
    · rw [hes]; exact .refused f fun _ => rfl
  | stuck hplan h | settled hplan h =>
    rw [Trace.sysclkSteps_append, sysclkSteps_of_accepted hplan, h.leavesStreams.2]
    exact .set _ _

end Negotiation

theorem ClockTask.Outcome.sysclkMove {task : ClockTask} (h : task.Outcome board s r t es) :
    SysclkMove s.streams (Trace.sysclkSteps es) t.streams := by
  cases task with
  | setUp => exact SetUpOutcome.sysclkMove h
  | negotiate d params => exact NegotiateOutcome.sysclkMove h
  | drop d => exact DropOutcome.sysclkMove h
  | start => exact (StartOutcome.leavesStreams h).sysclkMove
  | stop => exact (StopOutcome.leavesStreams h).sysclkMove
  | raise => exact (RaiseOutcome.leavesStreams h).sysclkMove
  | lower => obtain ⟨-, rfl, rfl⟩ := h; exact .idle rfl

end Outcomes

theorem Operation.ClockOutcome.sysclkMove {op : Operation} {c c' : Card}
    {r : Except CardError Answer} {es : List Event} (h : op.ClockOutcome c r c' es) :
    SysclkMove c.clock.streams (Trace.sysclkSteps es) c'.clock.streams := by
  cases h with
  | quiet _ hc hes =>
    simp only [Card.clockSide, Prod.mk.injEq] at hc
    rw [hc.2, Trace.sysclkSteps_of_clockSteps_nil hes]
    exact .idle rfl
  | task _ h => exact h.sysclkMove

theorem Card.run_sysclkMove {H : Type} (dev : Device H) (op : Operation) (c : Card) (h : H) :
    let run := (op.perform c).run dev h
    SysclkMove c.clock.streams (Trace.sysclkSteps run.events) run.value.2.clock.streams := by
  have := ((op.perform_ensures c).run dev h).sysclkMove
  rwa [Trace.sysclkSteps_steps] at this

end SoundCard
