import SoundCard.Proofs.FamilyChanges
import SoundCard.Proofs.TaskTraces

/-!
# The time FLL1 is given to settle

Whenever the main path of FLL1 is told to lock, and whether or not it takes the call, the board's
settle time passes before anything else is called; at no other point of a history does the card wait
(`Card.play_settles`). Nothing of the state matters for this, so the traces that keep to it are
described by a grammar, `Settles`: each task of the clocks yields one, and they may be put one after
the other.
-/

namespace SoundCard

open Clock SoundCard.Action

/-- The main path of FLL1 is told to lock, whatever comes of it. -/
def Call.locksMain : Call → Bool
  | .codec (.setFll .main (some _) _ _) => true
  | _ => false

def Event.locksMain : Event → Bool
  | .call c _ => c.locksMain
  | .wait _ | .log _ => false

/-- The steps are calls, and a wait of `us` after each lock of the main path. -/
inductive Settles (us : UInt32) : List Event → Prop
  | nil : Settles us []
  | other {c : Call} {f : Option Failure} {es : List Event} (hc : c.locksMain = false) :
    Settles us es → Settles us (.call c f :: es)
  | lock {c : Call} {f : Option Failure} {es : List Event} (hc : c.locksMain = true) :
    Settles us es → Settles us (.call c f :: .wait us :: es)

namespace Settles

variable {us : UInt32} {es fs : List Event}

theorem append (h : Settles us es) (h' : Settles us fs) : Settles us (es ++ fs) := by
  induction h with
  | nil => exact h'
  | other hc _ ih => exact .other hc ih
  | lock hc _ ih => exact .lock hc ih

theorem of_calls :
    ∀ {es : List Event}, (∀ e ∈ es, ∃ c f, e = .call c f ∧ c.locksMain = false) → Settles us es
  | [], _ => .nil
  | e :: es, h => by
    obtain ⟨c, f, rfl, hc⟩ := h e List.mem_cons_self
    exact .other hc (of_calls fun e he => h e (List.mem_cons_of_mem _ he))

/-- No settled trace begins with a wait. -/
theorem isWait_head (h : Settles us es) : ∀ e ∈ es.head?, e.isWait = false := by
  cases h with
  | nil => simp
  | other _ _ | lock _ _ => simp [Event.isWait]

/-- What follows a lock: the wait, and then no other one. -/
theorem wait_after {e : Event} {after : List Event} :
    ∀ (before : List Event), Settles us (before ++ e :: after) → e.locksMain = true →
      ∃ rest, after = .wait us :: rest ∧ ∀ e' ∈ rest.head?, e'.isWait = false
  | [], h, he => by
    cases h with
    | other hc _ => simp [Event.locksMain, hc] at he
    | lock _ h => exact ⟨_, rfl, h.isWait_head⟩
  | [e'], h, he => by
    cases h with
    | other _ h => exact wait_after [] h he
    | lock _ _ => cases he
  | e' :: e'' :: before, h, he => by
    rw [List.cons_append, List.cons_append] at h
    cases h with
    | other _ h => exact wait_after (e'' :: before) h he
    | lock _ h => exact wait_after before h he

/-- What comes before a wait: the lock that it is for. -/
theorem lock_before {us' : UInt32} {after : List Event} :
    ∀ (before : List Event), Settles us (before ++ .wait us' :: after) →
      us' = us ∧ ∃ rest e, before = rest ++ [e] ∧ e.locksMain = true
  | [], h => by cases h
  | [e], h => by
    cases h with
    | other _ h => cases h
    | lock hc _ => exact ⟨rfl, [], _, rfl, hc⟩
  | e :: e' :: before, h => by
    rw [List.cons_append, List.cons_append] at h
    cases h with
    | other _ h =>
      obtain ⟨hus, rest, e'', hbefore, he⟩ := lock_before (e' :: before) h
      exact ⟨hus, _ :: rest, e'', by rw [hbefore]; rfl, he⟩
    | lock _ h =>
      obtain ⟨hus, rest, e'', hbefore, he⟩ := lock_before before h
      exact ⟨hus, _ :: _ :: rest, e'', by rw [hbefore]; rfl, he⟩

theorem countP_eq (h : Settles us es) :
    es.countP Event.isWait = es.countP Event.locksMain := by
  induction h with
  | nil => rfl
  | other hc _ ih => simpa [List.countP_cons, Event.isWait, Event.locksMain, hc] using ih
  | lock hc _ ih => simpa [List.countP_cons, Event.isWait, Event.locksMain, hc] using ih

end Settles

/-- The main path of FLL1 is told to lock in two of the blocks, and each ends with its wait. -/
theorem settles_byBlocks (board : Board) {rate : Hz} :
    ByBlocks board rate (Settles board.settleTime) where
  nil := .nil
  append := .append
  disable _ _ := .other rfl (.other rfl .nil)
  masterLock _ _ := .lock rfl .nil
  prime _ _ := .other rfl .nil
  recoveredLock _ _ := .lock rfl .nil
  derive32k _ := .other rfl .nil
  gateSysclk _ := .other rfl .nil

theorem settles_of_plan {board : Board} {us : UInt32} {params : StreamParams}
    {r : Except CardError Unit} {es : List Event}
    (h : CallsInTurn (negotiationPlan board params) r es) : Settles us es := by
  have hplan : ∀ p ∈ negotiationPlan board params, p.2.locksMain = false := by
    refine forall_negotiationPlan board ?_ ?_ ?_
    all_goals simp [interfacePlan, pllPlan, sysclkPlan, Call.locksMain]
  exact .of_calls (h.forall_events fun p hp f => ⟨p.2, f, rfl, hplan p hp⟩)

theorem ClockTask.Outcome.settles {board : Board} {task : ClockTask} {s t : ClockDomain}
    {r : Except CardError Unit} {es : List Event} (h : task.Outcome board s r t es) :
    Settles board.settleTime es :=
  h.byBlocks (settles_byBlocks board) fun _ _ _ => settles_of_plan

/-- What asks nothing of the clocks neither locks the main path nor waits. -/
theorem settles_of_clockSteps_nil {us : UInt32} :
    ∀ {es : List Event}, Trace.clockSteps es = [] → Settles us (Trace.steps es)
  | [], _ => .nil
  | .call c f :: es, h => by
    have hother : Event.isClockStep (.call c f) = false := by
      simpa using List.filter_eq_nil_iff.1 h _ List.mem_cons_self
    have hc : c.locksMain = false := by
      rcases c with c | c | ratio
      · cases c with
        | setFll path input fref fout => cases hother
        | _ => rfl
      all_goals rfl
    refine .other hc (settles_of_clockSteps_nil ?_)
    rwa [Trace.clockSteps, List.filter_cons_of_neg (by simp [hother])] at h
  | .wait us :: es, h => by cases h
  | .log line :: es, h => by
    rw [Trace.steps]
    exact settles_of_clockSteps_nil h

namespace Card

variable {H : Type} (dev : Device H)

theorem entry_settles (op : Operation) (c : Card) (h : H) :
    Settles c.board.settleTime (Trace.steps (op.entry dev c h).events) ∧
      (op.entry dev c h).card.board = c.board := by
  rcases htask : op.clockTask? with _ | task
  · obtain ⟨hside, hes⟩ := (Operation.quiet_perform htask c).run dev h
    rw [Trace.clockSteps, Trace.filter_steps fun _ => rfl] at hes
    exact ⟨settles_of_clockSteps_nil hes, congrArg Prod.fst hside⟩
  · obtain ⟨r, t, houtcome, hcard, -⟩ := (Operation.ensures_task htask c).run dev h
    have hboard := congrArg Card.board hcard
    exact ⟨houtcome.settles, hboard⟩

theorem settles_play :
    ∀ (ops : List Operation) (c : Card) (h : H),
      Settles c.board.settleTime (Trace.steps (play dev ops c h).events)
  | [], _, _ => .nil
  | op :: ops, c, h => by
    obtain ⟨hop, hboard⟩ := entry_settles dev op c h
    have hrest := settles_play ops (op.entry dev c h).card ((op.perform c).run dev h).hardware
    rw [events_play_cons, Trace.steps_append]
    exact hop.append (hboard ▸ hrest)

/-- In every history, on any board and whatever calls fail: where the main path of FLL1 is told to
lock, accepted or not, the next step is the board's settle time, and the one after is no other wait;
and where the card waits, it waits for that time, just after it told the main path to lock. So it
waits as often as it tries to lock. -/
theorem play_settles (ops : List Operation) (c : Card) (h : H) :
    let p := play dev ops c h
    (∀ before e after, Trace.steps p.events = before ++ e :: after → e.locksMain = true →
      ∃ rest, after = .wait c.board.settleTime :: rest ∧
        ∀ next ∈ rest.head?, next.isWait = false) ∧
    (∀ before us after, Trace.steps p.events = before ++ .wait us :: after →
      us = c.board.settleTime ∧ ∃ rest e, before = rest ++ [e] ∧ e.locksMain = true) ∧
    p.events.countP Event.isWait = p.events.countP Event.locksMain := by
  intro p
  have hsettles := settles_play dev ops c h
  refine ⟨fun before e after hsplit he => ?_, fun before us after hsplit => ?_, ?_⟩
  · rw [hsplit] at hsettles
    exact hsettles.wait_after before he
  · rw [hsplit] at hsettles
    exact hsettles.lock_before before
  · have hcount := hsettles.countP_eq
    rwa [Trace.countP_steps fun _ => rfl, Trace.countP_steps fun _ => rfl] at hcount

/-- A reference path that cannot be primed is given no time, and a lock that is refused is. -/
example :
    let dev := Scripted.device (.ofFaults
      [{ first := 2, failure := .bus }, { first := 5, failure := .unsupported }])
    Trace.steps (play dev [.raiseSyncPath, .startClock] (initial {}) {}).events =
      disableSteps none none ++ primeSteps {} 45158400 (some .bus) ++
        disableSteps none none ++ masterLockSteps {} 45158400 (some .unsupported) := by
  decide

end Card

end SoundCard
