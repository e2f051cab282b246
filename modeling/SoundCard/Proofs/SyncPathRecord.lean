import SoundCard.Proofs.DomainMoves
import SoundCard.Proofs.FirstFailure

/-!
# The receive path on record

The receive path is on record as up once every call of an operation that raised it succeeded, and
until an operation lowers it (`Card.play_syncPath_iff`). An attempt to raise it that failed stops
FLL1 and says nothing of the path: one that was up already stays up, with FLL1 off
(`Card.play_failed_raise`).
-/

namespace SoundCard

open Clock

/-- The operation raised the receive path, and no call of it failed. -/
def Entry.Raises (e : Entry) : Prop :=
  e.operation.clockTask? = some .raise ∧ Trace.failures e.events = []

/-- The operation lowered the receive path. -/
def Entry.Lowers (e : Entry) : Prop := e.operation.clockTask? = some .lower

section Outcomes

variable {board : Board} {s t : ClockDomain} {es : List Event}

theorem Clock.RaiseOutcome.of_ok (h : RaiseOutcome board s (.ok ()) t es) :
    t = { s with fll := .recovered (board.sysclk s.rate), syncPath := true } := by
  cases h with
  | raised h =>
    cases h with
    | locked => rfl

/-- Wherever raising the receive path fails, `off` is on record, and all else is as it was. -/
theorem Clock.RaiseOutcome.of_error {e : CardError} (h : RaiseOutcome board s (.error e) t es) :
    t = { s with fll := .off } := by
  cases h with
  | stuck _ => rfl
  | failed h => cases h <;> rfl

theorem DomainMove.syncPath_eq {task : Option ClockTask} (h : DomainMove board s task t)
    (hraise : task ≠ some .raise) (hlower : task ≠ some .lower) : t.syncPath = s.syncPath := by
  cases h with
  | raised => exact (hraise rfl).elim
  | lowered => exact (hlower rfl).elim
  | _ => rfl

end Outcomes

section Entries

variable {H : Type} (dev : Device H) {op : Operation} (c : Card) (h : H)

/-- An operation that raises the path leaves it up just if no call failed or it was up before. -/
theorem Entry.syncPath_of_raise (hop : op.clockTask? = some .raise) :
    let e := op.entry dev c h
    e.card.clock.syncPath = true ↔ Trace.failures e.events = [] ∨ c.clock.syncPath = true := by
  intro e
  obtain ⟨r, t, hout, hcard, -⟩ := (Operation.ensures_task hop c).run dev h
  have hclock : e.card.clock = t := congrArg Card.clock hcard
  have hdecided : Decided .gateSysclk r (Trace.steps e.events) := RaiseOutcome.decided hout
  rw [hclock, ← Trace.failures_steps, ← hdecided.ok_iff]
  rcases r with err | ⟨⟩
  · rw [RaiseOutcome.of_error hout]
    simp
  · rw [RaiseOutcome.of_ok hout]
    simp

theorem Entry.syncPath_of_lower (hop : op.clockTask? = some .lower) :
    (op.entry dev c h).card.clock.syncPath = false := by
  obtain ⟨r, t, ⟨-, rfl, -⟩, hcard, -⟩ := (Operation.ensures_task hop c).run dev h
  exact congrArg (fun card => card.clock.syncPath) hcard

/-- The path is up after an operation just if that raised it, or left it up. -/
theorem Entry.syncPath_iff (op : Operation) :
    let e := op.entry dev c h
    e.card.clock.syncPath = true ↔ e.Raises ∨ (c.clock.syncPath = true ∧ ¬ e.Lowers) := by
  intro e
  by_cases hraise : op.clockTask? = some .raise
  · have hlowers : ¬ e.Lowers := fun hlower => by
      have heq : some ClockTask.raise = some .lower := hraise.symm.trans hlower
      cases heq
    have hraises : e.Raises ↔ Trace.failures e.events = [] := and_iff_right hraise
    rw [hraises, and_iff_left hlowers]
    exact Entry.syncPath_of_raise dev c h hraise
  have hnot : ¬ e.Raises := fun hraises => hraise hraises.1
  rw [or_iff_right hnot]
  by_cases hlower : op.clockTask? = some .lower
  · have hlowers : e.Lowers := hlower
    rw [Entry.syncPath_of_lower dev c h hlower]
    simp [hlowers]
  · have hlowers : ¬ e.Lowers := hlower
    rw [and_iff_left hlowers,
      (Card.entry_domainMove dev op c h).2.syncPath_eq hraise hlower]

end Entries

section Histories

variable {H : Type} (dev : Device H) (board : Board)

/-- The receive path is on record as up just if an operation raised it with no call failing, and
none has lowered it since. -/
theorem Card.play_syncPath_iff (ops : List Operation) (h : H) :
    let p := play dev ops (initial board) h
    p.card.clock.syncPath = true ↔ Since Entry.Raises Entry.Lowers p.entries := by
  intro p
  have hsince := play_since dev (fun c _ => c.clock.syncPath = true) Entry.Raises Entry.Lowers
    (fun _ => True) (fun op c h _ _ => Entry.syncPath_iff dev c h op) ops (initial board) h {}
    fun _ _ => trivial
  exact hsince.trans (or_iff_left fun hkept => by cases hkept.1)

/-- Raising the receive path fails, on a card worked in any way before: `off` is on record for FLL1,
and all else is as it was. So the path is on record as up just if it was up already: an operation
had raised it with no call failing, and none had lowered it since. -/
theorem Card.play_failed_raise (ops : List Operation) (h : H) :
    let p := play dev ops (initial board) h
    let e := Operation.raiseSyncPath.entry dev p.card p.hardware
    ∀ err, e.result = .error err →
      e.card = { p.card with clock := { p.card.clock with fll := .off } } ∧
        (e.card.clock.syncPath = true ↔ Since Entry.Raises Entry.Lowers p.entries) := by
  intro p e err herror
  have htask : Operation.raiseSyncPath.clockTask? = some .raise := rfl
  obtain ⟨r, t, hout, hcard, hr⟩ := (Operation.ensures_task htask p.card).run dev p.hardware
  have hresult : e.result = r.map fun _ => .unit := hr
  rcases r with err' | ⟨⟩
  · have hoff : e.card = { p.card with clock := { p.card.clock with fll := .off } } := by
      rw [← RaiseOutcome.of_error hout]
      exact hcard
    refine ⟨hoff, ?_⟩
    rw [hoff]
    exact play_syncPath_iff dev board ops h
  · rw [hresult] at herror
    cases herror

/-- The path was raised and lowered, and raising it again fails as the recovered clock is refused:
it stays down. -/
theorem Card.play_failed_raise_lowered :
    let dev := Scripted.device (.ofFaults [{ first := 7, failure := .rejected (-22) }])
    let ops : List Operation := [.raiseSyncPath, .widgetPower Graph.receiveWidget .afterDown]
    let p := play dev ops (initial {}) {}
    let e := Operation.raiseSyncPath.entry dev p.card p.hardware
    e.result = .error (.hardware .lockRecovered (.rejected (-22))) ∧
      p.card.clock.fll = .recovered 45158400 ∧
      e.card = { p.card with clock := { p.card.clock with fll := .off } } ∧
      e.card.clock.syncPath = false ∧ ¬ Since Entry.Raises Entry.Lowers p.entries := by
  intro dev ops p e
  have herror : e.result = .error (.hardware .lockRecovered (.rejected (-22))) := rfl
  have hfll : p.card.clock.fll = .recovered 45158400 := by decide
  have hpath : e.card.clock.syncPath = false := by decide
  obtain ⟨hcard, hiff⟩ := play_failed_raise dev {} ops {} _ herror
  refine ⟨herror, hfll, hcard, hpath, fun hsince => ?_⟩
  have hup := hiff.2 hsince
  rw [hpath] at hup
  cases hup

/-- The path is raised a second time, and the recovered clock is refused: FLL1 is off and the path
on record as up. So preparing the codec succeeds without a call, and leaves FLL1 off. -/
theorem Card.play_failed_raise_up :
    let dev := Scripted.device (.ofFaults [{ first := 7, failure := .bus }])
    let p := play dev [.widgetPower Graph.receiveWidget .afterUp] (initial {}) {}
    let e := Operation.raiseSyncPath.entry dev p.card p.hardware
    let q := play dev [.raiseSyncPath, .changeBias .codec .standby .prepare] p.card p.hardware
    e.result = .error (.hardware .lockRecovered .bus) ∧ e.card.clock.fll = .off ∧
      e.card.clock.syncPath = true ∧ q.card = e.card ∧
      Trace.calls q.events = Trace.calls e.events := by
  intro dev p e q
  have herror : e.result = .error (.hardware .lockRecovered .bus) := rfl
  exact ⟨herror, by decide, by decide, by decide, by decide⟩

end Histories

end SoundCard
