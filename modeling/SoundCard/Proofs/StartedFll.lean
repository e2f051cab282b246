import SoundCard.Proofs.MasterLock
import SoundCard.Scripted

/-!
# FLL1 after a start

A start that succeeded leaves FLL1 locked, unless FLL1 was off and belonged to the receive path:
while that path is up FLL1 is left to it, locked or not. `Card.play_start_off_iff` says exactly when
it is so left off: FLL1 was stopped while the receive path was up, and neither has changed since.
-/

namespace SoundCard

open Clock SoundCard.Action

/-- FLL1 belongs to the receive path, and is off. -/
def ClockDomain.HeldOff (s : ClockDomain) : Prop := s.syncPath = true ∧ s.fll = .off

/-- The operation stopped FLL1, and left it to the receive path. -/
def Entry.StopsHeld (e : Entry) : Prop :=
  (∃ task, e.operation.clockTask? = some task ∧ task.stops = true) ∧ e.card.clock.HeldOff

/-- The operation left FLL1 locked, or the receive path down. -/
def Entry.EndsHold (e : Entry) : Prop := ¬ e.card.clock.HeldOff

section Outcomes

variable {board : Board} {s t : ClockDomain}

/-- FLL1 is off and the receive path up because that was so before or because FLL1 was stopped. A
lock to the master clock that is refused is none of the causes: before it the path was down. -/
theorem DomainMove.heldOff {task : Option ClockTask} (h : DomainMove board s task t)
    (hs : s.Exclusive) (ht : t.HeldOff) :
    s.HeldOff ∨ ∃ stopping, task = some stopping ∧ stopping.stops = true := by
  obtain ⟨hpath, hfll⟩ := ht
  cases h with
  | idle _ | dropped d => exact .inl ⟨hpath, hfll⟩
  | stopped htask => exact .inr ⟨_, rfl, htask⟩
  | refused hmaster =>
    have hup : s.syncPath = true := hpath
    have hlocked := hmaster hup
    rw [hs hup] at hlocked
    cases hlocked
  | started _ | raised => cases hfll
  | lowered => cases hpath
  | negotiated d params => exact .inl ⟨hpath, FllMode.retuned_eq_off.1 hfll⟩

/-- A start that succeeded found FLL1 with the receive path and left it there, or has it locked to
the master clock. -/
theorem Clock.StartOutcome.of_ok {es : List Event} (h : StartOutcome board s (.ok ()) t es) :
    (s.syncPath = true ∧ t = s ∧ es = []) ∨
      (s.syncPath = false ∧ t = { s with fll := .master (board.sysclk s.rate) }) := by
  cases h with
  | owned hpath => exact .inl ⟨hpath, rfl, rfl⟩
  | running hmaster =>
    by_cases hpath : s.syncPath = true
    · exact .inl ⟨hpath, rfl, rfl⟩
    · exact .inr ⟨eq_false_of_ne_true hpath, by rw [← hmaster]⟩
  | tried hpath _ h => exact .inr ⟨hpath, h.locked⟩

theorem ClockDomain.Exclusive.recovered_of_ne_off (hs : s.Exclusive) (hpath : s.syncPath = true)
    (hfll : s.fll ≠ .off) : ∃ hz, s.fll = .recovered hz := by
  have hmaster := hs hpath
  rcases hm : s.fll with _ | hz | hz
  · exact (hfll hm).elim
  · simp [hm, FllMode.isMaster] at hmaster
  · exact ⟨hz, rfl⟩

end Outcomes

section Entries

variable {H : Type} (dev : Device H) (op : Operation) (c : Card) (h : H)

theorem Entry.stopsHeld_of_heldOff (hc : c.clock.Exclusive)
    (hheld : (op.entry dev c h).card.clock.HeldOff) :
    c.clock.HeldOff ∨ (op.entry dev c h).StopsHeld := by
  rcases (Card.entry_domainMove dev op c h).2.heldOff hc hheld with hbefore | hstops
  · exact .inl hbefore
  · exact .inr ⟨hstops, hheld⟩

variable {op}

theorem Entry.of_start_ok (hop : op.Starts) (hok : (op.entry dev c h).result = .ok .unit) :
    let e := op.entry dev c h
    (c.clock.syncPath = true ∧ e.card = c ∧ Trace.steps e.events = []) ∨
      (c.clock.syncPath = false ∧ e.card.clock.rate = c.clock.rate ∧
        e.card.clock.fll = .master (c.board.sysclk c.clock.rate)) := by
  intro e
  obtain ⟨hout, hcard⟩ := Card.outcome_of_ok dev hop hop.report_eq c h hok
  rcases StartOutcome.of_ok hout with ⟨hpath, hclock, hes⟩ | ⟨hpath, hclock⟩
  · exact .inl ⟨hpath, by rw [hcard, hclock], hes⟩
  · exact .inr ⟨hpath, by rw [hclock], by rw [hclock]⟩

end Entries

section Histories

variable {H : Type} (dev : Device H) (board : Board)

/-- FLL1 is off and belongs to the receive path just if it was stopped while the path was up, and
neither has changed since. -/
theorem Card.play_heldOff_iff (ops : List Operation) (h : H) :
    (play dev ops (initial board) h).card.clock.HeldOff ↔
      Since Entry.StopsHeld Entry.EndsHold (play dev ops (initial board) h).entries :=
  play_since_kept dev (fun c => c.clock.HeldOff) Entry.StopsHeld (fun c => c.clock.Exclusive)
    (fun op _ h hc => (entry_domain dev _ DomainMove.exclusive op h ⟨rfl, hc⟩).2)
    (fun _ hstops => hstops.2) (fun op c h => Entry.stopsHeld_of_heldOff dev op c h) ops h
    (fun _ => rfl) fun hattached => by cases hattached.1

/-- A start that succeeded leaves FLL1 locked to the master clock at the SYSCLK of the rate on
record, or to the recovered clock, except where FLL1 was stopped while the receive path was up, and
neither has changed since. While the receive path is up a start does nothing at all. -/
theorem Card.play_start_off_iff (ops : List Operation) (op : Operation) (hop : op.Starts) (h : H) :
    let p := play dev ops (initial board) h
    let e := op.entry dev p.card p.hardware
    e.result = .ok .unit →
      (e.card.clock.fll = .off ↔ Since Entry.StopsHeld Entry.EndsHold p.entries) ∧
        (e.card.clock.fll ≠ .off →
          e.card.clock.fll = .master (board.sysclk e.card.clock.rate) ∨
            ∃ hz, e.card.clock.fll = .recovered hz) ∧
        (p.card.clock.syncPath = false →
          e.card.clock.fll = .master (board.sysclk e.card.clock.rate)) ∧
        (p.card.clock.syncPath = true → e.card = p.card ∧ Trace.steps e.events = []) := by
  intro p e hok
  obtain ⟨hboard, hexclusive, -⟩ := play_masterLock dev board ops h
  rw [← play_heldOff_iff dev board ops h]
  rcases Entry.of_start_ok dev p.card p.hardware hop hok with
    ⟨hpath, hcard, hsteps⟩ | ⟨hpath, hrate, hfll⟩
  · have hup : e.card.clock.syncPath = true := by rw [hcard]; exact hpath
    have he : e.card.clock.Exclusive := by rw [hcard]; exact hexclusive
    refine ⟨?_, fun hon => .inr (he.recovered_of_ne_off hup hon), fun hdown => ?_,
      fun _ => ⟨hcard, hsteps⟩⟩
    · rw [hcard]
      exact ⟨fun hoff => ⟨hpath, hoff⟩, fun hheld => hheld.2⟩
    · rw [hpath] at hdown
      cases hdown
  · have hlocked : e.card.clock.fll = .master (board.sysclk e.card.clock.rate) := by
      rw [hfll, hrate, hboard]
    refine ⟨⟨fun hoff => ?_, fun hheld => ?_⟩, fun _ => .inl hlocked, fun _ => hlocked,
      fun hup => ?_⟩
    · rw [hlocked] at hoff
      cases hoff
    · rw [hheld.1] at hpath
      cases hpath
    · rw [hpath] at hup
      cases hup

/-- FLL1 is stopped while the receive path is up; a start succeeds and leaves it off. -/
theorem Card.play_start_off_iff_held :
    let dev := Scripted.device (.ofFaults [])
    let ops : List Operation := [.raiseSyncPath, .stopClock]
    let p := play dev ops (initial {}) {}
    let e := Operation.startClock.entry dev p.card p.hardware
    Operation.startClock.Starts ∧ e.result = .ok .unit ∧
      Since Entry.StopsHeld Entry.EndsHold p.entries ∧ e.card = p.card := by
  intro dev ops
  have hstarts : Operation.startClock.Starts := rfl
  have hok : (Operation.startClock.entry dev (play dev ops (initial {}) {}).card
    (play dev ops (initial {}) {}).hardware).result = .ok .unit := by rfl
  have hoff : (Operation.startClock.entry dev (play dev ops (initial {}) {}).card
    (play dev ops (initial {}) {}).hardware).card.clock.fll = .off := by decide
  have hpath : (play dev ops (initial {}) {}).card.clock.syncPath = true := by decide
  obtain ⟨hiff, -, -, hup⟩ := play_start_off_iff dev {} ops .startClock hstarts {} hok
  exact ⟨hstarts, hok, hiff.1 hoff, (hup hpath).1⟩

/-- The codec reaches standby while the receive path is up. Preparing it again succeeds and leaves
FLL1 off, and no call ever failed. -/
theorem Card.play_prepared_off :
    let dev := Scripted.device (.ofFaults [])
    let ops : List Operation :=
      [.widgetPower Graph.receiveWidget .afterUp, .biasChanged .codec .standby]
    let p := play dev ops (initial {}) {}
    let op : Operation := .changeBias .codec .standby .prepare
    let e := op.entry dev p.card p.hardware
    op.Starts ∧ e.result = .ok .unit ∧ e.card.clock.fll = .off ∧
      Trace.failures (p.events ++ e.events) = [] := by
  intro dev ops p op e
  have hok : e.result = .ok .unit := by rfl
  exact ⟨rfl, hok, by decide, by decide⟩

end Histories

end SoundCard
