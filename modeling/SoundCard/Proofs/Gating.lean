import SoundCard.Proofs.SysclkMoves
import SoundCard.Scripted

/-!
# SYSCLK is gated while no stream holds parameters

SYSCLK is gated with the last stream, so where no stream holds parameters it runs only if a
negotiation set it and then failed, and it runs until it is set again (`Card.play_sysclk_iff`).
Negotiating sets SYSCLK before FLL1 follows the rate and before the stream is recorded, and nothing
is undone where that fails.
-/

namespace SoundCard

open Clock

namespace Trace

/-- SYSCLK was set. -/
def SetsSysclk (es : List Event) : Prop := ∃ hz, .call (.codec (.setSysclk hz)) none ∈ es

/-- SYSCLK was set to a frequency. -/
def RunsSysclk (es : List Event) : Prop := ∃ hz ≠ 0, .call (.codec (.setSysclk hz)) none ∈ es

variable {es : List Event}

theorem setsSysclk_sysclkSteps : SetsSysclk (sysclkSteps es) ↔ SetsSysclk es := by
  simp only [SetsSysclk, mem_sysclkSteps]

theorem runsSysclk_sysclkSteps : RunsSysclk (sysclkSteps es) ↔ RunsSysclk es := by
  simp only [RunsSysclk, mem_sysclkSteps]

end Trace

/-- The operation set SYSCLK, accepted by the codec. -/
def Entry.SetsSysclk (e : Entry) : Prop := Trace.SetsSysclk e.events

/-- The operation set SYSCLK to a frequency, and left no stream with parameters. -/
def Entry.LeavesSysclk (e : Entry) : Prop :=
  e.card.clock.streams.isEmpty = true ∧ Trace.RunsSysclk e.events

/-- SYSCLK runs although no stream holds parameters. -/
def Card.SysclkIdles (c : Card) (k : CodecClocks) : Prop :=
  c.clock.streams.isEmpty = true ∧ k.sysclk ≠ 0

/-- The event is no failure of the gate. -/
def Event.GateHeld (e : Event) : Prop := ∀ f, e ≠ .call (.codec .gateSysclk) (some f)

section Moves

variable {s t : ActiveStreams} {es : List Event} {k : CodecClocks}

/-- As long as the gate holds, SYSCLK runs for no stream after a move just if the move set it so, or
it ran so before and was not set. -/
theorem SysclkMove.idles_iff (h : SysclkMove s es t) (hes : ∀ e ∈ es, e.GateHeld) :
    t.isEmpty = true ∧ (k.replay es).sysclk ≠ 0 ↔
      (t.isEmpty = true ∧ Trace.RunsSysclk es) ∨
        ((s.isEmpty = true ∧ k.sysclk ≠ 0) ∧ ¬ Trace.SetsSysclk es) := by
  cases h with
  | idle hst => simp [hst, Trace.RunsSysclk, Trace.SetsSysclk]
  | @refused hz _ f hst =>
    have hne : hz ≠ 0 := by
      rintro rfl
      exact hes _ List.mem_cons_self f rfl
    have hk : k.replay [.call (.codec (.setSysclk hz)) (some f)] = k := rfl
    simp [hst hne, hk, Trace.RunsSysclk, Trace.SetsSysclk]
  | set hz =>
    have hk : (k.replay [.call (.codec (.setSysclk hz)) none]).sysclk = hz := rfl
    simp [hk, Trace.RunsSysclk, Trace.SetsSysclk]

end Moves

section Abandoned

variable {board : Board} {s t : ClockDomain} {es : List Event}

theorem Trace.not_runsSysclk_of_sysclkSteps_nil (h : sysclkSteps es = []) : ¬ RunsSysclk es := by
  rw [← runsSysclk_sysclkSteps, h]
  rintro ⟨hz, -, hmem⟩
  cases hmem

theorem Trace.not_runsSysclk_gate {f : Option Failure} :
    ¬ RunsSysclk [.call (.codec .gateSysclk) f] := by
  rintro ⟨hz, hne, hmem⟩
  simp only [List.mem_singleton, CodecCall.gateSysclk, Event.call.injEq, Call.codec.injEq,
    CodecCall.setSysclk.injEq] at hmem
  exact hne hmem.1

/-- Only a failed negotiation sets SYSCLK to a frequency and leaves no stream with parameters. -/
theorem ClockTask.Outcome.abandoned {task : ClockTask} {r : Except CardError Unit}
    (h : task.Outcome board s r t es) (ht : t.streams.isEmpty = true)
    (hes : Trace.RunsSysclk es) :
    ∃ d params e, task = .negotiate d params ∧ r = .error e := by
  have hleaves : LeavesStreams s t es → False := fun hl =>
    Trace.not_runsSysclk_of_sysclkSteps_nil hl.2 hes
  cases task with
  | setUp =>
    rw [← Trace.runsSysclk_sysclkSteps] at hes
    cases h with
    | gated _ h | gateFailed _ _ h =>
      rw [sysclkSteps_setUp h] at hes
      exact (Trace.not_runsSysclk_gate hes).elim
  | negotiate d params =>
    cases h with
    | refused _ | stuck _ _ => exact ⟨d, params, _, rfl, rfl⟩
    | settled _ _ =>
      have hmem : d ∉ ActiveStreams.insert _ d := ActiveStreams.isEmpty_iff.1 ht d
      exact (hmem (ActiveStreams.mem_insert.2 (.inl rfl))).elim
  | drop d =>
    cases h with
    | silent _ => exact (Trace.not_runsSysclk_of_sysclkSteps_nil rfl hes).elim
    | gated _ _ | gateFailed _ _ _ => exact (Trace.not_runsSysclk_gate hes).elim
  | start => exact (hleaves (StartOutcome.leavesStreams h)).elim
  | stop => exact (hleaves (StopOutcome.leavesStreams h)).elim
  | raise => exact (hleaves (RaiseOutcome.leavesStreams h)).elim
  | lower =>
    obtain ⟨-, rfl, rfl⟩ := h
    exact (hleaves ⟨rfl, rfl⟩).elim

theorem Operation.ClockOutcome.abandoned {op : Operation} {c c' : Card}
    {r : Except CardError Answer} (h : op.ClockOutcome c r c' es)
    (hempty : c'.clock.streams.isEmpty = true) (hes : Trace.RunsSysclk es) :
    ∃ d params e, op = .negotiate d params ∧ r = .error e := by
  cases h with
  | quiet _ _ hclock =>
    have hsteps := Trace.sysclkSteps_of_clockSteps_nil hclock
    exact (Trace.not_runsSysclk_of_sysclkSteps_nil hsteps hes).elim
  | task hop h =>
    obtain ⟨d, params, e, rfl, rfl⟩ := h.abandoned hempty hes
    obtain rfl := eq_negotiate_of_clockTask? hop
    exact ⟨d, params, e, rfl, rfl⟩

theorem Operation.ClockOutcome.setsSysclk_setUp {c c' : Card} {r : Except CardError Answer}
    (h : setUpCodec.ClockOutcome c r c' es) (hes : ∀ e ∈ es, e.GateHeld) :
    Trace.SetsSysclk es := by
  cases h with
  | quiet hop => cases hop
  | task hop h =>
    cases hop
    cases h with
    | gated _ _ => exact ⟨0, List.mem_append_right _ List.mem_cons_self⟩
    | gateFailed _ f _ =>
      exact (hes _ (List.mem_append_right _ List.mem_cons_self) f rfl).elim

end Abandoned

section Entries

variable {H : Type} (dev : Device H) (op : Operation) (c : Card) (h : H)

theorem Entry.idles_iff (k : CodecClocks) (hheld : ∀ e ∈ (op.entry dev c h).events, e.GateHeld) :
    (op.entry dev c h).card.SysclkIdles (k.replay (op.entry dev c h).events) ↔
      (op.entry dev c h).LeavesSysclk ∨
        (c.SysclkIdles k ∧ ¬ (op.entry dev c h).SetsSysclk) := by
  have hmove := (Card.run_sysclkMove dev op c h).idles_iff (k := k) fun e he =>
    hheld e (List.mem_filter.1 he).1
  rw [Trace.runsSysclk_sysclkSteps, Trace.setsSysclk_sysclkSteps] at hmove
  rw [Card.SysclkIdles, CodecClocks.sysclk_replay]
  exact hmove

theorem Entry.abandoned_of_leavesSysclk (hl : (op.entry dev c h).LeavesSysclk) :
    ∃ d params e, (op.entry dev c h).operation = .negotiate d params ∧
      (op.entry dev c h).result = .error e := by
  obtain ⟨hempty, hz, hne, hmem⟩ := hl
  exact ((op.perform_ensures c).run dev h).abandoned hempty
    ⟨hz, hne, Trace.call_mem_steps.2 hmem⟩

theorem Entry.setsSysclk_setUpCodec
    (hheld : ∀ e ∈ (Operation.setUpCodec.entry dev c h).events, e.GateHeld) :
    (Operation.setUpCodec.entry dev c h).SetsSysclk := by
  obtain ⟨hz, hmem⟩ := ((Operation.setUpCodec.perform_ensures c).run dev h).setsSysclk_setUp
    fun e he => hheld e (Trace.mem_of_mem_steps he)
  exact ⟨hz, Trace.call_mem_steps.1 hmem⟩

end Entries

section Histories

variable {H : Type} (dev : Device H)

/-- Once the codec has been set up, and as long as no gate fails, SYSCLK runs for no stream just if,
since SYSCLK was set last, a negotiation set it to a frequency and failed where no stream held
parameters. -/
theorem Card.play_sysclk_iff (ops : List Operation) (c : Card) (h : H) (k : CodecClocks) :
    let p := play dev (.setUpCodec :: ops) c h
    (∀ f, .call (.codec .gateSysclk) (some f) ∉ p.events) →
      (p.card.clock.streams.isEmpty = true ∧ (k.replay p.events).sysclk ≠ 0 ↔
          Since Entry.LeavesSysclk Entry.SetsSysclk p.entries) ∧
        ∀ e ∈ p.entries, e.LeavesSysclk →
          ∃ d params e', e.operation = .negotiate d params ∧ e.result = .error e' := by
  intro p hgate
  have hheld : ∀ e ∈ p.events, e.GateHeld := fun e he f heq => hgate f (heq ▸ he)
  constructor
  · have hsince := play_since dev SysclkIdles Entry.LeavesSysclk Entry.SetsSysclk Event.GateHeld
      (fun op c h k => Entry.idles_iff dev op c h k) (.setUpCodec :: ops) c h k hheld
    refine hsince.trans (or_iff_left ?_)
    rintro ⟨-, hnever⟩
    refine hnever _ List.mem_cons_self (Entry.setsSysclk_setUpCodec dev c h fun e he => ?_)
    exact hheld e (List.mem_append_left _ he)
  · exact forall_entries dev (Entry.abandoned_of_leavesSysclk dev) (.setUpCodec :: ops) c h

/-- A negotiation fails when FLL1 is to follow its rate: SYSCLK runs for no stream, for that reason
alone. -/
theorem Card.play_sysclk_iff_abandoned :
    let p := play (Scripted.device (.ofFaults [{ first := 12, failure := .bus }]))
      [.setUpCodec, .startClock, .negotiate .playback ⟨⟨48000, by decide, by decide⟩, .s16⟩]
      (initial {}) {}
    (∀ f, .call (.codec .gateSysclk) (some f) ∉ p.events) ∧
      Since Entry.LeavesSysclk Entry.SetsSysclk p.entries := by
  intro p
  have hgate : ∀ f, .call (.codec .gateSysclk) (some f) ∉ p.events := by
    have hfailures : Trace.failures p.events = [(.codec (.disable .main), .bus)] := by decide
    intro f hmem
    rw [← Trace.mem_failures, hfailures] at hmem
    simp [CodecCall.disable, CodecCall.gateSysclk] at hmem
  refine ⟨hgate, ((play_sysclk_iff _ _ _ _ {} hgate).1).1 ⟨by decide, by decide⟩⟩

/-- A failed negotiation leaves SYSCLK at its frequency although no gate failed and no stream holds
parameters. -/
theorem Card.play_sysclk_idles :
    let p := play (Scripted.device (.ofFaults [{ first := 12, failure := .bus }]))
      [.setUpCodec, .startClock, .negotiate .playback ⟨⟨48000, by decide, by decide⟩, .s16⟩]
      (initial {}) {}
    Trace.failures p.events = [(.codec (.disable .main), .bus)] ∧
      p.card.clock.streams.isEmpty = true ∧
      (CodecClocks.replay {} p.events).sysclk = 49152000 := by
  decide

end Histories

end SoundCard
