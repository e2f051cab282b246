import SoundCard.Proofs.FllMoves
import SoundCard.Scripted

/-!
# The mode on record may outlive the lock

A disable that fails can leave a lock on record that the main path has lost: the main path stopped,
the reference path did not, and the operation kept the mode. `Card.play_overreports_iff` says that
this is the only way, and that it lasts until the mode is settled again. Stopping the clock and
raising the sync path record `off` instead, and never do it.
-/

namespace SoundCard

open Clock

/-- The lock that the mode stands for, if it stands for one, is the main path's. -/
def FllMode.Backed (m : FllMode) (k : CodecClocks) : Prop :=
  ∀ lock, m.lock? = some lock → k.main = some lock

section Overreports

/-- Both disables were acknowledged. -/
def Trace.BothDisabled (es : List Event) : Prop :=
  .call (.codec (.disable .main)) none ∈ es ∧ .call (.codec (.disable .reference)) none ∈ es

/-- The main path was disabled, the reference path was not. -/
def Trace.HalfDisabled (es : List Event) : Prop :=
  .call (.codec (.disable .main)) none ∈ es ∧
    ∃ f, .call (.codec (.disable .reference)) (some f) ∈ es

/-- The operation half-disabled FLL1 and left a lock on record. -/
def Entry.Strands (e : Entry) : Prop :=
  Trace.HalfDisabled e.events ∧ e.card.clock.fll ≠ .off

/-- The operation recorded `off`, or disabled both paths before it recorded a lock. -/
def Entry.Settles (e : Entry) : Prop :=
  e.card.clock.fll = .off ∨ Trace.BothDisabled e.events

variable {board : Board} {m m' : FllMode} {k : CodecClocks} {es : List Event}

theorem Trace.mem_fllSteps_disable {path : FllPath} {f : Option Failure} :
    .call (.codec (.disable path)) f ∈ Trace.fllSteps es ↔
      .call (.codec (.disable path)) f ∈ es := by
  simp [Trace.fllSteps, Event.isFllStep, CodecCall.disable]

theorem Trace.halfDisabled_fllSteps : HalfDisabled (fllSteps es) ↔ HalfDisabled es := by
  simp only [HalfDisabled, mem_fllSteps_disable]

theorem Trace.bothDisabled_fllSteps : BothDisabled (fllSteps es) ↔ BothDisabled es := by
  simp only [BothDisabled, mem_fllSteps_disable]

theorem FllMode.backed_off : FllMode.off.Backed k := by
  intro lock h
  cases h

theorem FllMode.not_backed_iff_of_main_none (h : k.main = none) : ¬ m.Backed k ↔ m ≠ .off := by
  cases m <;> simp [Backed, lock?, h]

theorem Trace.halfDisabled_disableSteps {f g : Option Failure} :
    HalfDisabled (disableSteps f g) ↔ f = none ∧ g ≠ none := by
  cases f <;> cases g <;> simp [HalfDisabled, disableSteps, CodecCall.disable]

theorem Trace.bothDisabled_disableSteps {f g : Option Failure} :
    BothDisabled (disableSteps f g) ↔ f = none ∧ g = none := by
  cases f <;> cases g <;> simp [BothDisabled, disableSteps, CodecCall.disable]

theorem Trace.bothDisabled_append (es : List Event) :
    BothDisabled (disableSteps none none ++ es) := by
  simp [BothDisabled, disableSteps]

/-- After a move the mode stands for no lock of the main path just if the move stranded it, or it
did so before and the move did not settle it. -/
theorem FllMove.not_backed_iff (h : FllMove board m es m') :
    ¬ m'.Backed (k.replay es) ↔ (Trace.HalfDisabled es ∧ m' ≠ .off) ∨
      (¬ m.Backed k ∧ ¬ (m' = .off ∨ Trace.BothDisabled es)) := by
  have hne : ∀ {k : CodecClocks}, ¬ m.Backed k → m ≠ .off := by
    rintro k hb rfl
    exact hb FllMode.backed_off
  cases h with
  | idle =>
    have hhalf : ¬ Trace.HalfDisabled [] := fun h => by cases h.1
    have hboth : ¬ Trace.BothDisabled [] := fun h => by cases h.1
    simp only [hhalf, hboth, false_and, false_or, or_false]
    exact ⟨fun hb => ⟨hb, hne hb⟩, fun hb => hb.1⟩
  | @kept f g hfg =>
    rw [Trace.halfDisabled_disableSteps, Trace.bothDisabled_disableSteps]
    cases f with
    | none =>
      have hg : g ≠ none := by simpa using hfg
      rw [FllMode.not_backed_iff_of_main_none (by cases g <;> rfl)]
      simp only [hg, true_and, and_false, or_false, ne_eq, not_false_eq_true]
      exact ⟨.inl, fun h => h.elim id fun hb => hb.2⟩
    | some f =>
      have hmain : (k.replay (disableSteps (some f) g)).main = k.main := by cases g <;> rfl
      simp only [FllMode.Backed, hmain, reduceCtorEq, false_and, false_or, or_false]
      exact ⟨fun hb => ⟨hb, hne hb⟩, fun hb => hb.1⟩
  | master hz | recovered bitClock hz =>
    have hbacked : ∀ {m : FllMode} {k : CodecClocks}, k.main = m.lock? → m.Backed k :=
      fun h lock hlock => h.trans hlock
    simp only [Trace.bothDisabled_append, or_true, not_true_eq_false, and_false, or_false]
    refine iff_of_false (not_not_intro (hbacked rfl)) ?_
    simp [Trace.HalfDisabled, disableSteps, masterLockSteps, primeSteps, recoveredLockSteps,
      CodecCall.disable]
  | stopped f g | masterRefused hz f | primeFailed hz f | recoveredRefused bitClock hz f =>
    simp [FllMode.backed_off]

/-- The changes that keep the mode on record where a disable fails; the others record `off`. -/
def ClockTask.keepsMode : ClockTask → Bool
  | .setUp | .negotiate _ _ | .start => true
  | .drop _ | .stop | .raise | .lower => false

theorem ClockTask.Outcome.off_of_halfDisabled {task : ClockTask} {s t : ClockDomain}
    {r : Except CardError Unit} (h : task.Outcome board s r t es) (htask : task.keepsMode = false)
    (hes : Trace.HalfDisabled es) : t.fll = .off := by
  cases task with
  | setUp | negotiate _ _ | start => cases htask
  | drop d =>
    obtain ⟨hmain, -⟩ := hes
    cases h <;> simp [CodecCall.disable, CodecCall.gateSysclk] at hmain
  | stop => cases h with | stopped _ => rfl
  | raise =>
    obtain ⟨-, f, href⟩ := hes
    cases h with
    | stuck _ => rfl
    | failed h => cases h <;> rfl
    | raised h =>
      cases h
      simp [disableSteps, primeSteps, recoveredLockSteps, CodecCall.disable] at href
  | lower =>
    obtain ⟨-, -, rfl⟩ := h
    cases hes.1

theorem Operation.ClockOutcome.keepsMode {op : Operation} {c c' : Card}
    {r : Except CardError Answer} (h : op.ClockOutcome c r c' es) (hes : Trace.HalfDisabled es)
    (hoff : c'.clock.fll ≠ .off) :
    ∃ task, op.clockTask? = some task ∧ task.keepsMode = true := by
  cases h with
  | quiet _ _ hclock =>
    have hmain := Trace.mem_fllSteps_disable.2 hes.1
    rw [Trace.fllSteps_of_clockSteps_nil hclock] at hmain
    cases hmain
  | @task task r t es hop h =>
    refine ⟨task, hop, ?_⟩
    cases htask : task.keepsMode with
    | true => rfl
    | false => exact (hoff (h.off_of_halfDisabled htask hes)).elim

section Entries

variable {H : Type} (dev : Device H) (op : Operation) (c : Card) (h : H)

theorem Entry.not_backed_iff (k : CodecClocks) :
    ¬ (op.entry dev c h).card.clock.fll.Backed (k.replay (op.entry dev c h).events) ↔
      (op.entry dev c h).Strands ∨
        (¬ c.clock.fll.Backed k ∧ ¬ (op.entry dev c h).Settles) := by
  have hmove := (Card.run_fllMove dev op c h).not_backed_iff (k := k)
  rw [Trace.halfDisabled_fllSteps, Trace.bothDisabled_fllSteps] at hmove
  rw [FllMode.Backed, (k.replay_fllSteps _).1]
  exact hmove

theorem Entry.keepsMode_of_strands (hs : (op.entry dev c h).Strands) :
    ∃ task, op.clockTask? = some task ∧ task.keepsMode = true := by
  obtain ⟨hhalf, hoff⟩ := hs
  have hsteps : Trace.HalfDisabled (Trace.steps (op.entry dev c h).events) := by
    simpa only [Trace.HalfDisabled, Trace.call_mem_steps] using hhalf
  exact ((op.perform_ensures c).run dev h).keepsMode hsteps hoff

end Entries

end Overreports

section Histories

variable {H : Type} (dev : Device H) (board : Board)

/-- The mode on record stands for a lock that the main path does not have just if, since FLL1 was
settled last, an operation disabled the main path but not the reference path and kept the mode. Only
setting up the codec, negotiating a stream and starting the clock do so. -/
theorem Card.play_overreports_iff (ops : List Operation) (h : H) (k : CodecClocks) :
    let p := play dev ops (initial board) h
    (¬ p.card.clock.fll.Backed (k.replay p.events) ↔
        Since Entry.Strands Entry.Settles p.entries) ∧
      ∀ e ∈ p.entries, e.Strands →
        ∃ task, e.operation.clockTask? = some task ∧ task.keepsMode = true := by
  intro p
  constructor
  · have hsince := play_since dev (fun c k => ¬ c.clock.fll.Backed k) Entry.Strands Entry.Settles
      (fun _ => True) (fun op c h k _ => Entry.not_backed_iff dev op c h k) ops (initial board) h k
      fun _ _ => trivial
    refine hsince.trans (or_iff_left ?_)
    rintro ⟨hbacked, -⟩
    exact hbacked FllMode.backed_off
  · exact forall_entries dev (Entry.keepsMode_of_strands dev) ops (initial board) h

end Histories

/-- FLL1 runs at 44.1 kHz, and a stream asks for 48 kHz; the main path is disabled for it, the
reference path is not, and the lock at 45.1584 MHz stays on record. -/
theorem Card.play_overreports :
    let p := play (Scripted.device (.ofFaults [{ first := 9, failure := .bus }]))
      [.startClock, .negotiate .playback ⟨⟨48000, by decide, by decide⟩, .s16⟩] (initial {}) {}
    let k := CodecClocks.replay {} p.events
    p.card.clock.fll = .master 45158400 ∧ k.main = none ∧ ¬ p.card.clock.fll.Backed k := by
  intro p k
  have hfll : p.card.clock.fll = .master 45158400 := by decide
  have hmain : k.main = none := by decide
  refine ⟨hfll, hmain, ?_⟩
  rw [FllMode.not_backed_iff_of_main_none hmain, hfll]
  exact FllMode.noConfusion

end SoundCard
