import SoundCard.Proofs.MasterLock

/-!
# FLL1 brought back into step

A failure may leave the paths of FLL1 set in another way than the mode on record says, and nothing
tells the card so. But whatever moves FLL1 disables both paths before it locks any, so a move that
succeeds leaves both as the mode it records says, wherever they were before
(`Operation.resynchronises_fll`).
-/

namespace SoundCard

open Clock

namespace FllMode

/-- The lock of the reference path that the mode stands for. -/
def referenceLock? : FllMode → Option FllLock
  | .off | .master _ => none
  | .recovered hz => some ⟨.mclk1, hz⟩

/-- Both paths are set as the mode says. -/
structure InStep (m : FllMode) (k : CodecClocks) : Prop where
  main : k.main = m.lock?
  reference : k.reference = m.referenceLock?

end FllMode

/-- The change recorded `mode`, and brought both paths into step with it from wherever they were. -/
def Resynchronises (mode : FllMode) (t : ClockDomain) (es : List Event) : Prop :=
  t.fll = mode ∧ ∀ k : CodecClocks, mode.InStep (k.replay es)

section Outcomes

variable {board : Board} {rate : Hz} {s t : ClockDomain} {es : List Event}

theorem Resynchronises.of_steps {mode : FllMode} (h : Resynchronises mode t (Trace.steps es)) :
    Resynchronises mode t es := by
  obtain ⟨hmode, hstep⟩ := h
  exact ⟨hmode, fun k => by rw [← CodecClocks.replay_steps]; exact hstep k⟩

/-- It makes no difference what came before. -/
theorem Resynchronises.append_left {mode : FllMode} (h : Resynchronises mode t es)
    (fs : List Event) : Resynchronises mode t (fs ++ es) := by
  obtain ⟨hmode, hstep⟩ := h
  exact ⟨hmode, fun k => by rw [CodecClocks.replay_append]; exact hstep _⟩

theorem Clock.DisableOutcome.resynchronises (h : DisableOutcome s (.ok ()) t es) :
    Resynchronises .off t es := by
  cases h with
  | disabled => exact ⟨rfl, fun _ => ⟨rfl, rfl⟩⟩

theorem Clock.StopOutcome.resynchronises (h : StopOutcome s (.ok ()) t es) :
    Resynchronises .off t es := by
  cases h with
  | stopped h => exact ⟨rfl, h.resynchronises.2⟩

/-- The two paths are disabled first, and only then is the main one locked to the master clock. -/
theorem Clock.RelockOutcome.resynchronises (h : RelockOutcome board rate s (.ok ()) t es) :
    Resynchronises (.master (board.sysclk rate)) t es := by
  cases h with
  | tried h =>
    cases h with
    | locked => exact ⟨rfl, fun _ => ⟨rfl, rfl⟩⟩

theorem Clock.RaiseOutcome.resynchronises (h : RaiseOutcome board s (.ok ()) t es) :
    Resynchronises (.recovered (board.sysclk s.rate)) t es ∧ t.syncPath = true := by
  cases h with
  | raised h =>
    cases h with
    | locked => exact ⟨⟨rfl, fun _ => ⟨rfl, rfl⟩⟩, rfl⟩

theorem Clock.StartOutcome.resynchronises (h : StartOutcome board s (.ok ()) t es)
    (hpath : s.syncPath = false) (hfll : s.fll ≠ .master (board.sysclk s.rate)) :
    Resynchronises (.master (board.sysclk s.rate)) t es := by
  cases h with
  | owned hup => simp [hpath] at hup
  | running hmaster => exact (hfll hmaster).elim
  | tried _ _ h => exact h.resynchronises

theorem Clock.FollowOutcome.resynchronises {hz : Hz}
    (h : FollowOutcome board rate s (.ok ()) t es) (hfll : s.fll = .master hz)
    (hne : hz ≠ board.sysclk rate) : Resynchronises (.master (board.sysclk rate)) t es := by
  cases h with
  | idle hagrees => exact (hne (hagrees hz hfll)).elim
  | tried _ _ h => exact h.resynchronises

theorem NegotiateOutcome.resynchronises {d : Direction} {params : StreamParams} {hz : Hz}
    (h : NegotiateOutcome board d params s (.ok ()) t es) (hfll : s.fll = .master hz)
    (hne : hz ≠ board.sysclk params.rate.hz) :
    Resynchronises (.master (board.sysclk params.rate.hz)) t es := by
  cases h with
  | settled _ h => exact (h.resynchronises hfll hne).append_left _

end Outcomes

/-- The operation recorded `mode`, and brought both paths into step with it from wherever they
were. -/
def Entry.Resynchronises (mode : FllMode) (e : Entry) : Prop :=
  SoundCard.Resynchronises mode e.card.clock e.events

namespace Operation

variable {H : Type} (dev : Device H) (c : Card) (h : H)

/-- On any card, whatever is on record, and wherever the paths of FLL1 are: where stopping the clock
succeeds, both paths are disabled. Where raising the receive path succeeds, the path is up, the
main path of FLL1 is locked to the recovered bit clock and the reference path to the master clock,
both at the SYSCLK of the rate on record. Where starting the clock or following another rate has
something to do and succeeds, the main path is locked to the master clock at that SYSCLK, and the
reference path is disabled. The mode on record is that lock. -/
theorem resynchronises_fll :
    let entry (op : Operation) := op.entry dev c h
    ((entry .stopClock).result = .ok .unit → (entry .stopClock).Resynchronises .off) ∧
    ((entry .raiseSyncPath).result = .ok .unit →
      (entry .raiseSyncPath).Resynchronises (.recovered (c.board.sysclk c.clock.rate)) ∧
        (entry .raiseSyncPath).card.clock.syncPath = true) ∧
    (∀ op : Operation, op.Starts → c.clock.syncPath = false →
      c.clock.fll ≠ .master (c.board.sysclk c.clock.rate) → (entry op).result = .ok .unit →
        (entry op).Resynchronises (.master (c.board.sysclk c.clock.rate))) ∧
    ∀ (d : Direction) (params : StreamParams) (hz : Hz), c.clock.fll = .master hz →
      hz ≠ c.board.sysclk params.rate.hz → (entry (.negotiate d params)).result = .ok .unit →
        (entry (.negotiate d params)).Resynchronises
          (.master (c.board.sysclk params.rate.hz)) := by
  intro entry
  refine ⟨fun hok => ?_, fun hok => ?_, fun op hop hpath hfll hok => ?_,
    fun d params hz hfll hne hok => ?_⟩
  · obtain ⟨hout, -⟩ := Card.outcome_of_ok dev rfl (fun _ => rfl) c h hok
    exact (StopOutcome.resynchronises hout).of_steps
  · obtain ⟨hout, -⟩ := Card.outcome_of_ok dev rfl (fun _ => rfl) c h hok
    obtain ⟨hsync, hup⟩ := RaiseOutcome.resynchronises hout
    exact ⟨hsync.of_steps, hup⟩
  · obtain ⟨hout, -⟩ := Card.outcome_of_ok dev hop hop.report_eq c h hok
    exact (StartOutcome.resynchronises hout hpath hfll).of_steps
  · obtain ⟨hout, -⟩ := Card.outcome_of_ok dev rfl (fun _ => rfl) c h hok
    exact (NegotiateOutcome.resynchronises hout hfll hne).of_steps

/-- A lock to the recovered clock failed and left the reference path primed with `off` on record;
stopping the clock, raising the receive path and starting the clock each put that right. Following
48 kHz stopped the main path but not the reference path, and left the lock on record; negotiating
again puts that right. -/
theorem resynchronises_fll_past_failures :
    let dev := Scripted.device (.ofFaults [{ first := 3, failure := .bus }])
    let p := Card.play dev [.raiseSyncPath] (Card.initial {}) {}
    let params : StreamParams := ⟨⟨48000, by decide, by decide⟩, .s24⟩
    let dev' := Scripted.device (.ofFaults [{ first := 9, failure := .unsupported }])
    let q := Card.play dev' [.startClock, .negotiate .capture params] (Card.initial {}) {}
    (p.card.clock.fll = .off ∧
        (CodecClocks.replay {} p.events).reference = some ⟨.mclk1, 45158400⟩ ∧
        (stopClock.entry dev p.card p.hardware).Resynchronises .off ∧
        (raiseSyncPath.entry dev p.card p.hardware).Resynchronises (.recovered 45158400) ∧
        (startClock.entry dev p.card p.hardware).Resynchronises (.master 45158400)) ∧
      q.card.clock.fll = .master 45158400 ∧ (CodecClocks.replay {} q.events).main = none ∧
        ((negotiate .capture params).entry dev' q.card q.hardware).Resynchronises
          (.master 49152000) := by
  intro dev p params dev' q
  have hoff : p.card.clock.fll = .off := by decide
  have hsysclk : p.card.board.sysclk p.card.clock.rate = 45158400 := by decide
  have hkept : q.card.clock.fll = .master 45158400 := by decide
  have hsysclk' : q.card.board.sysclk params.rate.hz = 49152000 := by decide
  have hok : ((negotiate .capture params).entry dev' q.card q.hardware).result = .ok .unit := by
    simp only [q, dev', params]
    rfl
  obtain ⟨hstop, hraise, hstart, -⟩ := resynchronises_fll dev p.card p.hardware
  obtain ⟨-, -, -, hnegotiate⟩ := resynchronises_fll dev' q.card q.hardware
  rw [hsysclk] at hraise hstart
  refine ⟨⟨hoff, by decide, hstop rfl, (hraise rfl).1, ?_⟩, hkept, by decide, ?_⟩
  · exact hstart .startClock rfl (by decide) (by simp [hoff]) rfl
  · have hagain := hnegotiate .capture params 45158400 hkept (by rw [hsysclk']; decide) hok
    rwa [hsysclk'] at hagain

end Operation

end SoundCard
