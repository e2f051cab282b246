import SoundCard.Card.Mixer
import SoundCard.Proofs.Ensures

/-!
# Work that leaves the clocks alone

The clocks of the card move only by calls on FLL1 and SYSCLK and with the time FLL1 is given. An
action is quiet where it takes no such step and keeps what is looked at of its state; quiet actions
compose, and everything the card does with the mixer and the transceiver's status is quiet.
-/

namespace SoundCard

/-- A call on FLL1 or SYSCLK, or time for FLL1 to settle. -/
def Event.isClockStep : Event → Bool
  | .call (.codec (.setFll _ _ _ _)) _ | .call (.codec (.setSysclk _)) _ | .wait _ => true
  | _ => false

/-- The steps that concern the clocks. -/
def Trace.clockSteps (es : List Event) : List Event := es.filter Event.isClockStep

@[simp] theorem Trace.clockSteps_append (es fs : List Event) :
    clockSteps (es ++ fs) = clockSteps es ++ clockSteps fs := List.filter_append ..

theorem Trace.filter_of_clockSteps_nil {p : Event → Bool} {es : List Event}
    (hp : ∀ e, p e = true → e.isClockStep = true) (h : clockSteps es = []) : es.filter p = [] := by
  simp only [clockSteps, List.filter_eq_nil_iff] at h ⊢
  exact fun e he hpe => h e he (hp e hpe)

namespace CodecClocks

/-- Where the events that `p` leaves out keep a relation between clocks, only the others count. -/
theorem replay_filter {p : Event → Bool} {R : CodecClocks → CodecClocks → Prop}
    (hstep : ∀ e {k k'}, R k k' → R (k.replay [e]) (k'.replay [e]))
    (hother : ∀ e {k k'}, p e = false → R k k' → R (k.replay [e]) k') :
    ∀ (es : List Event) {k k' : CodecClocks}, R k k' → R (k.replay es) (k'.replay (es.filter p))
  | [], _, _, h => h
  | e :: es, k, k', h => by
    rw [replay_cons k e es, List.filter_cons]
    split
    · rw [replay_cons k' e]
      exact replay_filter hstep hother es (hstep e h)
    · rename_i he
      exact replay_filter hstep hother es (hother e (by simpa using he) h)

theorem replay_other {e : Event} (he : e.isClockStep = false) (k : CodecClocks) :
    k.replay [e] = k := by
  rcases e with ⟨c | c | ratio, _ | f⟩ | us | line
  · cases c <;> first | rfl | cases he
  all_goals rfl

/-- A trace without clock steps moves no clock. -/
theorem replay_of_clockSteps_nil {es : List Event} (h : Trace.clockSteps es = [])
    (k : CodecClocks) : k.replay es = k := by
  have hfilter := replay_filter (p := Event.isClockStep) (R := Eq) (fun e _ _ hk => hk ▸ rfl)
    (fun e k _ he hk => (replay_other he k).trans hk) es (rfl : k = k)
  rw [hfilter, ← Trace.clockSteps, h]
  rfl

end CodecClocks

namespace Action

variable {σ τ υ α β : Type} {view : σ → υ}

/-- Takes no clock step, and leaves what `view` shows of the state. -/
def Quiet (view : σ → υ) (x : Action σ α) : Prop :=
  ∀ s, x.Ensures s fun _ t es => view t = view s ∧ Trace.clockSteps es = []

theorem quiet_pure (a : α) : Quiet view (pure a) := fun _ => ⟨rfl, rfl⟩

theorem quiet_state : Quiet view state := fun _ => ⟨rfl, rfl⟩

theorem quiet_update {f : σ → σ} (h : ∀ s, view (f s) = view s) : Quiet view (update f) :=
  fun s => ⟨h s, rfl⟩

theorem quiet_fail (e : CardError) : Quiet view (fail e : Action σ α) := fun _ => ⟨rfl, rfl⟩

theorem quiet_log (line : LogLine) : Quiet view (log line) := fun _ => ⟨rfl, rfl⟩

theorem quiet_logFailure (line : LogLine) (r : Except CardError α) :
    Quiet view (logFailure line r) := by
  cases r
  · exact quiet_log line
  · exact quiet_pure ()

theorem quiet_perform (step : CardStep) {c : Call}
    (hc : ∀ f, Event.isClockStep (.call c f) = false) : Quiet view (perform step c) := by
  intro s
  rw [ensures_perform]
  exact ⟨fun a => ⟨rfl, by simp [Trace.clockSteps, hc]⟩,
    fun f => ⟨rfl, by simp [Trace.clockSteps, hc]⟩⟩

theorem quiet_transceiver (step : CardStep) (c : TransceiverCall) :
    Quiet view (transceiver step c) := quiet_perform step fun _ => rfl

theorem Quiet.bind {x : Action σ α} {f : α → Action σ β} (hx : Quiet view x)
    (hf : ∀ a, Quiet view (f a)) : Quiet view (x >>= f) := by
  intro s
  rw [ensures_bind]
  refine (hx s).mono ?_
  rintro (e | a) t es ⟨ht, hes⟩
  · exact ⟨ht, hes⟩
  · rw [then_ok]
    refine (hf a t).mono ?_
    rintro _ u fs ⟨hu, hfs⟩
    exact ⟨hu.trans ht, by rw [Trace.clockSteps_append, hes, hfs]; rfl⟩

theorem Quiet.attempt {x : Action σ α} (hx : Quiet view x) : Quiet view x.attempt :=
  fun s => (ensures_attempt x).2 (hx s)

theorem Quiet.orLog {x : Action σ α} (hx : Quiet view x) (line : LogLine) :
    Quiet view (x.orLog line) :=
  fun s => (ensures_orLog x line).2 (hx s)

theorem quiet_ite {p : Prop} [Decidable p] {x y : Action σ α} (hx : Quiet view x)
    (hy : Quiet view y) : Quiet view (if p then x else y) := by
  split
  · exact hx
  · exact hy

/-- Writes lines to the log, and does nothing else. -/
def Idle (x : Action σ Unit) : Prop :=
  ∀ s, x.Ensures s fun r t es => r = .ok () ∧ t = s ∧ es = []

theorem Idle.quiet {x : Action σ Unit} (hx : Idle x) : Quiet view x := by
  intro s
  refine (hx s).mono ?_
  rintro _ _ _ ⟨-, rfl, rfl⟩
  exact ⟨rfl, rfl⟩

/-- Work on a part that `view` does not show. -/
theorem Quiet.within {get : τ → σ} {set : σ → τ → τ} {view' : τ → υ} {x : Action σ α}
    (hx : Quiet (fun _ => ()) x) (hset : ∀ s t, view' (set s t) = view' t) :
    Quiet view' (x.within get set) := by
  intro t
  rw [ensures_within]
  exact (hx (get t)).mono fun _ s _ h => ⟨hset s t, h.2⟩

end Action

open SoundCard.Action

section Status

variable {σ υ : Type} {view : σ → υ}

theorem quiet_readStatus (first : UInt8) : Quiet view (readStatus first) :=
  (quiet_transceiver _ _).bind fun _ => (quiet_transceiver _ _).bind fun _ =>
    (quiet_transceiver _ _).bind fun _ => (quiet_transceiver _ _).bind fun _ => quiet_pure _

theorem TransmitStatus.quiet_load : Quiet (fun _ => ()) load :=
  (quiet_readStatus _).bind fun _ => quiet_update fun _ => by rfl

theorem TransmitStatus.quiet_storeAt (status : ChannelStatus) :
    ∀ places, Quiet (fun _ => ()) (storeAt status places)
  | [] => quiet_pure _
  | i :: rest => quiet_state.bind fun _ => quiet_ite (quiet_storeAt status rest)
      (((quiet_transceiver _ _).orLog _).bind fun _ =>
        (quiet_update fun _ => by rfl).bind fun _ =>
          (quiet_storeAt status rest).bind fun _ => quiet_pure _)

theorem ReceiverFlag.quiet_read (flag : ReceiverFlag) : Quiet view flag.read :=
  (quiet_transceiver _ _).bind fun _ => quiet_pure _

theorem RecoveredRate.quiet_read : Quiet view RecoveredRate.read :=
  (quiet_transceiver _ _).bind fun _ => quiet_pure _

end Status

namespace Card

/-- The part of a card that its clocks depend on. -/
def clockSide (c : Card) : Board × ClockDomain := (c.board, c.clock)

section Views

variable {υ : Type} {view : Card → υ}

theorem quiet_programPll (rate : Hz) : Quiet view (programPll rate) :=
  quiet_state.bind fun _ => ((quiet_transceiver _ _).orLog _).bind fun _ =>
    (quiet_transceiver _ _).orLog _

theorem quiet_finishSetup : Quiet view finishSetup :=
  quiet_state.bind fun _ => (quiet_log _).bind fun _ =>
    ((quiet_perform _ fun _ => rfl).orLog _).bind fun _ =>
      (quiet_perform _ fun _ => rfl).orLog _

theorem quiet_getControl (id : Control) : Quiet view (getControl id) := by
  refine quiet_state.bind fun card => ?_
  cases id with
  | minRate | maxRate | playbackStatus | playbackMask => exact quiet_pure _
  | captureStatus => exact (quiet_readStatus _).bind fun _ => quiet_pure _
  | recoveredRate => exact RecoveredRate.quiet_read.bind fun _ => quiet_pure _
  | flag f => exact f.quiet_read.bind fun _ => quiet_pure _

theorem quiet_selectLimits (hlimits : ∀ c limits, view { c with limits := limits } = view c)
    (f : RateLimits → RateLimits) : Quiet view (selectLimits f) :=
  quiet_state.bind fun _ => (quiet_update fun c => hlimits c _).bind fun _ => quiet_pure _

variable (hstatus : ∀ c status, view { c with status := status } = view c)
include hstatus

theorem quiet_onStatus {α : Type} {x : Action ChannelStatus α} (hx : Quiet (fun _ => ()) x) :
    Quiet view (onStatus x) :=
  hx.within fun s c => hstatus c s

theorem quiet_setUpTransceiver : Quiet view setUpTransceiver :=
  quiet_state.bind fun card => (quiet_onStatus hstatus TransmitStatus.quiet_load).attempt.bind
    fun _ => (quiet_logFailure _ _).bind fun _ => ((quiet_transceiver _ _).orLog _).bind fun _ =>
      (quiet_transceiver _ _).attempt.bind fun _ => (quiet_logFailure _ _).bind fun _ =>
        (quiet_programPll card.board.defaultRate).orLog _

theorem quiet_putControl (hlimits : ∀ c limits, view { c with limits := limits } = view c)
    (id : Control) (value : ControlValue) : Quiet view (putControl id value) := by
  refine quiet_ite ?_ (quiet_fail _)
  split
  · exact quiet_selectLimits hlimits _
  · exact quiet_selectLimits hlimits _
  · exact quiet_onStatus hstatus (TransmitStatus.quiet_storeAt _ _)
  · exact quiet_fail _

end Views

end Card

end SoundCard
