import SoundCard.Proofs.Compositional
import SoundCard.Proofs.Entries
import SoundCard.Scripted

/-!
# Alarms

No failure is passed over in silence, and no alarm is false. An action either leaves a failure to
its caller, as an error, or logs an alarm for it, and then it may end in any way. Whoever goes on
past an error logs an alarm, which is what `Notices.attempt_bind` is about; so an operation logs an
alarm just if a call failed, but for those that only read, which log none and report the failure
instead (`Operation.failures_noticed`).
-/

namespace SoundCard

open SoundCard.Action SoundCard.LogLine

/-- The line, if it reports that something went wrong. -/
def Event.alarm? : Event → Option LogLine
  | .log line => if line.IsAlarm then some line else none
  | .call _ _ | .wait _ => none

namespace Trace

/-- The lines that report that something went wrong. -/
def alarms (es : List Event) : List LogLine := es.filterMap Event.alarm?

@[simp] theorem alarms_append (es fs : List Event) : alarms (es ++ fs) = alarms es ++ alarms fs :=
  List.filterMap_append

theorem alarms_log {line : LogLine} (hline : line.IsAlarm) : alarms [.log line] = [line] := by
  simp [alarms, Event.alarm?, hline]

theorem alarms_log_of_not {line : LogLine} (hline : ¬ line.IsAlarm) : alarms [.log line] = [] := by
  simp [alarms, Event.alarm?, hline]

end Trace

/-- How failures are made known. -/
inductive Notice
  /-- To the caller, by an error. -/
  | returned
  /-- To whoever reads the log, by an alarm. -/
  | logged

/-- Either nothing failed and all went well, or the failure was made known. -/
inductive Noticed {α : Type} : Notice → Except CardError α → List Event → Prop
  | clean {how : Notice} {es : List Event} (a : α) (hfailures : Trace.failures es = [])
    (halarms : Trace.alarms es = []) : Noticed how (.ok a) es
  | returned {es : List Event} (e : CardError) (hfailures : Trace.failures es ≠ [])
    (halarms : Trace.alarms es = []) : Noticed .returned (.error e) es
  | logged {es : List Event} (r : Except CardError α) (hfailures : Trace.failures es ≠ [])
    (halarms : Trace.alarms es ≠ []) : Noticed .logged r es

namespace Noticed

variable {α β : Type} {how : Notice} {r : Except CardError β} {es fs : List Event}

theorem append {a : α} (h : Noticed how (.ok a) es) (hr : Noticed how r fs) :
    Noticed how r (es ++ fs) := by
  cases h with
  | clean _ hfailures halarms =>
    have hfailures' : Trace.failures (es ++ fs) = Trace.failures fs := by simp [hfailures]
    have halarms' : Trace.alarms (es ++ fs) = Trace.alarms fs := by simp [halarms]
    cases hr with
    | clean b hf ha => exact .clean b (hfailures'.trans hf) (halarms'.trans ha)
    | returned e hf ha => exact .returned e (hfailures' ▸ hf) (halarms'.trans ha)
    | logged r hf ha => exact .logged r (hfailures' ▸ hf) (halarms' ▸ ha)
  | logged _ hfailures halarms => exact .logged r (by simp [hfailures]) (by simp [halarms])

theorem error {e : CardError} (h : Noticed how (.error e : Except CardError α) es) :
    Noticed how (.error e : Except CardError β) es := by
  cases h with
  | returned _ hfailures halarms => exact .returned e hfailures halarms
  | logged _ hfailures halarms => exact .logged _ hfailures halarms

theorem failures_of_error {e : CardError} (h : Noticed how (.error e : Except CardError α) es) :
    Trace.failures es ≠ [] := by
  cases h with
  | returned _ hfailures _ | logged _ hfailures _ => exact hfailures

theorem of_ok {a : α} (h : Noticed how (.ok a) es) : Noticed .logged (.ok a) es := by
  cases h with
  | clean _ hfailures halarms => exact .clean a hfailures halarms
  | logged _ hfailures halarms => exact .logged _ hfailures halarms

theorem alarms_iff {r : Except CardError α} (h : Noticed .logged r es) :
    Trace.alarms es ≠ [] ↔ Trace.failures es ≠ [] := by
  cases h with
  | clean _ hfailures halarms => simp [hfailures, halarms]
  | logged _ hfailures halarms => simp [hfailures, halarms]

theorem error_iff {r : Except CardError α} (h : Noticed .returned r es) :
    Trace.alarms es = [] ∧ ((∃ e, r = .error e) ↔ Trace.failures es ≠ []) := by
  cases h with
  | clean _ hfailures halarms => simp [hfailures, halarms]
  | returned _ hfailures halarms => simp [hfailures, halarms]

end Noticed

namespace Action

variable {σ τ α β : Type} {how : Notice} {line : LogLine}

/-- However its calls are answered, the action makes its failures known. -/
def Notices (how : Notice) (x : Action σ α) : Prop :=
  ∀ s, (x s).Ensures fun v es => Noticed how v.1 es

/-- However its calls are answered, the action logs an alarm. -/
def SoundsAlarm (x : Action σ α) : Prop := ∀ s, (x s).Ensures fun _ es => Trace.alarms es ≠ []

theorem soundsAlarm_log (hline : line.IsAlarm) : SoundsAlarm (log line : Action σ Unit) := by
  intro s
  simp [Action.log, Program.Ensures, Trace.alarms_log hline]

theorem SoundsAlarm.bind {x : Action σ α} (hx : SoundsAlarm x) (f : α → Action σ β) :
    SoundsAlarm (x >>= f) := by
  intro s
  rw [bind_apply, Program.ensures_bind]
  refine (hx s).mono fun v es h => Program.ensures_of_forall _ fun _ fs => ?_
  simp [h]

theorem soundsAlarm_giveUp (hline : line.IsAlarm) (e : CardError) :
    SoundsAlarm (Clock.giveUp line e) :=
  (soundsAlarm_log hline).bind _

theorem soundsAlarm_wait (us : UInt32) {x : Action σ α} (hx : SoundsAlarm x) :
    SoundsAlarm (wait us >>= fun _ => x) :=
  fun s => hx s

theorem Notices.bind {x : Action σ α} {f : α → Action σ β} (hx : Notices how x)
    (hf : ∀ a, Notices how (f a)) : Notices how (x >>= f) := by
  intro s
  rw [bind_apply, Program.ensures_bind]
  refine (hx s).mono ?_
  rintro ⟨e | a, t⟩ es h
  · simpa [proceed, Program.Ensures] using h.error
  · exact (hf a t).mono fun _ _ h' => h.append h'

theorem Notices.within {get : τ → σ} {set : σ → τ → τ} {x : Action σ α} (hx : Notices how x) :
    Notices how (x.within get set) := by
  intro t
  rw [Action.within, Program.map, Program.ensures_bind]
  exact (hx (get t)).mono fun v es h => by simpa [Program.Ensures] using h

theorem compositional_notices (how : Notice) : Compositional fun _ _ => Notices how where
  pure a _ := .clean a rfl rfl
  state s := .clean s rfl rfl
  update _ _ := .clean () rfl rfl
  log _ hline _ := .clean () rfl (Trace.alarms_log_of_not hline)
  bind := Notices.bind
  within := Notices.within

theorem notices_perform (step : CardStep) (c : Call) :
    Notices .returned (perform step c : Action σ c.Answer) := by
  rintro s (f | a)
  · exact .returned _ (by simp [Trace.failures, Event.failed?, failureOf]) rfl
  · exact .clean a rfl rfl

theorem notices_wait (us : UInt32) : Notices how (wait us : Action σ Unit) :=
  fun _ => .clean () rfl rfl

/-- What follows a step that may have failed: whatever is made of the failure, it is logged. -/
theorem Notices.attempt_bind {x : Action σ α} {f : Except CardError α → Action σ β}
    (hx : Notices how x) (hok : ∀ a, Notices .logged (f (.ok a)))
    (herror : ∀ e, SoundsAlarm (f (.error e))) : Notices .logged (x.attempt >>= f) := by
  intro s
  rw [bind_apply, attempt, Program.map, Program.bind_assoc, Program.ensures_bind]
  refine (hx s).mono ?_
  rintro ⟨e | a, t⟩ es h
  · exact (herror e t).mono fun v fs halarms =>
      .logged v.1 (by simp [h.failures_of_error]) (by simp [halarms])
  · exact (hok a t).mono fun _ _ h' => h.of_ok.append h'

theorem Notices.orLog {x : Action σ α} (hx : Notices how x) (hline : line.IsAlarm) :
    Notices .logged (x.orLog line) :=
  hx.attempt_bind (fun a _ => .clean a rfl rfl) fun _ => (soundsAlarm_log hline).bind _

theorem Notices.logFailure {x : Action σ α} (hx : Notices how x) (hline : line.IsAlarm) :
    Notices .logged (x.attempt >>= Action.logFailure line) :=
  hx.attempt_bind (fun _ _ => .clean () rfl rfl) fun _ => soundsAlarm_log hline

theorem Notices.logFailure_then {x : Action σ α} {y : Action σ β} (hx : Notices how x)
    (hline : line.IsAlarm) (hy : Notices .logged y) :
    Notices .logged (x.attempt >>= fun r => Action.logFailure line r >>= fun _ => y) :=
  hx.attempt_bind (fun _ => hy) fun _ => (soundsAlarm_log hline).bind _

end Action

namespace Clock

theorem notices_disablePaths : Notices .logged disablePaths := by
  rintro s (f | ⟨⟩) (g | ⟨⟩)
  · exact .logged _ (List.cons_ne_nil _ _) (List.cons_ne_nil _ _)
  · exact .logged _ (List.cons_ne_nil _ _) (List.cons_ne_nil _ _)
  · exact .logged _ (List.cons_ne_nil _ _) (List.cons_ne_nil _ _)
  · exact .clean () rfl rfl

variable (board : Board) (rate : Hz)

theorem notices_lockToMaster : Notices .logged (lockToMaster board rate) := by
  have hJ := compositional_notices .logged
  refine (notices_perform _ _).attempt_bind (fun _ => ?_) fun e => ?_
  · exact (notices_wait _).bind fun _ => hJ.bind (hJ.log _ (not_isAlarm_of_debug rfl)) fun _ =>
      hJ.update _
  · exact soundsAlarm_wait _ (soundsAlarm_giveUp (.inr rfl) e)

theorem notices_lockToRecovered : Notices .logged (lockToRecovered board rate) := by
  have hJ := compositional_notices .logged
  refine (notices_perform _ _).attempt_bind (fun _ => ?_) (soundsAlarm_giveUp (.inr rfl))
  refine (notices_perform _ _).attempt_bind (fun _ => ?_) fun e => ?_
  · exact (notices_wait _).bind fun _ => hJ.bind (hJ.log _ (not_isAlarm_of_debug rfl)) fun _ =>
      hJ.update _
  · exact soundsAlarm_wait _ (soundsAlarm_giveUp (.inr rfl) e)

/-- FLL1 is stopped and locked to the master clock, and each of the two has a line for its
failure. -/
theorem notices_relock {starting clearFailed lockFailed : LogLine}
    (hstarting : starting.level = .debug) (hclear : clearFailed.level = .error)
    (hlock : lockFailed.level = .error) :
    Notices .logged (do
      Action.log starting
      Action.orLog disablePaths clearFailed
      Action.orLog (lockToMaster board rate) lockFailed) :=
  ((compositional_notices _).log _ (not_isAlarm_of_debug hstarting)).bind fun _ =>
    (notices_disablePaths.orLog (.inr hclear)).bind fun _ =>
      (notices_lockToMaster board rate).orLog (.inr hlock)

theorem notices_followRate : Notices .logged (followRate board rate) := by
  have hJ := compositional_notices .logged
  refine hJ.bind hJ.state fun s => ?_
  rcases s.fll with _ | current | current
  · exact hJ.pure ()
  · exact hJ.ite (hJ.pure ()) (notices_relock board rate rfl rfl rfl)
  · exact hJ.pure ()

theorem notices_start : Notices .logged (start board) := by
  have hJ := compositional_notices .logged
  exact hJ.bind hJ.state fun s => hJ.ite (hJ.pure ())
    (hJ.ite (hJ.pure ()) (notices_relock board s.rate rfl rfl rfl))

theorem notices_stop : Notices .logged stop := by
  have hJ := compositional_notices .logged
  refine hJ.bind hJ.state fun _ => hJ.bind (hJ.log _ (not_isAlarm_of_debug rfl)) fun _ => ?_
  exact notices_disablePaths.attempt_bind (fun _ => hJ.pure ()) (soundsAlarm_giveUp (.inr rfl))

theorem notices_raiseSyncPath : Notices .logged (raiseSyncPath board) := by
  have hJ := compositional_notices .logged
  refine hJ.bind hJ.state fun s => hJ.bind (hJ.log _ (not_isAlarm_of_debug rfl)) fun _ => ?_
  refine notices_disablePaths.attempt_bind (fun _ => ?_) (soundsAlarm_giveUp (.inr rfl))
  exact ((notices_lockToRecovered board s.rate).orLog (.inr rfl)).bind fun _ => hJ.update _

theorem notices_dropStream (d : Direction) : Notices .logged (dropStream d) := by
  have hJ := compositional_notices .logged
  refine hJ.bind hJ.state fun s => hJ.bind (hJ.update _) fun _ => hJ.ite (hJ.pure ()) ?_
  exact hJ.bind (hJ.log _ (not_isAlarm_of_debug rfl)) fun _ =>
    (notices_perform _ _).orLog (.inr rfl)

end Clock

namespace Card

theorem notices_setUpCodec : Notices .logged setUpCodec :=
  (notices_perform _ _).logFailure_then (.inl rfl)
    (Clock.notices_disablePaths.within.logFailure_then (.inl rfl)
      ((notices_perform _ _).orLog (.inr rfl)))

theorem notices_programPll (rate : Hz) : Notices .logged (programPll rate) := by
  have hJ := compositional_notices .logged
  exact hJ.bind hJ.state fun _ => ((notices_perform _ _).orLog (.inr rfl)).bind fun _ =>
    (notices_perform _ _).orLog (.inr rfl)

theorem notices_setUpTransceiver : Notices .logged setUpTransceiver := by
  have hload := TransmitStatus.load_of (compositional_notices .returned)
    fun _ => notices_perform _ _
  have hJ := compositional_notices .logged
  refine hJ.bind hJ.state fun card => hload.within.logFailure_then (.inl rfl) ?_
  refine ((notices_perform _ _).orLog (.inr rfl)).bind fun _ => ?_
  exact (notices_perform _ _).logFailure_then (.inr rfl)
    ((notices_programPll card.board.defaultRate).orLog (.inr rfl))

theorem notices_finishSetup : Notices .logged finishSetup :=
  finishSetup_of (compositional_notices .logged) ((notices_perform _ _).orLog (.inr rfl))
    ((notices_perform _ _).orLog (.inr rfl))

theorem notices_negotiate (d : Direction) (params : StreamParams) :
    Notices .logged (negotiate d params) := by
  have hJ := compositional_notices .logged
  refine hJ.bind hJ.state fun card => hJ.bind (hJ.log _ (not_isAlarm_of_debug rfl)) fun _ => ?_
  have hfollow : Notices .logged (do
      Action.orLog (.codec .sysclk (.setSysclk (card.board.sysclk params.rate.hz)))
        (.sysclkFailed (card.board.sysclk params.rate.hz))
      onClock (Clock.followRate card.board params.rate.hz)
      onClock (Clock.recordStream d params.rate.hz)) :=
    ((notices_perform _ _).orLog (.inr rfl)).bind fun _ =>
      (hJ.within (Clock.notices_followRate _ _)).bind fun _ => hJ.within (hJ.update _)
  refine ((notices_perform _ _).orLog (.inr rfl)).bind fun _ =>
    ((notices_perform _ _).orLog (.inr rfl)).bind fun _ => ?_
  exact hJ.ite ((notices_programPll _).bind fun _ => hfollow) hfollow

theorem notices_freeStream (d : Direction) : Notices .logged (freeStream d) := by
  have hJ := compositional_notices .logged
  exact hJ.bind (hJ.log _ (not_isAlarm_of_trace rfl)) fun _ => hJ.within (Clock.notices_dropStream d)

theorem notices_store (status : ChannelStatus) : Notices .logged (TransmitStatus.store status) :=
  TransmitStatus.storeAt_of (compositional_notices .logged)
    (fun _ _ => (notices_perform _ _).orLog (.inr rfl)) status _

end Card

namespace Operation

variable {op : Operation}

theorem notices_of_readsOnly (hop : op.readsOnly = true) : Notices .returned op.perform :=
  perform_of_readsOnly (compositional_notices .returned) (fun _ => notices_perform _ _) hop

theorem notices_perform (hop : op.readsOnly = false) (hput : ∀ id value, op ≠ .putControl id value) :
    Notices .logged op.perform := by
  have hJ := compositional_notices .logged
  by_cases hlocal : op.isLocal = true
  · exact perform_of_isLocal hJ hlocal
  cases op with
  | setUpCodec => exact Card.notices_setUpCodec.bind fun _ => hJ.pure _
  | setUpTransceiver => exact Card.notices_setUpTransceiver.bind fun _ => hJ.pure _
  | finishSetup => exact Card.notices_finishSetup.bind fun _ => hJ.pure _
  | negotiate d params => exact (Card.notices_negotiate d params).bind fun _ => hJ.pure _
  | freeStream d => exact (Card.notices_freeStream d).bind fun _ => hJ.pure _
  | changeBias domain current target =>
    exact (Card.changeBias_of hJ fun _ => Clock.notices_start).bind fun _ => hJ.pure _
  | biasChanged domain level =>
    exact (Card.biasChanged_of hJ fun _ =>
      Clock.notices_stop.within.logFailure (.inl rfl)).bind fun _ => hJ.pure _
  | widgetPower widget event =>
    exact (Card.widgetPower_of hJ fun _ board =>
      (Clock.notices_raiseSyncPath board).within.logFailure (.inl rfl)).bind fun _ => hJ.pure _
  | startClock =>
    exact hJ.bind hJ.state fun _ => (hJ.within (Clock.notices_start _)).bind fun _ => hJ.pure _
  | stopClock => exact (hJ.within Clock.notices_stop).bind fun _ => hJ.pure _
  | raiseSyncPath =>
    exact hJ.bind hJ.state fun _ =>
      (hJ.within (Clock.notices_raiseSyncPath _)).bind fun _ => hJ.pure _
  | lowerSyncPath => exact (hJ.within (hJ.update _)).bind fun _ => hJ.pure _
  | dropStream d => exact (hJ.within (Clock.notices_dropStream d)).bind fun _ => hJ.pure _
  | storeStatus status => exact (hJ.within (Card.notices_store status)).bind fun _ => hJ.pure _
  | putControl id value => exact (hput id value rfl).elim
  | openStream _ _ | controlInfo _ _ | selectMinRate _ | selectMaxRate _ | linkParams | board =>
    exact (hlocal rfl).elim
  | _ => cases hop

/-- A control that is not written for what was asked is no failure. -/
theorem alarmed_putControl (id : Control) (value : ControlValue) (c : Card) :
    ((putControl id value).perform c).Ensures fun _ es =>
      Trace.alarms es ≠ [] ↔ Trace.failures es ≠ [] := by
  have hJ := compositional_notices .logged
  have hnotices : ∀ {x : Action Card Bool}, Notices .logged x →
      ((x >>= fun changed => pure (Answer.changed changed)) c).Ensures fun _ es =>
        Trace.alarms es ≠ [] ↔ Trace.failures es ≠ [] :=
    fun hx => ((hx.bind fun _ => hJ.pure _) c).mono fun _ _ h => h.alarms_iff
  rcases Card.putControl_eq id value with ⟨e, -, h⟩ | ⟨f, h⟩ | ⟨status, h⟩
  · rw [perform, h]
    exact ⟨fun halarms => (halarms rfl).elim, fun hfailures => (hfailures rfl).elim⟩
  · rw [perform, h]
    exact hnotices (Card.selectLimits_of hJ f)
  · rw [perform, h]
    exact hnotices (hJ.within (Card.notices_store status))

/-- An operation logs an alarm just if one of its calls failed, whatever its result. One that only
reads logs none, and fails just if one of its reads did. Giving the card up makes no call, and is no
cause for alarm. -/
theorem failures_noticed {H : Type} (dev : Device H) (op : Operation) (c : Card) (h : H) :
    let e := op.entry dev c h
    let detached := Card.detach.run dev h
    (op.readsOnly = false → (Trace.alarms e.events ≠ [] ↔ Trace.failures e.events ≠ [])) ∧
      (op.readsOnly = true → Trace.alarms e.events = [] ∧
        ((∃ err, e.result = .error err) ↔ Trace.failures e.events ≠ [])) ∧
      Trace.alarms detached.events = [] ∧ Trace.failures detached.events = [] := by
  intro e detached
  refine ⟨fun hop => ?_, fun hop => ?_, rfl, rfl⟩
  · by_cases hput : ∃ id value, op = .putControl id value
    · obtain ⟨id, value, rfl⟩ := hput
      exact (alarmed_putControl id value c).run dev h
    · have hne : ∀ id value, op ≠ .putControl id value := fun id value heq =>
        hput ⟨id, value, heq⟩
      exact ((notices_perform hop hne c).run dev h).alarms_iff
  · exact ((notices_of_readsOnly hop c).run dev h).error_iff

/-- The codec is set up and the receive widget is powered, each without an error although its first
two calls fail; each logs an alarm. A flag that cannot be read is an error, and no alarm. -/
theorem failures_noticed_tolerated :
    let dev := Scripted.device (.ofFaults [{ first := 0, count := 2, failure := .bus }])
    let setUp := setUpCodec.entry dev (Card.initial {}) {}
    let raised := (widgetPower Graph.receiveWidget .afterUp).entry dev (Card.initial {}) {}
    let flag := (getControl (.flag .lock)).entry dev (Card.initial {}) {}
    (setUp.result = .ok .unit ∧ Trace.alarms setUp.events ≠ []) ∧
      (raised.result = .ok .unit ∧ Trace.alarms raised.events ≠ []) ∧
      Trace.alarms flag.events = [] ∧ ∃ err, flag.result = .error err := by
  intro dev setUp raised flag
  have hsetUp : Trace.failures setUp.events ≠ [] := by decide
  have hraised : Trace.failures raised.events ≠ [] := by decide
  have hflag : Trace.failures flag.events ≠ [] := by decide
  obtain ⟨hsetUp', -⟩ := failures_noticed dev setUpCodec (Card.initial {}) {}
  obtain ⟨hraised', -⟩ :=
    failures_noticed dev (widgetPower Graph.receiveWidget .afterUp) (Card.initial {}) {}
  obtain ⟨-, hflag', -⟩ := failures_noticed dev (getControl (.flag .lock)) (Card.initial {}) {}
  exact ⟨⟨rfl, (hsetUp' rfl).2 hsetUp⟩, ⟨rfl, (hraised' rfl).2 hraised⟩, (hflag' rfl).1,
    (hflag' rfl).2.2 hflag⟩

end Operation

end SoundCard
