import SoundCard.Proofs.CardOutcomes
import SoundCard.Proofs.Entries
import SoundCard.Proofs.Quiet

/-!
# What operations ask of the clocks

Several operations come to the same change of the clocks, and many to none. `Operation.clockTask?`
says which; an operation with a task ends as the task does (`Operation.ensures_task`), and one
without leaves the clocks alone (`Operation.quiet_perform`). What every task preserves, a history
preserves (`Card.play_clocks`).
-/

namespace SoundCard

open SoundCard.Action

inductive ClockTask
  | setUp
  | negotiate (direction : Direction) (params : StreamParams)
  | drop (direction : Direction)
  | start
  | stop
  | raise
  | lower

/-- How a task may end. -/
def ClockTask.Outcome (board : Board) :
    ClockTask → ClockDomain → Except CardError Unit → ClockDomain → List Event → Prop
  | .setUp => SetUpOutcome
  | .negotiate d params => NegotiateOutcome board d params
  | .drop d => Clock.DropOutcome d
  | .start => Clock.StartOutcome board
  | .stop => Clock.StopOutcome
  | .raise => Clock.RaiseOutcome board
  | .lower => fun s r t es => r = .ok () ∧ t = { s with syncPath := false } ∧ es = []

namespace Operation

/-- The task an operation comes to, if it concerns the clocks at all. -/
def clockTask? : Operation → Option ClockTask
  | .setUpCodec => some .setUp
  | .negotiate d params => some (.negotiate d params)
  | .freeStream d | .dropStream d => some (.drop d)
  | .changeBias domain current target =>
    if domain = .codec ∧ target = .prepare ∧ current ≠ .on then some .start else none
  | .biasChanged domain level =>
    if domain = .codec ∧ level = .standby then some .stop else none
  | .widgetPower widget .afterUp => if widget = Graph.receiveWidget then some .raise else none
  | .widgetPower widget .afterDown => if widget = Graph.receiveWidget then some .lower else none
  | .widgetPower _ .beforeUp | .widgetPower _ .beforeDown => none
  | .startClock => some .start
  | .stopClock => some .stop
  | .raiseSyncPath => some .raise
  | .lowerSyncPath => some .lower
  | .setUpTransceiver | .finishSetup | .openStream _ _ | .controlInfo _ _ | .getControl _
  | .putControl _ _ | .selectMinRate _ | .selectMaxRate _ | .loadStatus | .storeStatus _
  | .readFlag _ | .readRecoveredRate | .readReceivedStatus | .linkParams | .board => none

theorem eq_negotiate_of_clockTask? {op : Operation} {d : Direction}
    {params : StreamParams} (h : op.clockTask? = some (.negotiate d params)) :
    op = .negotiate d params := by
  cases op with
  | negotiate d' params' => cases h; rfl
  | widgetPower widget event => cases event <;> simp [clockTask?] at h
  | changeBias _ _ _ | biasChanged _ _ => simp [clockTask?] at h
  | _ => cases h

theorem eq_setUpCodec_of_clockTask? {op : Operation} (h : op.clockTask? = some .setUp) :
    op = .setUpCodec := by
  cases op with
  | setUpCodec => rfl
  | widgetPower widget event => cases event <;> simp [clockTask?] at h
  | changeBias _ _ _ | biasChanged _ _ => simp [clockTask?] at h
  | _ => cases h

/-- What an operation answers when its task ended in `r`: announcements after the fact succeed in
any case. -/
def report : Operation → Except CardError Unit → Except CardError Answer
  | .biasChanged _ _, _ | .widgetPower _ _, _ => .ok .unit
  | _, r => r.map fun _ => .unit

/-- The operation ends as the task does. -/
def Performs (op : Operation) (task : ClockTask) : Prop :=
  ∀ c : Card, op.perform.Ensures c fun r c' es =>
    ∃ r' t, task.Outcome c.board c.clock r' t es ∧ c' = { c with clock := t } ∧ r = op.report r'

end Operation

theorem Action.ensures_answer {σ β : Type} {x : Action σ Unit} {b : β} {s : σ}
    {Q : Except CardError β → σ → List Event → Prop} :
    (do x; return b).Ensures s Q ↔
      x.Ensures s fun r t es => Q (r.map fun _ => b) t es :=
  ensures_return _ x

namespace Card

variable {x : Action ClockDomain Unit} {c : Card}
  {P : Except CardError Unit → ClockDomain → List Event → Prop}

theorem ensures_onClock (hx : x.Ensures c.clock P) :
    (onClock x).Ensures c fun r c' es => ∃ t, P r t es ∧ c' = { c with clock := t } := by
  rw [onClock, ensures_within]
  exact hx.mono fun r t es h => ⟨t, h, rfl⟩

/-- A change of the clock domain whose error is only logged. -/
theorem ensures_attempted (hx : x.Ensures c.clock P) (line : LogLine) :
    ((onClock x).attempt >>= logFailure line).Ensures c fun r c' es =>
      r = .ok () ∧ ∃ r' t, P r' t es ∧ c' = { c with clock := t } := by
  rw [ensures_bind, ensures_attempt]
  refine (ensures_onClock hx).mono fun r c' es h => ?_
  obtain ⟨t, h, hc⟩ := h
  rw [then_ok, ensures_logFailure]
  exact ⟨rfl, r, t, by simpa using h, hc⟩

theorem idle_changeBias {domain : PowerDomain} {current target : BiasLevel}
    (h : ¬ (domain = .codec ∧ target = .prepare ∧ current ≠ .on)) :
    Idle (changeBias domain current target) := by
  intro c
  unfold changeBias
  by_cases hd : domain = .codec
  · have hn : ¬ (target = .prepare ∧ current ≠ .on) := fun hn => h ⟨hd, hn⟩
    rw [if_pos hd, if_neg hn]
    simp
  · rw [if_neg hd]
    simp

theorem idle_biasChanged {domain : PowerDomain} {level : BiasLevel}
    (h : ¬ (domain = .codec ∧ level = .standby)) : Idle (biasChanged domain level) := by
  intro c
  unfold biasChanged
  by_cases hd : domain = .codec
  · have hl : level ≠ .standby := fun hl => h ⟨hd, hl⟩
    rw [if_pos hd, if_neg hl]
    simp
  · rw [if_neg hd]
    simp

theorem idle_widgetPower {widget : String} {event : PowerEvent}
    (h : widget = Graph.receiveWidget → event = .beforeUp ∨ event = .beforeDown) :
    Idle (widgetPower widget event) := by
  intro c
  unfold widgetPower
  by_cases hw : widget = Graph.receiveWidget
  · rw [if_pos hw]
    rcases h hw with rfl | rfl <;> simp
  · rw [if_neg hw]
    simp

end Card

namespace Operation

variable {op : Operation} {task : ClockTask}

/-- An operation that reports what came of its task. -/
theorem Performs.of_answer {x : Action Card Unit} (hop : op.perform = do x; return .unit)
    (hr : ∀ r, op.report r = r.map fun _ => .unit)
    (hx : ∀ c : Card, x.Ensures c fun r c' es =>
      ∃ t, task.Outcome c.board c.clock r t es ∧ c' = { c with clock := t }) :
    op.Performs task := by
  intro c
  rw [hop, ensures_answer]
  refine (hx c).mono fun r c' es h => ?_
  obtain ⟨t, h, hc⟩ := h
  exact ⟨r, t, h, hc, (hr r).symm⟩

/-- An operation that changes the clock domain as the board has it. -/
theorem Performs.of_board {change : Board → Action ClockDomain Unit}
    (hop : op.perform = do Card.onClock (change (← .state).board); return .unit)
    (hr : ∀ r, op.report r = r.map fun _ => .unit)
    (hchange : ∀ c : Card, (change c.board).Ensures c.clock (task.Outcome c.board c.clock)) :
    op.Performs task := by
  intro c
  rw [hop, ensures_bind, ensures_state, then_ok, ensures_answer]
  refine (Card.ensures_onClock (hchange c)).mono fun r c' es h => ?_
  obtain ⟨t, h, hc⟩ := h
  exact ⟨r, t, h, hc, (hr r).symm⟩

theorem performs_setUpCodec : setUpCodec.Performs .setUp :=
  .of_answer rfl (fun _ => rfl) setUpCodec_ensures

theorem performs_negotiate (d : Direction) (params : StreamParams) :
    (negotiate d params).Performs (.negotiate d params) :=
  .of_answer rfl (fun _ => rfl) (negotiate_ensures d params)

theorem performs_dropStream (d : Direction) : (dropStream d).Performs (.drop d) :=
  .of_answer rfl (fun _ => rfl) fun c => Card.ensures_onClock (Clock.dropStream_ensures d c.clock)

theorem performs_freeStream (d : Direction) : (freeStream d).Performs (.drop d) := by
  refine .of_answer rfl (fun _ => rfl) fun c => ?_
  rw [Card.freeStream, ensures_bind, ensures_log, then_ok]
  exact Card.ensures_onClock (Clock.dropStream_ensures d c.clock)

theorem performs_stopClock : stopClock.Performs .stop :=
  .of_answer rfl (fun _ => rfl) fun c => Card.ensures_onClock (Clock.stop_ensures c.clock)

theorem performs_lowerSyncPath : lowerSyncPath.Performs .lower :=
  .of_answer rfl (fun _ => rfl) fun c => Card.ensures_onClock (Clock.lowerSyncPath_ensures c.clock)

theorem performs_startClock : startClock.Performs .start :=
  .of_board rfl (fun _ => rfl) fun c => Clock.start_ensures c.board c.clock

theorem performs_raiseSyncPath : raiseSyncPath.Performs .raise :=
  .of_board rfl (fun _ => rfl) fun c => Clock.raiseSyncPath_ensures c.board c.clock

theorem performs_changeBias {current : BiasLevel} (h : current ≠ .on) :
    (changeBias .codec current .prepare).Performs .start := by
  refine .of_answer rfl (fun _ => rfl) fun c => ?_
  simp only [Card.changeBias, if_true, true_and, h, ne_eq, not_false_eq_true, ensures_bind,
    ensures_log, ensures_state, then_ok]
  exact Card.ensures_onClock (Clock.start_ensures c.board c.clock)

theorem performs_biasChanged : (biasChanged .codec .standby).Performs .stop := by
  intro c
  rw [perform, ensures_answer]
  simp only [Card.biasChanged, if_true]
  rw [ensures_bind, ensures_log, then_ok]
  refine (Card.ensures_attempted (Clock.stop_ensures c.clock) _).mono ?_
  rintro _ _ es ⟨rfl, r', t, h, rfl⟩
  exact ⟨r', t, h, rfl, rfl⟩

theorem performs_widgetUp : (widgetPower Graph.receiveWidget .afterUp).Performs .raise := by
  intro c
  rw [perform, ensures_answer]
  simp only [Card.widgetPower, if_true]
  rw [ensures_bind, ensures_state, then_ok]
  refine (Card.ensures_attempted (Clock.raiseSyncPath_ensures c.board c.clock) _).mono ?_
  rintro _ _ es ⟨rfl, r', t, h, rfl⟩
  exact ⟨r', t, h, rfl, rfl⟩

theorem performs_widgetDown : (widgetPower Graph.receiveWidget .afterDown).Performs .lower := by
  intro c
  rw [perform, ensures_answer]
  simp only [Card.widgetPower, if_true]
  rw [ensures_bind, ensures_log, then_ok]
  refine (Card.ensures_onClock (Clock.lowerSyncPath_ensures c.clock)).mono ?_
  rintro _ _ es ⟨t, ⟨rfl, rfl, rfl⟩, rfl⟩
  exact ⟨.ok (), _, ⟨rfl, rfl, rfl⟩, rfl, rfl⟩

theorem ensures_task (h : op.clockTask? = some task) : op.Performs task := by
  cases op with
  | setUpCodec => cases h; exact performs_setUpCodec
  | negotiate d params => cases h; exact performs_negotiate d params
  | freeStream d => cases h; exact performs_freeStream d
  | dropStream d => cases h; exact performs_dropStream d
  | startClock => cases h; exact performs_startClock
  | stopClock => cases h; exact performs_stopClock
  | raiseSyncPath => cases h; exact performs_raiseSyncPath
  | lowerSyncPath => cases h; exact performs_lowerSyncPath
  | changeBias domain current target =>
    simp only [clockTask?, Option.ite_none_right_eq_some, Option.some.injEq] at h
    obtain ⟨⟨rfl, rfl, hne⟩, rfl⟩ := h
    exact performs_changeBias hne
  | biasChanged domain level =>
    simp only [clockTask?, Option.ite_none_right_eq_some, Option.some.injEq] at h
    obtain ⟨⟨rfl, rfl⟩, rfl⟩ := h
    exact performs_biasChanged
  | widgetPower widget event =>
    cases event with
    | afterUp =>
      simp only [clockTask?, Option.ite_none_right_eq_some, Option.some.injEq] at h
      obtain ⟨rfl, rfl⟩ := h
      exact performs_widgetUp
    | afterDown =>
      simp only [clockTask?, Option.ite_none_right_eq_some, Option.some.injEq] at h
      obtain ⟨rfl, rfl⟩ := h
      exact performs_widgetDown
    | beforeUp | beforeDown => cases h
  | _ => cases h

/-- The operation may select other rate limits. -/
def mayLimit : Operation → Bool
  | .putControl _ _ | .selectMinRate _ | .selectMaxRate _ => true
  | _ => false

/-- An operation without a task leaves all that depends neither on the status kept nor, if it may
select them, on the rate limits. -/
theorem quiet_view {υ : Type} {view : Card → υ} (h : op.clockTask? = none)
    (hstatus : ∀ c status, view { c with status := status } = view c)
    (hlimits : op.mayLimit = true → ∀ c limits, view { c with limits := limits } = view c) :
    Quiet view op.perform := by
  cases op with
  | setUpTransceiver => exact (Card.quiet_setUpTransceiver hstatus).bind fun _ => quiet_pure _
  | finishSetup => exact Card.quiet_finishSetup.bind fun _ => quiet_pure _
  | openStream d constraint =>
    refine Quiet.bind (quiet_state.bind fun card => ?_) fun _ => quiet_pure _
    split
    · exact (quiet_log _).bind fun _ => quiet_pure _
    · exact quiet_pure _
  | changeBias domain current target =>
    simp only [clockTask?, ite_eq_right_iff, reduceCtorEq, imp_false] at h
    exact (Card.idle_changeBias h).quiet.bind fun _ => quiet_pure _
  | biasChanged domain level =>
    simp only [clockTask?, ite_eq_right_iff, reduceCtorEq, imp_false] at h
    exact (Card.idle_biasChanged h).quiet.bind fun _ => quiet_pure _
  | widgetPower widget event =>
    refine (Card.idle_widgetPower fun hw => ?_).quiet.bind fun _ => quiet_pure _
    cases event <;> simp [clockTask?, hw] at h ⊢
  | controlInfo id item => exact quiet_pure _
  | getControl id => exact (Card.quiet_getControl id).bind fun _ => quiet_pure _
  | putControl id value =>
    exact (Card.quiet_putControl hstatus (hlimits rfl) id value).bind fun _ => quiet_pure _
  | selectMinRate i | selectMaxRate i =>
    exact (Card.quiet_selectLimits (hlimits rfl) _).bind fun _ => quiet_pure _
  | loadStatus =>
    exact (Card.quiet_onStatus hstatus TransmitStatus.quiet_load).bind fun _ => quiet_pure _
  | storeStatus status =>
    exact (Card.quiet_onStatus hstatus (TransmitStatus.quiet_storeAt status _)).bind fun _ =>
      quiet_pure _
  | readFlag flag => exact flag.quiet_read.bind fun _ => quiet_pure _
  | readRecoveredRate => exact RecoveredRate.quiet_read.bind fun _ => quiet_pure _
  | readReceivedStatus => exact (quiet_readStatus _).bind fun _ => quiet_pure _
  | linkParams => exact quiet_state.bind fun _ => quiet_pure _
  | board => exact quiet_state.bind fun _ => quiet_pure _
  | _ => cases h

theorem quiet_perform (h : op.clockTask? = none) : Quiet Card.clockSide op.perform :=
  quiet_view h (fun _ _ => rfl) fun _ _ _ => rfl

/-- What an operation may come to, as far as the clocks are concerned. -/
inductive ClockOutcome (op : Operation) (c : Card) :
    Except CardError Answer → Card → List Event → Prop
  | quiet {r : Except CardError Answer} {c' : Card} {es : List Event}
    (hop : op.clockTask? = none) (hc : c'.clockSide = c.clockSide)
    (hes : Trace.clockSteps es = []) : ClockOutcome op c r c' es
  | task {task : ClockTask} {r : Except CardError Unit} {t : ClockDomain} {es : List Event}
    (hop : op.clockTask? = some task) (h : task.Outcome c.board c.clock r t es) :
    ClockOutcome op c (op.report r) { c with clock := t } es

theorem perform_ensures (op : Operation) (c : Card) : op.perform.Ensures c (op.ClockOutcome c) := by
  rcases hop : op.clockTask? with _ | task
  · exact (quiet_perform hop c).mono fun r c' es h => .quiet hop h.1 h.2
  · refine (ensures_task hop c).mono ?_
    rintro _ _ es ⟨r, t, h, rfl, rfl⟩
    exact .task hop h

end Operation

namespace Card

variable {H : Type} (dev : Device H)

section Invariant

variable {board : Board} (Inv : ClockDomain → CodecClocks → Prop) (Allowed : Event → Prop)
  (htask : ∀ (task : ClockTask) {s t : ClockDomain} {k : CodecClocks}
    {r : Except CardError Unit} {es : List Event}, task.Outcome board s r t es → Inv s k →
    (∀ e ∈ es, Allowed e) → Inv t (k.replay es))

include htask

/-- What every task preserves, an operation preserves. -/
theorem perform_clocks (op : Operation) {c : Card} {k : CodecClocks} (hboard : c.board = board)
    (hinv : Inv c.clock k) :
    op.perform.Ensures c fun _ c' es =>
      (∀ e ∈ es, Allowed e) → c'.board = board ∧ Inv c'.clock (k.replay es) := by
  refine (op.perform_ensures c).mono fun r c' es hop hallowed => ?_
  cases hop with
  | quiet _ hc hes =>
    simp only [clockSide, Prod.mk.injEq] at hc
    rw [hc.1, hc.2, CodecClocks.replay_of_clockSteps_nil hes]
    exact ⟨hboard, hinv⟩
  | task _ h => exact ⟨hboard, htask _ (hboard ▸ h) hinv hallowed⟩

/-- What every task preserves, a history preserves, as far as its events are allowed. -/
theorem play_clocks :
    ∀ (ops : List Operation) {c : Card} (h : H) {k : CodecClocks}, c.board = board →
      Inv c.clock k → (∀ e ∈ (play dev ops c h).events, Allowed e) →
      Inv (play dev ops c h).card.clock (k.replay (play dev ops c h).events)
  | [], _, _, _, _, hinv, _ => hinv
  | op :: ops, c, h, k, hboard, hinv, hallowed => by
    rw [events_play_cons] at hallowed ⊢
    obtain ⟨hboard', hinv'⟩ := (perform_clocks Inv Allowed htask op hboard hinv).run dev h
      fun e he => hallowed e (List.mem_append_left _ (Trace.mem_of_mem_steps he))
    rw [CodecClocks.replay_steps] at hinv'
    rw [CodecClocks.replay_append]
    exact play_clocks ops _ hboard' hinv' fun e he => hallowed e (List.mem_append_right _ he)

end Invariant

end Card

end SoundCard
