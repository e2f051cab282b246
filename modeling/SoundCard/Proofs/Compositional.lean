import SoundCard.Proofs.Tasks

/-!
# What is shown part by part

Many properties of actions hold of the plainest ones, and of whatever is put together from actions
that have them (`Action.Compositional`). Such a property need only be known of single register
accesses to hold of all that the card does with its mixer. That every step is of a given kind is one
of these properties (`Action.Takes`), and so what asks nothing of the clocks is shown to make but a
few kinds of calls (`Operation.takes_aside`).
-/

namespace SoundCard

theorem LogLine.not_isAlarm_of_trace {line : LogLine} (h : line.level = .trace) :
    ¬ line.IsAlarm := by
  simp [IsAlarm, h]

theorem LogLine.not_isAlarm_of_debug {line : LogLine} (h : line.level = .debug) :
    ¬ line.IsAlarm := by
  simp [IsAlarm, h]

/-- A property that actions have where their parts have it. A line that reports a failure is no part
that has it by itself. -/
structure Action.Compositional (J : ∀ ⦃σ α : Type⦄, Action σ α → Prop) : Prop where
  pure : ∀ {σ α : Type} (a : α), J (pure a : Action σ α)
  state : ∀ {σ : Type}, J (.state : Action σ σ)
  update : ∀ {σ : Type} (f : σ → σ), J (.update f)
  log : ∀ {σ : Type} (line : LogLine), ¬ line.IsAlarm → J (.log line : Action σ Unit)
  bind : ∀ {σ α β : Type} {x : Action σ α} {f : α → Action σ β},
    J x → (∀ a, J (f a)) → J (x >>= f)
  within : ∀ {σ τ α : Type} {get : τ → σ} {set : σ → τ → τ} {x : Action σ α},
    J x → J (x.within get set)

namespace Operation

/-- The operation asks the card or the transceiver's registers, and changes nothing but what the
card keeps of them. -/
def readsOnly : Operation → Bool
  | .loadStatus | .getControl _ | .readFlag _ | .readRecoveredRate | .readReceivedStatus => true
  | _ => false

/-- The operation concerns the card alone. -/
def isLocal : Operation → Bool
  | .openStream _ _ | .controlInfo _ _ | .selectMinRate _ | .selectMaxRate _ | .linkParams
  | .board => true
  | _ => false

end Operation

/-- Writing a control is turned down, or comes to something else that the card does. -/
theorem Card.putControl_eq (id : Control) (value : ControlValue) :
    (∃ e, (e = .readOnly ∨ e = .invalidValue) ∧ putControl id value = .fail e) ∨
      (∃ f, putControl id value = selectLimits f) ∨
      ∃ status, putControl id value = onStatus (TransmitStatus.store status) := by
  unfold putControl
  split
  · split
    · exact .inr (.inl ⟨_, rfl⟩)
    · exact .inr (.inl ⟨_, rfl⟩)
    · exact .inr (.inr ⟨_, rfl⟩)
    · exact .inl ⟨_, .inr rfl, rfl⟩
  · exact .inl ⟨_, .inl rfl, rfl⟩

variable {J : ∀ ⦃σ α : Type⦄, Action σ α → Prop}

theorem Action.Compositional.ite (_ : Compositional J) {σ α : Type} {p : Prop} [Decidable p]
    {x y : Action σ α} (hx : J x) (hy : J y) : J (if p then x else y) := by
  split
  · exact hx
  · exact hy

section Compositional

variable (hJ : Action.Compositional J)
include hJ

namespace Card

theorem openStream_of (d : Direction) (constraint : RateConstraint) :
    J (openStream d constraint) := by
  refine hJ.bind hJ.state fun card => ?_
  split
  · exact hJ.bind (hJ.log _ (LogLine.not_isAlarm_of_trace rfl)) fun _ => hJ.pure _
  · exact hJ.pure _

theorem selectLimits_of (f : RateLimits → RateLimits) : J (selectLimits f) :=
  hJ.bind hJ.state fun _ => hJ.bind (hJ.update _) fun _ => hJ.pure _

theorem finishSetup_of
    (hfirst : J (.orLog (.codec .aif1Domain (.joinSysclk .aif1)) .aif1DomainFailed :
      Action Card Unit))
    (hsecond : J (.orLog (.codec .aif2Domain (.joinSysclk .aif2)) .aif2DomainFailed :
      Action Card Unit)) : J finishSetup :=
  hJ.bind hJ.state fun _ => hJ.bind (hJ.log _ (LogLine.not_isAlarm_of_debug rfl)) fun _ =>
    hJ.bind hfirst fun _ => hsecond

end Card

theorem Operation.perform_of_isLocal {op : Operation} (hop : op.isLocal = true) :
    J op.perform := by
  cases op with
  | openStream d constraint =>
    exact hJ.bind (Card.openStream_of hJ d constraint) fun _ => hJ.pure _
  | controlInfo id item => exact hJ.pure _
  | selectMinRate item | selectMaxRate item =>
    exact hJ.bind (Card.selectLimits_of hJ _) fun _ => hJ.pure _
  | linkParams | board => exact hJ.bind hJ.state fun _ => hJ.pure _
  | _ => cases hop

section Reads

variable (hread : ∀ {σ : Type} (register : UInt8),
  J (.transceiver .readStatus (.readRegister register) : Action σ UInt8))
include hread

theorem readStatus_of {σ : Type} (first : UInt8) : J (readStatus first : Action σ ChannelStatus) :=
  hJ.bind (hread _) fun _ => hJ.bind (hread _) fun _ => hJ.bind (hread _) fun _ =>
    hJ.bind (hread _) fun _ => hJ.pure _

theorem ReceiverFlag.read_of {σ : Type} (flag : ReceiverFlag) : J (flag.read : Action σ Bool) :=
  hJ.bind (hread _) fun _ => hJ.pure _

theorem RecoveredRate.read_of {σ : Type} : J (RecoveredRate.read : Action σ RecoveredRate) :=
  hJ.bind (hread _) fun _ => hJ.pure _

theorem TransmitStatus.load_of : J TransmitStatus.load :=
  hJ.bind (readStatus_of hJ hread _) fun _ => hJ.update _

theorem Card.getControl_of (id : Control) : J (getControl id) := by
  refine hJ.bind hJ.state fun card => ?_
  cases id with
  | minRate | maxRate | playbackStatus | playbackMask => exact hJ.pure _
  | captureStatus => exact hJ.bind (readStatus_of hJ hread _) fun _ => hJ.pure _
  | recoveredRate => exact hJ.bind (RecoveredRate.read_of hJ hread) fun _ => hJ.pure _
  | flag f => exact hJ.bind (f.read_of hJ hread) fun _ => hJ.pure _

theorem Operation.perform_of_readsOnly {op : Operation} (hop : op.readsOnly = true) :
    J op.perform := by
  cases op with
  | loadStatus => exact hJ.bind (hJ.within (TransmitStatus.load_of hJ hread)) fun _ => hJ.pure _
  | getControl id => exact hJ.bind (Card.getControl_of hJ hread id) fun _ => hJ.pure _
  | readFlag flag => exact hJ.bind (flag.read_of hJ hread) fun _ => hJ.pure _
  | readRecoveredRate => exact hJ.bind (RecoveredRate.read_of hJ hread) fun _ => hJ.pure _
  | readReceivedStatus => exact hJ.bind (readStatus_of hJ hread _) fun _ => hJ.pure _
  | _ => cases hop

end Reads

theorem TransmitStatus.storeAt_of
    (hwrite : ∀ status i, J (.orLog (.transceiver .writeStatus (writeCall status i))
      (.statusWriteFailed (Transceiver.transmitRegister i)) : Action ChannelStatus Unit))
    (status : ChannelStatus) : ∀ places, J (storeAt status places)
  | [] => hJ.pure _
  | _ :: rest => hJ.bind hJ.state fun _ => hJ.ite (storeAt_of hwrite status rest)
      (hJ.bind (hwrite _ _) fun _ => hJ.bind (hJ.update _) fun _ =>
        hJ.bind (storeAt_of hwrite status rest) fun _ => hJ.pure _)

section Power

namespace Card

theorem changeBias_of {domain : PowerDomain} {current target : BiasLevel}
    (hstart : domain = .codec ∧ target = .prepare ∧ current ≠ .on →
      ∀ board, J (Clock.start board)) : J (changeBias domain current target) := by
  unfold changeBias
  by_cases hd : domain = .codec
  · rw [if_pos hd]
    refine hJ.bind (hJ.log _ (LogLine.not_isAlarm_of_trace rfl)) fun _ => ?_
    split
    · rename_i htarget
      exact hJ.bind hJ.state fun _ => hJ.within (hstart ⟨hd, htarget⟩ _)
    · exact hJ.pure ()
  · rw [if_neg hd]
    exact hJ.pure ()

theorem biasChanged_of {domain : PowerDomain} {level : BiasLevel}
    (hstop : domain = .codec ∧ level = .standby →
      J ((onClock Clock.stop).attempt >>= .logFailure .stopUnacknowledged)) :
    J (biasChanged domain level) := by
  unfold biasChanged
  by_cases hd : domain = .codec
  · rw [if_pos hd]
    refine hJ.bind (hJ.log _ (LogLine.not_isAlarm_of_trace rfl)) fun _ => ?_
    split
    · rename_i hlevel
      exact hstop ⟨hd, hlevel⟩
    · exact hJ.pure ()
  · rw [if_neg hd]
    exact hJ.pure ()

theorem widgetPower_of {widget : String} {event : PowerEvent}
    (hraise : widget = Graph.receiveWidget ∧ event = .afterUp → ∀ board,
      J ((onClock (Clock.raiseSyncPath board)).attempt >>= .logFailure .syncUnlocked)) :
    J (widgetPower widget event) := by
  unfold widgetPower
  by_cases hw : widget = Graph.receiveWidget
  · rw [if_pos hw]
    cases event with
    | beforeUp | beforeDown => exact hJ.pure ()
    | afterUp => exact hJ.bind hJ.state fun _ => hraise ⟨hw, rfl⟩ _
    | afterDown =>
      exact hJ.bind (hJ.log _ (LogLine.not_isAlarm_of_debug rfl)) fun _ =>
        hJ.within (hJ.update _)
  · rw [if_neg hw]
    exact hJ.pure ()

end Card

end Power

end Compositional

section Steps

namespace Action

variable {σ τ α β : Type} {P : Event → Prop}

/-- Every step the action takes satisfies `P`. -/
def Takes (P : Event → Prop) (x : Action σ α) : Prop :=
  ∀ s, x.Ensures s fun _ _ es => ∀ e ∈ es, P e

theorem takes_perform (step : CardStep) {c : Call} (hc : ∀ f, P (.call c f)) :
    Takes P (perform step c : Action σ c.Answer) := by
  intro s
  rw [ensures_perform]
  exact ⟨fun _ e he => by rw [List.mem_singleton.1 he]; exact hc none,
    fun f e he => by rw [List.mem_singleton.1 he]; exact hc (some f)⟩

theorem Takes.bind {x : Action σ α} {f : α → Action σ β} (hx : Takes P x)
    (hf : ∀ a, Takes P (f a)) : Takes P (x >>= f) := by
  intro s
  rw [ensures_bind]
  refine (hx s).mono ?_
  rintro (e | a) t es h
  · exact h
  · rw [then_ok]
    refine (hf a t).mono fun _ _ fs h' e he => ?_
    rcases List.mem_append.1 he with he | he
    · exact h e he
    · exact h' e he

theorem Takes.orLog {x : Action σ α} (hx : Takes P x) (line : LogLine) : Takes P (x.orLog line) :=
  fun s => (ensures_orLog x line).2 (hx s)

theorem compositional_takes (P : Event → Prop) : Compositional fun _ _ => Takes P where
  pure _ _ _ he := nomatch he
  state _ _ he := nomatch he
  update _ _ _ he := nomatch he
  log _ _ _ _ he := nomatch he
  bind := Takes.bind
  within hx t := (ensures_within _ _ _ t).2 (hx _)

end Action

/-- The calls that ask nothing of the clocks: an access to a register of the transceiver, or an
interface of the codec that joins SYSCLK. -/
inductive Event.Aside : Event → Prop
  | read (register : UInt8) (f : Option Failure) :
    Aside (.call (.transceiver (.readRegister register)) f)
  | write (register mask value : UInt8) (f : Option Failure) :
    Aside (.call (.transceiver (.updateBits register mask value)) f)
  | join (interface : AudioInterface) (f : Option Failure) :
    Aside (.call (.codec (.joinSysclk interface)) f)

open SoundCard.Action

theorem TransmitStatus.takes_store (status : ChannelStatus) : Takes Event.Aside (store status) :=
  storeAt_of (compositional_takes _) (fun _ _ => (takes_perform _ fun f => .write _ _ _ f).orLog _)
    status _

/-- An operation that asks nothing of the clocks takes no other steps; only setting up the link to
the transceiver does more. -/
theorem Operation.takes_aside {op : Operation} (htask : op.clockTask? = none)
    (hsetUp : op ≠ .setUpTransceiver) : Takes Event.Aside op.perform := by
  have hJ := compositional_takes Event.Aside
  by_cases hread : op.readsOnly = true
  · exact perform_of_readsOnly hJ (fun _ => takes_perform _ fun f => .read _ f) hread
  by_cases hlocal : op.isLocal = true
  · exact perform_of_isLocal hJ hlocal
  cases op with
  | finishSetup =>
    exact (Card.finishSetup_of hJ ((takes_perform _ fun f => .join _ f).orLog _)
      ((takes_perform _ fun f => .join _ f).orLog _)).bind fun _ => hJ.pure _
  | storeStatus status =>
    exact (hJ.within (TransmitStatus.takes_store status)).bind fun _ => hJ.pure _
  | putControl id value =>
    refine Takes.bind ?_ fun _ => hJ.pure _
    rcases Card.putControl_eq id value with ⟨e, -, h⟩ | ⟨f, h⟩ | ⟨status, h⟩
    · rw [h]
      exact fun _ _ he => nomatch he
    · rw [h]
      exact Card.selectLimits_of hJ f
    · rw [h]
      exact hJ.within (TransmitStatus.takes_store status)
  | changeBias domain current target =>
    refine (Card.changeBias_of hJ fun h => ?_).bind fun _ => hJ.pure _
    simp [clockTask?, h] at htask
  | biasChanged domain level =>
    refine (Card.biasChanged_of hJ fun h => ?_).bind fun _ => hJ.pure _
    simp [clockTask?, h] at htask
  | widgetPower widget event =>
    refine (Card.widgetPower_of hJ fun h => ?_).bind fun _ => hJ.pure _
    simp [clockTask?, h] at htask
  | setUpTransceiver => exact (hsetUp rfl).elim
  | loadStatus | getControl _ | readFlag _ | readRecoveredRate | readReceivedStatus =>
    exact (hread rfl).elim
  | openStream _ _ | controlInfo _ _ | selectMinRate _ | selectMaxRate _ | linkParams | board =>
    exact (hlocal rfl).elim
  | _ => cases htask

end Steps

end SoundCard
