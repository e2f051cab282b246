import SoundCard.Operation
import SoundCard.Proofs.Confined
import SoundCard.Proofs.Quiet

/-!
# The two sides of the card

Most operations concern either the clocks of the card or its mixer. The clock side has the board and
the clock domain, and makes any call but those on the transceiver's registers; the mixer side has
the rate limits and the transmitted status, and only accesses registers. On hardware that keeps the
two apart an operation is confined to its side (`Operation.confined_clock`,
`Operation.confined_mixer`).
-/

namespace SoundCard

open SoundCard.Action

def Call.register? : Call → Option UInt8
  | .transceiver c => c.register?
  | .codec _ | .bitClockRatio _ => none

namespace Device

variable {H υ ρ : Type}

/-- The part is touched by all but register accesses. -/
structure HasClockSide (dev : Device H) (side : Cut H υ ρ) : Prop where
  call : ∀ c : Call, c.register? = none → dev.Confines side c
  wait : dev.ConfinesWaits side

/-- The part is touched by register accesses. -/
def HasMixerSide (dev : Device H) (side : Cut H υ ρ) : Prop :=
  ∀ c : TransceiverCall, c.register?.isSome → dev.Confines side (.transceiver c)

end Device

variable {σ υ ρ υ' ρ' H : Type} {dev : Device H} {side : Cut H υ' ρ'}

namespace Card

/-- The clocks of the card, and its mixer as the rest. -/
def clockCut : Cut Card (Board × ClockDomain) (RateLimits × ChannelStatus) :=
  ⟨clockSide, fun c => (c.limits, c.status)⟩

/-- The mixer of the card, and its clocks as the rest. -/
def mixerCut : Cut Card (RateLimits × ChannelStatus) (Board × ClockDomain) :=
  ⟨clockCut.rest, clockCut.part⟩

theorem board_eq_of_clockCut {c c' : Card} (h : clockCut.part c = clockCut.part c') :
    c.board = c'.board :=
  congrArg Prod.fst h

theorem confined_onClock {α : Type} {x : Action ClockDomain α}
    (hx : Confined dev side Cut.whole x) : Confined dev side clockCut (onClock x) := by
  refine hx.within (fun c c' h => congrArg Prod.snd h) (fun s c c' h => ?_) fun _ _ => rfl
  simp only [clockCut, clockSide, board_eq_of_clockCut h]

end Card

theorem Clock.confined_giveUp (line : LogLine) (e : CardError) :
    Confined dev side Cut.whole (Clock.giveUp line e) :=
  (confined_log line).bind fun _ => (confined_update_whole _).bind fun _ => confined_ofExcept _

section Clock

variable (hdev : dev.HasClockSide side)
include hdev

theorem confined_codec {cut : Cut σ υ ρ} (step : CardStep) (c : CodecCall) :
    Confined dev side cut (codec step c) :=
  confined_perform (hdev.call _ rfl) step

namespace Clock

theorem confined_disablePaths : Confined dev side Cut.whole disablePaths :=
  (confined_codec hdev _ _).attempt.bind fun main =>
    (confined_codec hdev _ _).attempt.bind fun reference =>
      (confined_logFailure _ main).bind fun _ => (confined_logFailure _ reference).bind fun _ =>
        (confined_ofExcept main).bind fun _ => (confined_ofExcept reference).bind fun _ =>
          confined_update_whole _

theorem confined_lockToMaster (board : Board) (rate : Hz) :
    Confined dev side Cut.whole (lockToMaster board rate) := by
  refine (confined_codec hdev _ _).attempt.bind fun locked =>
    (confined_wait hdev.wait _).bind fun _ => ?_
  rcases locked with e | ⟨⟩
  · exact confined_giveUp _ e
  · exact (confined_log _).bind fun _ => confined_update_whole _

theorem confined_lockToRecovered (board : Board) (rate : Hz) :
    Confined dev side Cut.whole (lockToRecovered board rate) := by
  refine (confined_codec hdev _ _).attempt.bind fun primed => ?_
  rcases primed with e | ⟨⟩
  · exact confined_giveUp _ e
  · refine (confined_codec hdev _ _).attempt.bind fun locked =>
      (confined_wait hdev.wait _).bind fun _ => ?_
    rcases locked with e | ⟨⟩
    · exact confined_giveUp _ e
    · exact (confined_log _).bind fun _ => confined_update_whole _

theorem confined_followRate (board : Board) (rate : Hz) :
    Confined dev side Cut.whole (followRate board rate) := by
  refine confined_state_bind_whole fun s => ?_
  rcases s.fll with _ | current | current
  · exact confined_pure ()
  · refine confined_ite (confined_pure ()) ((confined_log _).bind fun _ => ?_)
    exact ((confined_disablePaths hdev).orLog _).bind fun _ =>
      (confined_lockToMaster hdev board rate).orLog _
  · exact confined_pure ()

theorem confined_raiseSyncPath (board : Board) :
    Confined dev side Cut.whole (raiseSyncPath board) := by
  refine confined_state_bind_whole fun s => (confined_log _).bind fun _ =>
    (confined_disablePaths hdev).attempt.bind fun cleared => ?_
  rcases cleared with e | ⟨⟩
  · exact confined_giveUp _ e
  · exact ((confined_lockToRecovered hdev board s.rate).orLog _).bind fun _ =>
      confined_update_whole _

theorem confined_start (board : Board) : Confined dev side Cut.whole (start board) := by
  refine confined_state_bind_whole fun s => confined_ite (confined_pure ())
    (confined_ite (confined_pure ()) ((confined_log _).bind fun _ => ?_))
  exact ((confined_disablePaths hdev).orLog _).bind fun _ =>
    (confined_lockToMaster hdev board s.rate).orLog _

theorem confined_stop : Confined dev side Cut.whole stop := by
  refine confined_state_bind_whole fun s => (confined_log _).bind fun _ =>
    (confined_disablePaths hdev).attempt.bind fun cleared => ?_
  rcases cleared with e | ⟨⟩
  · exact confined_giveUp _ e
  · exact confined_pure ()

theorem confined_dropStream (d : Direction) : Confined dev side Cut.whole (dropStream d) := by
  refine confined_state_bind_whole fun s => (confined_update_whole _).bind fun _ =>
    confined_ite (confined_pure ()) ((confined_log _).bind fun _ => ?_)
  exact (confined_codec hdev _ _).orLog _

end Clock

namespace Card

theorem confined_setUpCodec : Confined dev side clockCut setUpCodec :=
  (confined_codec hdev _ _).attempt.bind fun derived =>
    (confined_logFailure _ derived).bind fun _ =>
      (confined_onClock (Clock.confined_disablePaths hdev)).attempt.bind fun cleared =>
        (confined_logFailure _ cleared).bind fun _ => (confined_codec hdev _ _).orLog _

theorem confined_programPll {cut : Cut Card υ ρ}
    (hboard : ∀ c c', cut.part c = cut.part c' → c.board = c'.board) (rate : Hz) :
    Confined dev side cut (programPll rate) := by
  refine confined_state_bind (fun c c' h => ?_) fun c => ?_
  · rw [hboard c c' h]
  · exact ((confined_perform (hdev.call _ rfl) _).orLog _).bind fun _ =>
      (confined_perform (hdev.call _ rfl) _).orLog _

theorem confined_negotiate (d : Direction) (params : StreamParams) :
    Confined dev side clockCut (negotiate d params) := by
  refine confined_state_bind (fun c c' h => ?_) fun c => ?_
  · simp only [board_eq_of_clockCut h]
  have hfollow : Confined dev side clockCut (do
      Action.orLog (.codec .sysclk (.setSysclk (c.board.sysclk params.rate.hz)))
        (.sysclkFailed (c.board.sysclk params.rate.hz))
      onClock (Clock.followRate c.board params.rate.hz)
      onClock (Clock.recordStream d params.rate.hz)) :=
    ((confined_codec hdev _ _).orLog _).bind fun _ =>
      (confined_onClock (Clock.confined_followRate hdev _ _)).bind fun _ =>
        confined_onClock (confined_update_whole _)
  refine (confined_log _).bind fun _ => ((confined_perform (hdev.call _ rfl) _).orLog _).bind
    fun _ => ((confined_codec hdev _ _).orLog _).bind fun _ => ?_
  have hpll := confined_programPll hdev (fun _ _ => board_eq_of_clockCut) params.rate.hz
  exact confined_ite (hpll.bind fun _ => hfollow) hfollow

theorem confined_changeBias (domain : PowerDomain) (current target : BiasLevel) :
    Confined dev side clockCut (changeBias domain current target) := by
  refine confined_ite ((confined_log _).bind fun _ => confined_ite ?_ (confined_pure ()))
    (confined_pure ())
  refine confined_state_bind (fun c c' h => ?_) fun c => ?_
  · simp only [board_eq_of_clockCut h]
  · exact confined_onClock (Clock.confined_start hdev _)

theorem confined_biasChanged (domain : PowerDomain) (level : BiasLevel) :
    Confined dev side clockCut (biasChanged domain level) := by
  refine confined_ite ((confined_log _).bind fun _ => confined_ite ?_ (confined_pure ()))
    (confined_pure ())
  exact (confined_onClock (Clock.confined_stop hdev)).attempt.bind fun stopped =>
    confined_logFailure _ stopped

theorem confined_widgetPower (widget : String) (event : PowerEvent) :
    Confined dev side clockCut (widgetPower widget event) := by
  refine confined_ite ?_ (confined_pure ())
  cases event with
  | beforeUp | beforeDown => exact confined_pure ()
  | afterUp =>
    refine confined_state_bind (fun c c' h => ?_) fun c => ?_
    · simp only [board_eq_of_clockCut h]
    · exact (confined_onClock (Clock.confined_raiseSyncPath hdev _)).attempt.bind fun raised =>
        confined_logFailure _ raised
  | afterDown =>
    exact (confined_log _).bind fun _ => confined_onClock (confined_update_whole _)

end Card

end Clock

section Registers

variable {cut : Cut σ υ ρ}
  (hread : ∀ register, dev.Confines side (.transceiver (.readRegister register)))
include hread

theorem confined_readStatus (first : UInt8) : Confined dev side cut (readStatus first) :=
  (confined_perform (hread _) _).bind fun _ => (confined_perform (hread _) _).bind fun _ =>
    (confined_perform (hread _) _).bind fun _ => (confined_perform (hread _) _).bind fun _ =>
      confined_pure _

theorem ReceiverFlag.confined_read (flag : ReceiverFlag) : Confined dev side cut flag.read :=
  (confined_perform (hread _) _).bind fun _ => confined_pure _

theorem RecoveredRate.confined_read : Confined dev side cut RecoveredRate.read :=
  (confined_perform (hread _) _).bind fun _ => confined_pure _

end Registers

/-- The part of the card shows the settings of its mixer, and takes in the rate limits. -/
structure Card.HoldsLimits (cut : Cut Card υ ρ) : Prop where
  limits : ∀ c c', cut.part c = cut.part c' → c.limits = c'.limits
  status : ∀ c c', cut.part c = cut.part c' → c.status = c'.status
  update : ∀ l c c', cut.part c = cut.part c' →
    cut.part { c with limits := l } = cut.part { c' with limits := l }
  rest : ∀ l c, cut.rest { c with limits := l } = cut.rest c

section Settings

variable {cut : Cut Card υ ρ} (hcut : Card.HoldsLimits cut)
include hcut

namespace Card

theorem confined_selectLimits (f : RateLimits → RateLimits) :
    Confined dev side cut (selectLimits f) := by
  refine confined_state_bind (fun c c' h => ?_) fun c => ?_
  · simp only [hcut.limits c c' h]
  · refine (confined_update (fun t t' h => ?_) fun t => hcut.rest _ t).bind fun _ => confined_pure _
    simp only [hcut.limits t t' h]
    exact hcut.update _ t t' h

theorem confined_openStream (d : Direction) (constraint : RateConstraint) :
    Confined dev side cut (openStream d constraint) := by
  refine confined_state_bind (fun c c' h => ?_) fun c => ?_
  · simp only [hcut.limits c c' h]
  · split
    · exact (confined_log _).bind fun _ => confined_pure _
    · exact confined_pure _

theorem confined_getControl
    (hread : ∀ register, dev.Confines side (.transceiver (.readRegister register)))
    (id : Control) : Confined dev side cut (getControl id) := by
  refine confined_state_bind (fun c c' h => ?_) fun c => ?_
  · simp only [hcut.limits c c' h, hcut.status c c' h]
  · cases id with
    | minRate | maxRate | playbackStatus | playbackMask => exact confined_pure _
    | captureStatus => exact (confined_readStatus hread _).bind fun _ => confined_pure _
    | recoveredRate => exact (RecoveredRate.confined_read hread).bind fun _ => confined_pure _
    | flag f => exact (f.confined_read hread).bind fun _ => confined_pure _

end Card

end Settings

section Mixer

variable (hdev : dev.HasMixerSide side)
include hdev

namespace TransmitStatus

theorem confined_load : Confined dev side Cut.whole load :=
  (confined_readStatus (fun _ => hdev _ rfl) _).bind fun _ => confined_update_whole _

theorem confined_storeAt (status : ChannelStatus) :
    ∀ places, Confined dev side Cut.whole (storeAt status places)
  | [] => confined_pure _
  | _ :: rest => confined_state_bind_whole fun _ => confined_ite (confined_storeAt status rest)
      (((confined_perform (hdev _ rfl) _).orLog _).bind fun _ =>
        (confined_update_whole _).bind fun _ =>
          (confined_storeAt status rest).bind fun _ => confined_pure _)

end TransmitStatus

namespace Card

omit hdev in
theorem holdsLimits_mixerCut : HoldsLimits mixerCut where
  limits _ _ h := congrArg Prod.fst h
  status _ _ h := congrArg Prod.snd h
  update l _ _ h := congrArg (l, ·) (congrArg Prod.snd h)
  rest _ _ := rfl

omit hdev in
theorem confined_onStatus {α : Type} {x : Action ChannelStatus α}
    (hx : Confined dev side Cut.whole x) : Confined dev side mixerCut (onStatus x) := by
  refine hx.within (fun c c' h => congrArg Prod.snd h) (fun s c c' h => ?_) fun _ _ => rfl
  exact congrArg (·, s) (congrArg Prod.fst h)

theorem confined_putControl (id : Control) (value : ControlValue) :
    Confined dev side mixerCut (putControl id value) := by
  refine confined_ite ?_ (confined_ofExcept _)
  split
  · exact confined_selectLimits holdsLimits_mixerCut _
  · exact confined_selectLimits holdsLimits_mixerCut _
  · exact confined_onStatus (TransmitStatus.confined_storeAt hdev _ _)
  · exact confined_ofExcept _

end Card

end Mixer

inductive Side
  | clock
  | mixer
  deriving DecidableEq

namespace Operation

/-- The side an operation is on, if it is on one only. Setting up the link to the transceiver
touches both, and so does the end of the setup, which reports the status beside it. -/
def side? : Operation → Option Side
  | .setUpCodec | .negotiate _ _ | .freeStream _ | .changeBias _ _ _ | .biasChanged _ _
  | .widgetPower _ _ | .startClock | .stopClock | .raiseSyncPath | .lowerSyncPath | .dropStream _
  | .linkParams | .board => some .clock
  | .openStream _ _ | .controlInfo _ _ | .getControl _ | .putControl _ _ | .selectMinRate _
  | .selectMaxRate _ | .loadStatus | .storeStatus _ | .readFlag _ | .readRecoveredRate
  | .readReceivedStatus => some .mixer
  | .setUpTransceiver | .finishSetup => none

variable {op : Operation}

theorem confined_clock (hdev : dev.HasClockSide side) (h : op.side? = some .clock) :
    Confined dev side Card.clockCut op.perform := by
  cases op with
  | setUpCodec => exact (Card.confined_setUpCodec hdev).bind fun _ => confined_pure _
  | negotiate d params =>
    exact (Card.confined_negotiate hdev d params).bind fun _ => confined_pure _
  | freeStream d =>
    exact ((confined_log _).bind fun _ => Card.confined_onClock
      (Clock.confined_dropStream hdev d)).bind fun _ => confined_pure _
  | changeBias domain current target =>
    exact (Card.confined_changeBias hdev domain current target).bind fun _ => confined_pure _
  | biasChanged domain level =>
    exact (Card.confined_biasChanged hdev domain level).bind fun _ => confined_pure _
  | widgetPower widget event =>
    exact (Card.confined_widgetPower hdev widget event).bind fun _ => confined_pure _
  | startClock =>
    refine confined_state_bind (fun c c' h => ?_) fun c => ?_
    · simp only [Card.board_eq_of_clockCut h]
    · exact (Card.confined_onClock (Clock.confined_start hdev _)).bind fun _ => confined_pure _
  | raiseSyncPath =>
    refine confined_state_bind (fun c c' h => ?_) fun c => ?_
    · simp only [Card.board_eq_of_clockCut h]
    · exact (Card.confined_onClock (Clock.confined_raiseSyncPath hdev _)).bind fun _ =>
        confined_pure _
  | stopClock =>
    exact (Card.confined_onClock (Clock.confined_stop hdev)).bind fun _ => confined_pure _
  | lowerSyncPath =>
    exact (Card.confined_onClock (confined_update_whole _)).bind fun _ => confined_pure _
  | dropStream d =>
    exact (Card.confined_onClock (Clock.confined_dropStream hdev d)).bind fun _ => confined_pure _
  | linkParams =>
    refine confined_state_bind (fun c c' h => ?_) fun c => confined_pure _
    have hclock : c.clock = c'.clock := congrArg Prod.snd h
    simp only [Card.linkParams, hclock]
  | board =>
    refine confined_state_bind (fun c c' h => ?_) fun c => confined_pure _
    simp only [Card.board_eq_of_clockCut h]
  | _ => cases h

theorem confined_mixer (hdev : dev.HasMixerSide side) (h : op.side? = some .mixer) :
    Confined dev side Card.mixerCut op.perform := by
  have hread : ∀ register, dev.Confines side (.transceiver (.readRegister register)) :=
    fun _ => hdev _ rfl
  cases op with
  | openStream d constraint =>
    exact (Card.confined_openStream Card.holdsLimits_mixerCut d constraint).bind fun _ =>
      confined_pure _
  | controlInfo id item => exact confined_pure _
  | getControl id =>
    exact (Card.confined_getControl Card.holdsLimits_mixerCut hread id).bind fun _ =>
      confined_pure _
  | putControl id value =>
    exact (Card.confined_putControl hdev id value).bind fun _ => confined_pure _
  | selectMinRate item | selectMaxRate item =>
    exact (Card.confined_selectLimits Card.holdsLimits_mixerCut _).bind fun _ => confined_pure _
  | loadStatus =>
    exact (Card.confined_onStatus (TransmitStatus.confined_load hdev)).bind fun _ => confined_pure _
  | storeStatus status =>
    exact (Card.confined_onStatus (TransmitStatus.confined_storeAt hdev status _)).bind fun _ =>
      confined_pure _
  | readFlag flag => exact (flag.confined_read hread).bind fun _ => confined_pure _
  | readRecoveredRate => exact (RecoveredRate.confined_read hread).bind fun _ => confined_pure _
  | readReceivedStatus => exact (confined_readStatus hread _).bind fun _ => confined_pure _
  | _ => cases h

end Operation

end SoundCard
