import SoundCard.Card
import SoundCard.ReceivedStatus

/-!
# Mixer controls

The controls the card shows to the user. Two select the rate limits and one sets the transmitted
channel status; the rest can only be read. A volatile control reads the transceiver each time.
-/

namespace SoundCard

inductive Control
  | minRate
  | maxRate
  | playbackStatus
  | captureStatus
  | playbackMask
  | recoveredRate
  | flag (flag : ReceiverFlag)
  deriving DecidableEq

/-- The shape of a control's value. -/
inductive ValueShape
  | enumerated (items : Nat)
  | status
  | boolean
  deriving DecidableEq

inductive Access
  | readWrite
  | readOnly
  /-- The value may change at any time. -/
  | volatile
  deriving DecidableEq

namespace Control

/-- Every control, in the order they are registered. -/
def all : List Control :=
  [minRate, maxRate, playbackStatus, captureStatus, playbackMask, recoveredRate] ++
    ReceiverFlag.all.map flag

def name : Control → String
  | minRate => "Min Sample Rate"
  | maxRate => "Max Sample Rate"
  | playbackStatus => "IEC958 Playback Default"
  | captureStatus => "IEC958 Capture Default"
  | playbackMask => "IEC958 Playback Mask"
  | recoveredRate => "IEC958 Capture Recovered Frequency"
  | flag f => s!"IEC958 Capture {f.label} Flag"

def ofName? (name : String) : Option Control := all.find? (·.name == name)

def kind : Control → ValueShape
  | minRate => .enumerated RateMenu.lowest.size
  | maxRate => .enumerated RateMenu.highest.size
  | recoveredRate => .enumerated RecoveredRate.all.length
  | playbackStatus | captureStatus | playbackMask => .status
  | flag _ => .boolean

def access : Control → Access
  | minRate | maxRate | playbackStatus => .readWrite
  | playbackMask => .readOnly
  | captureStatus | recoveredRate | flag _ => .volatile

def isWritable (id : Control) : Bool := id.access == .readWrite

def isVolatile (id : Control) : Bool := id.access == .volatile

/-- The text of an item, or of the last one where the index is past them; only enumerated controls
have items. -/
def itemText? (id : Control) (item : Nat) : Option String :=
  match id with
  | minRate => some (RateMenu.lowest.select item).name
  | maxRate => some (RateMenu.highest.select item).name
  | recoveredRate => some (RecoveredRate.select item).name
  | playbackStatus | captureStatus | playbackMask | flag _ => none

end Control

/-- The description of a control. -/
structure ControlDescription where
  kind : ValueShape
  /-- How many values it has. -/
  count : Nat
  itemText : Option String
  volatile : Bool
  deriving DecidableEq

def Control.info (id : Control) (item : Nat) : ControlDescription where
  kind := id.kind
  count := 1
  itemText := id.itemText? item
  volatile := id.isVolatile

inductive ControlValue
  | enumerated (item : Nat)
  | status (status : ChannelStatus)
  | boolean (on : Bool)
  deriving DecidableEq

namespace Card

/-- Replaces the rate limits; whether that changed them. -/
def selectLimits (f : RateLimits → RateLimits) : Action Card Bool := do
  let card ← .state
  .update fun c => { c with limits := f c.limits }
  return f card.limits != card.limits

def getControl (id : Control) : Action Card ControlValue := do
  let card ← .state
  match id with
  | .minRate => return .enumerated card.limits.min
  | .maxRate => return .enumerated card.limits.max
  | .playbackStatus => return .status card.status
  | .captureStatus => return .status (← ChannelStatus.readReceived)
  | .playbackMask => return .status ChannelStatus.mask
  | .recoveredRate => return .enumerated (← RecoveredRate.read).index
  | .flag f => return .boolean (← f.read)

/-- Whether the control changed. A control that cannot be written is refused before its value is
looked at. -/
def putControl (id : Control) (value : ControlValue) : Action Card Bool :=
  if id.isWritable then
    match id, value with
    | .minRate, .enumerated item => selectLimits (·.selectMin item)
    | .maxRate, .enumerated item => selectLimits (·.selectMax item)
    | .playbackStatus, .status status => onStatus (TransmitStatus.store status)
    | _, _ => .fail .invalidValue
  else .fail .readOnly

end Card

end SoundCard
