import SoundCard.Card.Mixer
import SoundCard.Card.Negotiation
import SoundCard.Card.PowerChanges

/-!
# Operations

Everything that can be asked of an attached card, as data, so that a history of a card is a list of
operations. `Operation.perform` says what each does.
-/

namespace SoundCard

inductive Operation
  | setUpCodec
  | setUpTransceiver
  | finishSetup
  | openStream (direction : Direction) (constraint : RateConstraint)
  | negotiate (direction : Direction) (params : StreamParams)
  | freeStream (direction : Direction)
  | changeBias (domain : PowerDomain) (current target : BiasLevel)
  | biasChanged (domain : PowerDomain) (level : BiasLevel)
  | widgetPower (widget : String) (event : PowerEvent)
  | startClock
  | stopClock
  | raiseSyncPath
  | lowerSyncPath
  | dropStream (direction : Direction)
  | controlInfo (id : Control) (item : Nat)
  | getControl (id : Control)
  | putControl (id : Control) (value : ControlValue)
  | selectMinRate (item : Nat)
  | selectMaxRate (item : Nat)
  | loadStatus
  | storeStatus (status : ChannelStatus)
  | readFlag (flag : ReceiverFlag)
  | readRecoveredRate
  | readReceivedStatus
  | linkParams
  | board
  deriving DecidableEq

/-- What an operation answers. -/
inductive Answer
  | unit
  | changed (changed : Bool)
  | constraint (constraint : RateConstraint)
  | controlInfo (info : ControlDescription)
  | control (value : ControlValue)
  | flag (on : Bool)
  | recoveredRate (rate : RecoveredRate)
  | status (status : ChannelStatus)
  | linkParams (params : Option StreamParams)
  | board (board : Board)
  deriving DecidableEq

namespace Operation

open Card

def perform : Operation → Action Card Answer
  | .setUpCodec => do Card.setUpCodec; return .unit
  | .setUpTransceiver => do Card.setUpTransceiver; return .unit
  | .finishSetup => do Card.finishSetup; return .unit
  | .openStream d c => return .constraint (← Card.openStream d c)
  | .negotiate d p => do Card.negotiate d p; return .unit
  | .freeStream d => do Card.freeStream d; return .unit
  | .changeBias d a b => do Card.changeBias d a b; return .unit
  | .biasChanged d a => do Card.biasChanged d a; return .unit
  | .widgetPower w e => do Card.widgetPower w e; return .unit
  | .startClock => do onClock (Clock.start (← .state).board); return .unit
  | .stopClock => do onClock Clock.stop; return .unit
  | .raiseSyncPath => do onClock (Clock.raiseSyncPath (← .state).board); return .unit
  | .lowerSyncPath => do onClock Clock.lowerSyncPath; return .unit
  | .dropStream d => do onClock (Clock.dropStream d); return .unit
  | .controlInfo id item => return .controlInfo (id.info item)
  | .getControl id => return .control (← Card.getControl id)
  | .putControl id v => return .changed (← Card.putControl id v)
  | .selectMinRate i => return .changed (← selectLimits (·.selectMin i))
  | .selectMaxRate i => return .changed (← selectLimits (·.selectMax i))
  | .loadStatus => do onStatus TransmitStatus.load; return .unit
  | .storeStatus s => return .changed (← onStatus (TransmitStatus.store s))
  | .readFlag f => return .flag (← f.read)
  | .readRecoveredRate => return .recoveredRate (← RecoveredRate.read)
  | .readReceivedStatus => return .status (← ChannelStatus.readReceived)
  | .linkParams => return .linkParams (← .state).linkParams
  | .board => return .board (← .state).board

end Operation

end SoundCard
