import SoundCard.Board
import SoundCard.Stream

/-!
# The clock domain

What the card believes of its clocks: what FLL1 is locked to, which rate was negotiated last, and
whether the S/PDIF receive path is up.
-/

namespace SoundCard

/-- What FLL1 is locked to, with its output frequency. -/
inductive FllMode
  | off
  /-- Locked to the master clock of the board. -/
  | master (hz : Hz)
  /-- Locked to the bit clock recovered from the S/PDIF input. -/
  | recovered (hz : Hz)
  deriving DecidableEq

namespace FllMode

def hz? : FllMode → Option Hz
  | .off => none
  | .master hz | .recovered hz => some hz

def isMaster : FllMode → Bool
  | .master _ => true
  | .off | .recovered _ => false

def label : FllMode → String
  | .off => "off"
  | .master _ => "local"
  | .recovered _ => "referenced"

/-- The lock of the main path that the mode stands for. -/
def lock? : FllMode → Option FllLock
  | .off => none
  | .master hz => some ⟨.mclk1, hz⟩
  | .recovered hz => some ⟨.aif2BitClock, hz⟩

end FllMode

structure ClockDomain where
  /-- The rate negotiated last. -/
  rate : Hz
  /-- The rate of the link between the codec and the transceiver. -/
  linkRate : Hz
  /-- The S/PDIF receive path is powered and routed to the codec. -/
  syncPath : Bool
  fll : FllMode
  /-- The directions that hold parameters. -/
  streams : ActiveStreams
  deriving DecidableEq

/-- The clock domain of a card that was just attached. -/
def ClockDomain.initial (board : Board) : ClockDomain where
  rate := board.defaultRate
  linkRate := board.defaultRate
  syncPath := false
  fll := .off
  streams := ∅

end SoundCard
