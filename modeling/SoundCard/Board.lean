import SoundCard.Hardware.Codec
import SoundCard.Hardware.Transceiver

/-!
# The board

What a variant of the board may change. The oscillator of the transceiver feeds the codec's MCLK1;
FLL1 makes SYSCLK from it, or from the bit clock recovered from the S/PDIF input:

    oscillator → CLKOUT → MCLK1 → FLL1 → SYSCLK
    S/PDIF in → transceiver → AIF2 bit clock → FLL1 → SYSCLK

Rates fall into two families, those that 4000 Hz divides and the others, and each family has one
SYSCLK (`Board.sysclk`).
-/

namespace SoundCard

structure Board where
  /-- What feeds MCLK1. -/
  masterClock : Hz := Transceiver.clkoutHz
  /-- The rate assumed until a stream has negotiated one. -/
  defaultRate : Hz := 44100
  /-- Microseconds FLL1 is given to lock. -/
  settleTime : UInt32 := 1500
  sysclk4k : Hz := Codec.maxSysclk4k
  sysclk11k : Hz := Codec.maxSysclk11k
  deriving DecidableEq

namespace Board

/-- The SYSCLK, and output of FLL1, for a rate. -/
def sysclk (b : Board) (rate : Hz) : Hz := if rate % 4000 = 0 then b.sysclk4k else b.sysclk11k

theorem sysclk_default (rate : Hz) : sysclk {} rate = Codec.maxSysclk rate := rfl

/-- Bit clocks in a frame on the second interface: two slots of 32 bits. -/
def aif2BitClockRatio : UInt32 := 64

/-- Both slots of the first interface are in use. -/
def slotMask : UInt32 := 3

def slots : UInt32 := 2

end Board

end SoundCard
