import SoundCard.Rate

/-!
# The primary codec

The WM5102 clocks the card. Its first frequency-locked loop, FLL1, has a main and a reference
path, each fed by one input or by none; SYSCLK is derived from FLL1.

`CodecClocks` is what the codec's clocks are set to and `CodecClocks.accept` what an accepted call
does to them, so `CodecClocks.acceptAll` replays a list of accepted calls from any starting point.
-/

namespace SoundCard

/-- The two paths of FLL1. -/
inductive FllPath
  | main
  | reference
  deriving DecidableEq

/-- What can feed a path of FLL1. -/
inductive FllInput
  /-- The master clock of the board. -/
  | mclk1
  /-- The bit clock of the second interface, recovered from the S/PDIF input. -/
  | aif2BitClock
  deriving DecidableEq

/-- The audio interfaces with a clock domain of their own. -/
inductive AudioInterface
  | aif1
  | aif2
  deriving DecidableEq

/-- A request to the codec. -/
inductive CodecCall
  /-- Feeds a path from `input` at `fref` to give `fout`; no input disables the path. -/
  | setFll (path : FllPath) (input : Option FllInput) (fref fout : Hz)
  /-- Sets SYSCLK, taken from FLL1; zero gates it. -/
  | setSysclk (hz : Hz)
  | updateBits (register mask value : UInt32)
  | setTdmSlots (transmitMask receiveMask slots width : UInt32)
  /-- Puts an interface into the SYSCLK domain. -/
  | joinSysclk (interface : AudioInterface)
  deriving DecidableEq

namespace CodecCall

/-- The call that disables a path of FLL1. -/
def disable (path : FllPath) : CodecCall := .setFll path none 0 0

/-- The call that gates SYSCLK. -/
def gateSysclk : CodecCall := .setSysclk 0

end CodecCall

/-- What a path of FLL1 runs from, and at which output frequency. -/
structure FllLock where
  input : FllInput
  hz : Hz
  deriving DecidableEq

/-- The two paths of FLL1, where `none` is a disabled path, and SYSCLK, where zero is a gated
clock. -/
structure CodecClocks where
  main : Option FllLock := none
  reference : Option FllLock := none
  sysclk : Hz := 0
  deriving DecidableEq

namespace CodecClocks

/-- The clocks after an accepted call. -/
def accept (c : CodecClocks) : CodecCall → CodecClocks
  | .setFll .main input _ fout => { c with main := input.map (⟨·, fout⟩) }
  | .setFll .reference input _ fout => { c with reference := input.map (⟨·, fout⟩) }
  | .setSysclk hz => { c with sysclk := hz }
  | .updateBits _ _ _ | .setTdmSlots _ _ _ _ | .joinSysclk _ => c

/-- The clocks after a list of accepted calls, the first one first. -/
def acceptAll (c : CodecClocks) (calls : List CodecCall) : CodecClocks := calls.foldl accept c

end CodecClocks

namespace Codec

/-- The register that selects the source of the 32 kHz clock. -/
def clock32kRegister : UInt32 := 0x100

def clock32kSourceMask : UInt32 := 0x3

/-- Derives the 32 kHz clock from SYSCLK. -/
def clock32kFromSysclk : UInt32 := 0x2

/-- The highest SYSCLK for rates that 4000 Hz divides. -/
def maxSysclk4k : Hz := 49152000

/-- The highest SYSCLK for the other rates. -/
def maxSysclk11k : Hz := 45158400

/-- The highest SYSCLK of a rate's family. -/
def maxSysclk (rate : Hz) : Hz := if rate % 4000 = 0 then maxSysclk4k else maxSysclk11k

end Codec

end SoundCard
