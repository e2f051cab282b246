import SoundCard.Hardware.Call

/-!
# Written calls

Every call has one written form: its name and its arguments, separated by single spaces, with
numbers in decimal digits. `CodecCall.ofText?` and `TransceiverCall.ofText?` read that form.
-/

namespace SoundCard

namespace CallText

/-- A number below `size` in decimal digits. -/
def number? (size : Nat) (word : String) : Option Nat :=
  if !word.isEmpty && word.all Char.isDigit then word.toNat?.filter (· < size) else none

def word32? (word : String) : Option UInt32 := (number? UInt32.size word).map UInt32.ofNat

def byte? (word : String) : Option UInt8 := (number? UInt8.size word).map UInt8.ofNat

def path : FllPath → String
  | .main => "fll1"
  | .reference => "fll1_refclk"

def input : Option FllInput → String
  | none => "none"
  | some .mclk1 => "mclk1"
  | some .aif2BitClock => "aif2_bclk"

def interface : AudioInterface → String
  | .aif1 => "aif1"
  | .aif2 => "aif2"

def clock : TransceiverClock → String
  | .transmitPll => "tx_pll"
  | .clkoutOscillator => "clkout_osc"

def path? : String → Option FllPath
  | "fll1" => some .main
  | "fll1_refclk" => some .reference
  | _ => none

def input? : String → Option (Option FllInput)
  | "none" => some none
  | "mclk1" => some (some .mclk1)
  | "aif2_bclk" => some (some .aif2BitClock)
  | _ => none

def interface? : String → Option AudioInterface
  | "aif1" => some .aif1
  | "aif2" => some .aif2
  | _ => none

def clock? : String → Option TransceiverClock
  | "tx_pll" => some .transmitPll
  | "clkout_osc" => some .clkoutOscillator
  | _ => none

end CallText

open CallText

def CodecCall.text : CodecCall → String
  | .setFll p i fref fout => s!"set_pll {path p} {input i} {fref} {fout}"
  | .setSysclk hz => s!"set_sysclk sysclk fll1 {hz} in"
  | .updateBits register mask value => s!"update_bits {register} {mask} {value}"
  | .setTdmSlots tx rx slots width => s!"set_tdm_slot {tx} {rx} {slots} {width}"
  | .joinSysclk p => s!"set_dai_sysclk {interface p} sysclk"

def CodecCall.ofText? (text : String) : Option CodecCall :=
  match text.splitOn " " with
  | ["set_pll", p, i, fref, fout] =>
    return .setFll (← path? p) (← input? i) (← word32? fref) (← word32? fout)
  | ["set_sysclk", "sysclk", "fll1", hz, "in"] => return .setSysclk (← word32? hz)
  | ["update_bits", register, mask, value] =>
    return .updateBits (← word32? register) (← word32? mask) (← word32? value)
  | ["set_tdm_slot", tx, rx, slots, width] =>
    return .setTdmSlots (← word32? tx) (← word32? rx) (← word32? slots) (← word32? width)
  | ["set_dai_sysclk", p, "sysclk"] => return .joinSysclk (← interface? p)
  | _ => none

def TransceiverCall.text : TransceiverCall → String
  | .readRegister register => s!"read_register {register}"
  | .updateBits register mask value => s!"update_bits {register} {mask} {value}"
  | .setPll fref fout => s!"set_pll {fref} {fout}"
  | .setClock source hz => s!"set_sysclk {clock source} {hz}"
  | .setMclkDivider value => s!"set_clkdiv mclk {value}"

def TransceiverCall.ofText? (text : String) : Option TransceiverCall :=
  match text.splitOn " " with
  | ["read_register", register] => return .readRegister (← byte? register)
  | ["update_bits", register, mask, value] =>
    return .updateBits (← byte? register) (← byte? mask) (← byte? value)
  | ["set_pll", fref, fout] => return .setPll (← word32? fref) (← word32? fout)
  | ["set_sysclk", source, hz] => return .setClock (← clock? source) (← word32? hz)
  | ["set_clkdiv", "mclk", value] => return .setMclkDivider (← byte? value)
  | _ => none

/-- The written form of a call, with the component it goes to in front. -/
def Call.text : Call → String
  | .codec c => s!"codec {c.text}"
  | .transceiver c => s!"xcvr {c.text}"
  | .bitClockRatio ratio => s!"cpu set_bclk_ratio {ratio}"

end SoundCard
