import SoundCard.Hardware.Failure

/-!
# Errors of the card

A hardware failure is reported with the step of the card's work that met it.
-/

namespace SoundCard

/-- What the card was doing when it issued a call. -/
inductive CardStep
  | clearMain
  | clearReference
  | lockMaster
  | primeReference
  | lockRecovered
  | bitClockRatio
  | tdmSlots
  | transceiverPll
  | transmitClock
  | sysclk
  | gateSysclk
  | clock32k
  | mclkDivider
  | clkout
  | aif1Domain
  | aif2Domain
  | readStatus
  | writeStatus
  deriving DecidableEq

def CardStep.text : CardStep → String
  | .clearMain => "clear FLL1"
  | .clearReference => "clear FLL1 REFCLK"
  | .lockMaster => "set FLL1 from MCLK1"
  | .primeReference => "set FLL1 REFCLK from MCLK1"
  | .lockRecovered => "set FLL1 from AIF2BCLK"
  | .bitClockRatio => "set bclk ratio"
  | .tdmSlots => "set TDM slots"
  | .transceiverPll => "set WM8804 PLL"
  | .transmitClock => "set WM8804 TX clock"
  | .sysclk => "set SYSCLK"
  | .gateSysclk => "set SYSCLK to zero"
  | .clock32k => "set 32k clock source"
  | .mclkDivider => "set WM8804 MCLK divider"
  | .clkout => "set WM8804 CLKOUT"
  | .aif1Domain => "set AIF1 clock domain"
  | .aif2Domain => "set AIF2 clock domain"
  | .readStatus => "read WM8804 register"
  | .writeStatus => "write WM8804 channel status"

inductive CardError
  | hardware (step : CardStep) (failure : Failure)
  /-- No processor interface was given. -/
  | missingInterface
  | readOnly
  /-- The value is not of the control's kind. -/
  | invalidValue
  deriving DecidableEq

def CardError.message : CardError → String
  | .hardware step failure => s!"{step.text} failed: {failure.message}"
  | .missingInterface => "i2s-controller binding missing"
  | .readOnly => "control is read-only"
  | .invalidValue => "value does not match control kind"

end SoundCard
