import SoundCard.ChannelStatus
import SoundCard.Clock
import SoundCard.Power

/-!
# Log lines

Every line the card logs, with its level and its wording. A warning or an error is logged where a
call failed; the other levels follow what the card does.
-/

namespace SoundCard

inductive LogLevel
  | trace
  | debug
  | info
  | warn
  | error
  deriving DecidableEq

def LogLevel.label : LogLevel → String
  | .trace => "TRACE"
  | .debug => "DEBUG"
  | .info => "INFO"
  | .warn => "WARN"
  | .error => "ERROR"

inductive LogLine
  -- attaching and detaching
  | interfaceMissing
  | attaching (board : Board)
  | detaching
  -- setting up the links
  | clock32kFailed
  | setupClearFailed
  | setupGateFailed
  | statusLoadFailed
  | mclkDividerFailed
  | clkoutFailed
  | setupPllFailed (rate : Hz)
  | statusBytes (status : ChannelStatus)
  | aif1DomainFailed
  | aif2DomainFailed
  -- the transceiver's PLL
  | transceiverPllFailed (mclk : Hz)
  | transmitClockFailed
  -- opening and negotiating streams
  | opening (direction : Direction) (range : RateRange)
  | negotiating (direction : Direction) (params : StreamParams) (sysclk : Hz)
  | bitClockRatioFailed
  | tdmSlotsFailed
  | sysclkFailed (sysclk : Hz)
  | following (current sysclk : Hz)
  | followClearFailed
  | followLockFailed
  -- releasing streams
  | freeing (direction : Direction)
  | gating
  | gateFailed
  -- FLL1
  | mainClearFailed
  | referenceClearFailed
  | masterLocked (sysclk : Hz)
  | masterLockFailed (sysclk : Hz)
  | primeFailed (sysclk : Hz)
  | recoveredLocked (bitClock sysclk : Hz)
  | recoveredLockFailed (bitClock sysclk : Hz)
  -- the S/PDIF receive path
  | syncRising (sysclk bitClock : Hz)
  | syncClearFailed
  | syncLockFailed
  | syncUnlocked
  | syncFalling
  -- bias levels
  | biasChanging (current target : BiasLevel)
  | biasChanged (level : BiasLevel)
  | starting (mode : FllMode) (sysclk : Hz)
  | startClearFailed
  | startLockFailed
  | stopping (mode : FllMode)
  | stopClearFailed
  | stopUnacknowledged
  -- the transmitted channel status
  | statusWriteFailed (register : UInt8)
  deriving DecidableEq

namespace LogLine

def level : LogLine → LogLevel
  | .opening _ _ | .freeing _ | .biasChanging _ _ | .biasChanged _ => .trace
  | .statusBytes _ | .negotiating _ _ _ | .following _ _ | .gating | .masterLocked _
  | .recoveredLocked _ _ | .syncRising _ _ | .syncFalling | .starting _ _ | .stopping _ => .debug
  | .attaching _ | .detaching => .info
  | .clock32kFailed | .setupClearFailed | .statusLoadFailed | .mainClearFailed
  | .referenceClearFailed | .syncUnlocked | .stopUnacknowledged => .warn
  | .interfaceMissing | .setupGateFailed | .mclkDividerFailed | .clkoutFailed | .setupPllFailed _
  | .aif1DomainFailed | .aif2DomainFailed | .transceiverPllFailed _ | .transmitClockFailed
  | .bitClockRatioFailed | .tdmSlotsFailed | .sysclkFailed _ | .followClearFailed
  | .followLockFailed | .gateFailed | .masterLockFailed _ | .primeFailed _
  | .recoveredLockFailed _ _ | .syncClearFailed | .syncLockFailed | .startClearFailed
  | .startLockFailed | .stopClearFailed | .statusWriteFailed _ => .error

/-- The line reports that something went wrong. -/
def IsAlarm (l : LogLine) : Prop := l.level = .warn ∨ l.level = .error

instance (l : LogLine) : Decidable l.IsAlarm :=
  inferInstanceAs (Decidable (l.level = .warn ∨ l.level = .error))

def text : LogLine → String
  | .interfaceMissing => "i2s-controller missing"
  | .attaching b => s!"attaching card: mclk {b.masterClock} Hz, default rate {b.defaultRate} Hz"
  | .detaching => "detaching card"
  | .clock32kFailed => "init_wm5102: failed to set 32k clock source"
  | .setupClearFailed => "init_wm5102: failed to clear FLLs"
  | .setupGateFailed => "Failed to set SYSCLK to Zero"
  | .statusLoadFailed => "init_wm8804: failed to read channel status"
  | .mclkDividerFailed => "init_wm8804: Failed to set MCLK_DIV to 256fs"
  | .clkoutFailed => "init_wm8804: Failed to set CLKOUT as OSC Frequency"
  | .setupPllFailed rate => s!"init_wm8804: Failed to setup PLL for {rate}Hz"
  | .statusBytes s => s!"iec958_bits: {s.byte 0} {s.byte 1} {s.byte 2} {s.byte 3}"
  | .aif1DomainFailed => "Failed to set WM5102 codec dai clk domain"
  | .aif2DomainFailed => "Failed to set WM8804 codec dai clk domain"
  | .transceiverPllFailed mclk => s!"Failed to set WM8804 PLL to {mclk}"
  | .transmitClockFailed => "Failed to set MCLK as PLL Output"
  | .opening d w => s!"startup {d.label}: rate {w.min}..={w.max}"
  | .negotiating d p sysclk =>
    s!"hw_params {d.label}: rate {p.rate.hz} width {p.width.bits} sysclk {sysclk}"
  | .bitClockRatioFailed => "hw_params: failed to set bclk ratio"
  | .tdmSlotsFailed => "hw_params: failed to set TDM slots"
  | .sysclkFailed sysclk => s!"Failed to set WM5102 SYSCLK to {sysclk}"
  | .following current sysclk => s!"hw_params: changing FLL1 from {current} to {sysclk}"
  | .followClearFailed => "hw_params: failed to clear FLLs"
  | .followLockFailed => "hw_params: failed to set FLL"
  | .freeing d => s!"hw_free {d.label}"
  | .gating => "hw_free: Setting SYSCLK to Zero"
  | .gateFailed => "hw_free: Failed to set SYSCLK to Zero"
  | .mainClearFailed => "setting FLL1 to zero failed"
  | .referenceClearFailed => "setting FLL1_REFCLK to zero failed"
  | .masterLocked sysclk => s!"FLL1 locked to MCLK1 at {sysclk}"
  | .masterLockFailed sysclk => s!"Failed to set FLL1 to {sysclk}"
  | .primeFailed sysclk => s!"Failed to set FLL1_REFCLK to {sysclk}"
  | .recoveredLocked bitClock sysclk => s!"FLL1 locked to AIF2BCLK {bitClock} at {sysclk}"
  | .recoveredLockFailed bitClock sysclk =>
    s!"Failed to set FLL1 with Sync Clock {bitClock} to {sysclk}"
  | .syncRising sysclk bitClock =>
    s!"spdif_rx: changing FLL1 to use Ref Clock clk: {sysclk} spdif: {bitClock}"
  | .syncClearFailed => "spdif_rx: failed to clear FLLs"
  | .syncLockFailed => "spdif_rx: failed to set FLLs"
  | .syncUnlocked => "spdif_rx: sync path up without a locked FLL1"
  | .syncFalling => "spdif_rx: sync path down"
  | .biasChanging current target => s!"set_bias: {current.label} -> {target.label}"
  | .biasChanged level => s!"set_bias_post: {level.label}"
  | .starting mode sysclk =>
    s!"set_bias: changing FLL1 from {mode.label} {mode.hz?.getD 0} to {sysclk}"
  | .startClearFailed => "set_bias: failed to clear FLLs"
  | .startLockFailed => "set_bias: Failed to set FLL1"
  | .stopping mode => s!"set_bias_post: changing FLL1 from {mode.label} {mode.hz?.getD 0} to off"
  | .stopClearFailed => "set_bias_post: failed to clear FLLs"
  | .stopUnacknowledged => "set_bias_post: standby proceeds with FLL1 reported off"
  | .statusWriteFailed register => s!"Failed to write channel status register {register}"

/-- The level and the wording. -/
def render (l : LogLine) : String := s!"{l.level.label} {l.text}"

end LogLine

end SoundCard
