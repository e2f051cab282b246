import SoundCard.Clock.Changes
import SoundCard.RateLimits
import SoundCard.TransmitStatus

/-!
# The card

A card is its board, its clock domain, the user's rate limits and the channel status it transmits.
`Card.attach` makes one; the framework then sets up the link to each codec (`Card.setUpCodec`,
`Card.setUpTransceiver`) and finishes with `Card.finishSetup`.
-/

namespace SoundCard

structure Card where
  board : Board
  clock : ClockDomain
  limits : RateLimits
  status : ChannelStatus
  deriving DecidableEq

namespace Card

def initial (board : Board) : Card where
  board
  clock := ClockDomain.initial board
  limits := RateLimits.initial
  status := ChannelStatus.zero

/-- A card in its first state; without a processor interface there is none. -/
def attach (board : Board) (interfaceBound : Bool) : Program (Except CardError Card) :=
  if interfaceBound then .log (.attaching board) (.done (.ok (initial board)))
  else .log .interfaceMissing (.done (.error .missingInterface))

/-- The card is given up; the hardware stays as it is. -/
def detach : Program Unit := .log .detaching (.done ())

def onClock {α : Type} (x : Action ClockDomain α) : Action Card α :=
  x.within clock fun clock c => { c with clock }

def onStatus {α : Type} (x : Action ChannelStatus α) : Action Card α :=
  x.within status fun status c => { c with status }

/-- Derives the 32 kHz clock from SYSCLK, stops FLL1 and gates SYSCLK. Only the gate has to
succeed. -/
def setUpCodec : Action Card Unit := do
  let derived ← .attempt (.codec .clock32k
    (.updateBits Codec.clock32kRegister Codec.clock32kSourceMask Codec.clock32kFromSysclk))
  .logFailure .clock32kFailed derived
  let cleared ← .attempt (onClock Clock.disablePaths)
  .logFailure .setupClearFailed cleared
  .orLog (.codec .gateSysclk .gateSysclk) .setupGateFailed

/-- Programs the transceiver's PLL for `rate`, and runs the transmitter from it. -/
def programPll (rate : Hz) : Action Card Unit := do
  let card ← .state
  let mclk := scaled rate Transceiver.pllRatio
  .orLog (.transceiver .transceiverPll (.setPll card.board.masterClock mclk))
    (.transceiverPllFailed mclk)
  .orLog (.transceiver .transmitClock (.setClock .transmitPll mclk)) .transmitClockFailed

/-- Loads the transmitted status, selects MCLK, routes the oscillator to CLKOUT and programs the PLL
for the default rate. Loading and CLKOUT are done as far as they go. -/
def setUpTransceiver : Action Card Unit := do
  let card ← .state
  let loaded ← .attempt (onStatus TransmitStatus.load)
  .logFailure .statusLoadFailed loaded
  .orLog (.transceiver .mclkDivider (.setMclkDivider Transceiver.mclkDivider256))
    .mclkDividerFailed
  let routed ← .attempt
    (.transceiver .clkout (.setClock .clkoutOscillator Transceiver.clkoutHz))
  .logFailure .clkoutFailed routed
  .orLog (programPll card.board.defaultRate) (.setupPllFailed card.board.defaultRate)

/-- Puts both interfaces of the codec into the SYSCLK domain. -/
def finishSetup : Action Card Unit := do
  let card ← .state
  .log (.statusBytes card.status)
  .orLog (.codec .aif1Domain (.joinSysclk .aif1)) .aif1DomainFailed
  .orLog (.codec .aif2Domain (.joinSysclk .aif2)) .aif2DomainFailed

/-- The parameters of the link between the codec and the transceiver: 24 bits at the rate
negotiated last. There are none while that rate is not one a stream could have. -/
def linkParams (c : Card) : Option StreamParams :=
  match StreamRate.ofHz c.clock.linkRate with
  | .ok rate => some ⟨rate, .s24⟩
  | .error _ => none

end Card

end SoundCard
