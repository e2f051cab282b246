import SoundCard.Card

/-!
# Opening, negotiating and freeing streams

Negotiation programs the interfaces first, then the transceiver's PLL, then SYSCLK, and lets FLL1
follow last. The parameters are recorded only when every call succeeded.
-/

namespace SoundCard.Card

/-- A stream opens: it is confined to the user's limits, if there are any. -/
def openStream (direction : Direction) (constraint : RateConstraint) :
    Action Card RateConstraint := do
  let card ← .state
  match card.limits.range with
  | some range =>
    .log (.opening direction range)
    return constraint.confine range
  | none => return constraint

def negotiate (direction : Direction) (params : StreamParams) : Action Card Unit := do
  let card ← .state
  let rate := params.rate.hz
  let sysclk := card.board.sysclk rate
  .log (.negotiating direction params sysclk)
  .orLog (.perform .bitClockRatio (.bitClockRatio params.width.bitClockRatio)) .bitClockRatioFailed
  .orLog
    (.codec .tdmSlots (.setTdmSlots Board.slotMask Board.slotMask Board.slots params.width.bits))
    .tdmSlotsFailed
  if Transceiver.minPllRate ≤ rate then programPll rate else pure ()
  .orLog (.codec .sysclk (.setSysclk sysclk)) (.sysclkFailed sysclk)
  onClock (Clock.followRate card.board rate)
  onClock (Clock.recordStream direction rate)

def freeStream (direction : Direction) : Action Card Unit := do
  .log (.freeing direction)
  onClock (Clock.dropStream direction)

end SoundCard.Card
