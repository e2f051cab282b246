import SoundCard.Card
import SoundCard.Graph

/-!
# Power events

Of the bias levels only the codec's matter: FLL1 starts before the codec is prepared from below and
stops once it reached standby. Of the widgets only the receive widget matters. What is announced
after the fact never fails, whatever the hardware did.
-/

namespace SoundCard.Card

/-- A domain is about to move from `current` to `target`. -/
def changeBias (domain : PowerDomain) (current target : BiasLevel) : Action Card Unit := do
  if domain = .codec then
    .log (.biasChanging current target)
    if target = .prepare ∧ current ≠ .on then
      let card ← .state
      onClock (Clock.start card.board)
    else pure ()
  else pure ()

/-- A domain has reached `level`. -/
def biasChanged (domain : PowerDomain) (level : BiasLevel) : Action Card Unit := do
  if domain = .codec then
    .log (.biasChanged level)
    if level = .standby then
      let stopped ← .attempt (onClock Clock.stop)
      .logFailure .stopUnacknowledged stopped
    else pure ()
  else pure ()

def widgetPower (widget : String) (event : PowerEvent) : Action Card Unit := do
  if widget = Graph.receiveWidget then
    match event with
    | .afterUp =>
      let card ← .state
      let raised ← .attempt (onClock (Clock.raiseSyncPath card.board))
      .logFailure .syncUnlocked raised
    | .afterDown =>
      .log .syncFalling
      onClock Clock.lowerSyncPath
    | .beforeUp | .beforeDown => pure ()
  else pure ()

end SoundCard.Card
