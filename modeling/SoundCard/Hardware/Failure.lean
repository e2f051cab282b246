/-!
# Failed calls

Why a hardware component did not do what a call asked of it.
-/

namespace SoundCard

inductive Failure
  /-- The control bus did not carry the call. -/
  | bus
  /-- The component refused the configuration, with its own code. -/
  | rejected (code : Int32)
  | unsupported
  deriving DecidableEq

def Failure.message : Failure → String
  | .bus => "control bus transaction failed"
  | .rejected code => s!"configuration rejected by component (code {code})"
  | .unsupported => "operation not supported"

end SoundCard
