import SoundCard.Operation

/-!
# Sessions

Hardware with at most one card attached to it. A session takes requests as they come from outside,
with bare numbers and names of controls; one that cannot be understood, or that needs a card where
there is none, is refused without touching the hardware.
-/

namespace SoundCard

structure Session (H : Type) where
  card : Option Card
  hardware : H

inductive Request
  /-- Replaces the card, if there is one, by one in its first state. -/
  | attach (board : Board) (interfaceBound : Bool)
  | detach
  | operate (op : Operation)
  | negotiate (direction : Direction) (rate width : UInt32)
  | controlInfo (control : String) (item : Nat)
  | getControl (control : String)
  | putControl (control : String) (value : ControlValue)
  /-- A call on the card's codec, past the card. -/
  | codecCall (call : CodecCall)
  /-- A ratio for the card's processor interface, past the card. -/
  | bitClockRatio (ratio : UInt32)

/-- Why a request was not answered. -/
inductive Refusal
  | noCard
  | unknownControl
  | outOfRange (error : OutOfRange)
  | card (error : CardError)
  | component (failure : Failure)
  deriving DecidableEq

namespace Session

variable {H : Type}

def onControl (name : String) (f : Control → Operation) : Except Refusal Operation :=
  match Control.ofName? name with
  | some id => .ok (f id)
  | none => .error .unknownControl

/-- Work on the attached card, which stays attached. -/
def withCard {α : Type} (dev : Device H) (s : Session H) (x : Action Card α) :
    Run (Session H) (Except Refusal α) :=
  match s.card with
  | none => ⟨.error .noCard, s, []⟩
  | some card =>
    let run := (x card).run dev s.hardware
    ⟨run.value.1.mapError .card, ⟨some run.value.2, run.hardware⟩, run.events⟩

/-- An operation, if the request could be understood as one. -/
def operate (dev : Device H) (s : Session H) (op : Except Refusal Operation) :
    Run (Session H) (Except Refusal Answer) :=
  match s.card, op with
  | none, _ => ⟨.error .noCard, s, []⟩
  | some _, .error e => ⟨.error e, s, []⟩
  | some _, .ok op => s.withCard dev op.perform

/-- A call past the card. -/
def issue (dev : Device H) (s : Session H) (c : Call) : Run (Session H) (Except Refusal Answer) :=
  match s.card with
  | none => ⟨.error .noCard, s, []⟩
  | some _ =>
    let (answer, hardware) := dev.perform c s.hardware
    ⟨(answer.mapError .component).map fun _ => .unit, { s with hardware },
      [.call c (failureOf answer)]⟩

def handle (dev : Device H) (s : Session H) : Request → Run (Session H) (Except Refusal Answer)
  | .attach board interfaceBound =>
    let run := (Card.attach board interfaceBound).run dev s.hardware
    match run.value with
    | .ok card => ⟨.ok .unit, ⟨some card, run.hardware⟩, run.events⟩
    | .error e => ⟨.error (.card e), ⟨none, run.hardware⟩, run.events⟩
  | .detach =>
    match s.card with
    | none => ⟨.error .noCard, s, []⟩
    | some _ =>
      let run := Card.detach.run dev s.hardware
      ⟨.ok .unit, ⟨none, run.hardware⟩, run.events⟩
  | .operate op => s.operate dev (.ok op)
  | .negotiate direction rate width =>
    s.operate dev (((StreamParams.ofNumbers rate width).mapError .outOfRange).map
      (.negotiate direction))
  | .controlInfo control item => s.operate dev (onControl control (.controlInfo · item))
  | .getControl control => s.operate dev (onControl control .getControl)
  | .putControl control value => s.operate dev (onControl control (.putControl · value))
  | .codecCall call => s.issue dev (.codec call)
  | .bitClockRatio ratio => s.issue dev (.bitClockRatio ratio)

end Session

end SoundCard
