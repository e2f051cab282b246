import SoundCard.Program

/-!
# Traces

What a list of events says of the hardware: which calls were issued, which of them failed, and what
the accepted ones did to the codec's clocks. Each of these is read off event by event, so it
distributes over appending traces (`CodecClocks.replay_append`).
-/

namespace SoundCard

namespace Event

def call? : Event → Option Call
  | .call c _ => some c
  | .wait _ | .log _ => none

/-- The call, if it was accepted. -/
def accepted? : Event → Option Call
  | .call c none => some c
  | .call _ (some _) | .wait _ | .log _ => none

/-- The call with its failure, if it failed. -/
def failed? : Event → Option (Call × Failure)
  | .call c (some f) => some (c, f)
  | .call _ none | .wait _ | .log _ => none

/-- The accepted call, if it went to the codec. -/
def acceptedByCodec? : Event → Option CodecCall
  | .call (.codec c) none => some c
  | _ => none

end Event

namespace Trace

def calls (es : List Event) : List Call := es.filterMap Event.call?

def failures (es : List Event) : List (Call × Failure) := es.filterMap Event.failed?

/-- The calls the codec accepted. -/
def codecCalls (es : List Event) : List CodecCall := es.filterMap Event.acceptedByCodec?

variable (es fs : List Event)

@[simp] theorem calls_append : calls (es ++ fs) = calls es ++ calls fs := List.filterMap_append

@[simp] theorem failures_append : failures (es ++ fs) = failures es ++ failures fs :=
  List.filterMap_append

theorem mem_failures {es : List Event} {c : Call} {f : Failure} :
    (c, f) ∈ failures es ↔ .call c (some f) ∈ es := by
  rw [failures, List.mem_filterMap]
  constructor
  · rintro ⟨e, he, h⟩
    rcases e with ⟨c', _ | f'⟩ | us | line <;> cases h
    exact he
  · intro h
    exact ⟨_, h, rfl⟩

@[simp] theorem codecCalls_append : codecCalls (es ++ fs) = codecCalls es ++ codecCalls fs :=
  List.filterMap_append

end Trace

namespace CodecClocks

/-- The clocks a trace leaves, from those it found. -/
def replay (c : CodecClocks) (es : List Event) : CodecClocks := c.acceptAll (Trace.codecCalls es)

@[simp] theorem replay_nil (c : CodecClocks) : c.replay [] = c := rfl

theorem replay_append (c : CodecClocks) (es fs : List Event) :
    c.replay (es ++ fs) = (c.replay es).replay fs := by
  simp [replay, acceptAll]

theorem replay_cons (c : CodecClocks) (e : Event) (es : List Event) :
    c.replay (e :: es) = (c.replay [e]).replay es :=
  c.replay_append [e] es

end CodecClocks

end SoundCard
