import Mathlib.Data.List.DropRight
import SoundCard.Proofs.BenchSides

/-!
# Injected failures

The simulated codec is used in tests: calls that are to fail are injected and forgotten, the calls
on record are forgotten, and in between the codec is called. What it answers and what it comes to is
told here from the requests alone (`BenchCodec.told_serve`). A call that was to fail does fail as
long as it is among the first eight since failures were last forgotten. There is no room for another
one, which is dropped, and the call is carried out (`BenchCodec.serve_fails_iff`).
-/

namespace SoundCard

/-- What is asked of the simulated codec: a call, or what only the bench can ask for. -/
inductive CodecRequest
  /-- From now on calls equal to `c` are to fail. -/
  | injectFailure (c : CodecCall)
  | forgetFailures
  | forgetCalls
  | call (stamp : Nat) (c : CodecCall)
  deriving DecidableEq

namespace CodecRequest

def injected? : CodecRequest → Option CodecCall
  | injectFailure c => some c
  | _ => none

/-- The call with its stamp, if it is one. -/
def called? : CodecRequest → Option (Nat × CodecCall)
  | call stamp c => some (stamp, c)
  | _ => none

def calls (rs : List CodecRequest) : List (Nat × CodecCall) := rs.filterMap called?

/-- What `f` makes of the requests since the last one for `mark`. -/
def sinceLast {α : Type} (mark : CodecRequest) (f : CodecRequest → Option α)
    (rs : List CodecRequest) : List α :=
  (rs.rtakeWhile (· ≠ mark)).filterMap f

/-- The calls that are to fail, in the order in which they were injected. -/
def injected (rs : List CodecRequest) : List CodecCall := sinceLast forgetFailures injected? rs

/-- The calls not forgotten. -/
def logged (rs : List CodecRequest) : List (Nat × CodecCall) := sinceLast forgetCalls called? rs

section Concat

variable (rs : List CodecRequest) (r : CodecRequest)

theorem calls_concat : calls (rs ++ [r]) = calls rs ++ r.called?.toList := List.filterMap_append

theorem sinceLast_concat {α : Type} (mark : CodecRequest) (f : CodecRequest → Option α) :
    sinceLast mark f (rs ++ [r]) = if r = mark then [] else sinceLast mark f rs ++ (f r).toList := by
  by_cases hr : r = mark
  · simp [sinceLast, hr]
  · rw [if_neg hr, sinceLast, List.rtakeWhile_concat_pos _ _ _ (by simpa using hr)]
    exact List.filterMap_append

end Concat

end CodecRequest

namespace BenchCodec

open CodecRequest

/-- Does what is asked, and tells how a call was answered. -/
def handle (b : BenchCodec) : CodecRequest → Run BenchCodec Unit
  | .injectFailure c => ⟨(), b.injectFailure c, []⟩
  | .forgetFailures => ⟨(), b.forgetFailures, []⟩
  | .forgetCalls => ⟨(), b.forgetCalls, []⟩
  | .call stamp c =>
    let (answer, b) := b.call stamp c
    ⟨(), b, [.call (.codec c) (failureOf answer)]⟩

def serve : List CodecRequest → BenchCodec → Run BenchCodec Unit
  | [], b => ⟨(), b, []⟩
  | r :: rs, b =>
    let first := b.handle r
    let rest := serve rs first.hardware
    ⟨(), rest.hardware, first.events ++ rest.events⟩

/-- The codec and the answers to its calls as the requests tell them. -/
structure Told (rs : List CodecRequest) (b : BenchCodec) (es : List Event) : Prop where
  failing : b.recorder.failing.toList = (injected rs).take 8
  log : b.recorder.log.toList = (logged rs).take 128
  total : b.total = min (calls rs).length (UInt64.size - 1)
  clocks : b.clocks = CodecClocks.replay {} es
  calls : Trace.calls es = (calls rs).map fun p => .codec p.2

variable {rs : List CodecRequest} {b : BenchCodec} {es : List Event}

theorem told_fresh : Told [] {} [] := ⟨rfl, rfl, rfl, rfl, rfl⟩

/-- A call is noted whatever the answer, and does to the clocks what a trace with that answer
says. -/
theorem call_eq (b : BenchCodec) (stamp : Nat) (c : CodecCall) :
    let answer := if c ∈ b.recorder.failing.toList then .error .bus else .ok ()
    b.call stamp c =
      (answer, ⟨b.recorder.record stamp c, min (b.total + 1) (UInt64.size - 1),
        b.clocks.replay [.call (.codec c) (failureOf answer)]⟩) := by
  by_cases hc : c ∈ b.recorder.failing.toList
  · simp only [call, Recorder.fails, Recorder.failing_record, hc, decide_true, if_true]
    rfl
  · simp only [call, Recorder.fails, Recorder.failing_record, hc, decide_false, if_false,
      Bool.false_eq_true]
    rfl

theorem Told.injectFailure (h : Told rs b es) (c : CodecCall) :
    Told (rs ++ [.injectFailure c]) (b.injectFailure c) es where
  failing := (b.recorder.failing.toList_push c).trans <| by
    simp [h.failing, take_take_append, injected, sinceLast_concat, injected?]
  log := h.log.trans (by simp [logged, sinceLast_concat, called?])
  total := h.total.trans (by simp [calls_concat, called?])
  clocks := h.clocks
  calls := h.calls.trans (by simp [calls_concat, called?])

theorem Told.forgetFailures (h : Told rs b es) :
    Told (rs ++ [.forgetFailures]) b.forgetFailures es where
  failing := by rw [injected, sinceLast_concat, if_pos rfl]; rfl
  log := h.log.trans (by simp [logged, sinceLast_concat, called?])
  total := h.total.trans (by simp [calls_concat, called?])
  clocks := h.clocks
  calls := h.calls.trans (by simp [calls_concat, called?])

theorem Told.forgetCalls (h : Told rs b es) : Told (rs ++ [.forgetCalls]) b.forgetCalls es where
  failing := h.failing.trans (by simp [injected, sinceLast_concat, injected?])
  log := by rw [logged, sinceLast_concat, if_pos rfl]; rfl
  total := h.total.trans (by simp [calls_concat, called?])
  clocks := h.clocks
  calls := h.calls.trans (by simp [calls_concat, called?])

theorem Told.call (h : Told rs b es) (stamp : Nat) (c : CodecCall) :
    Told (rs ++ [.call stamp c]) (b.call stamp c).2
      (es ++ [.call (.codec c) (failureOf (b.call stamp c).1)]) := by
  rw [call_eq]
  constructor
  case failing => exact h.failing.trans (by simp [injected, sinceLast_concat, injected?])
  case log =>
    refine (b.recorder.log.toList_push (stamp, c)).trans ?_
    simp [h.log, take_take_append, logged, sinceLast_concat, called?]
  case total =>
    simp only [h.total, calls_concat, List.length_append, called?, Option.toList_some,
      List.length_singleton]
    omega
  case clocks => rw [CodecClocks.replay_append, h.clocks]
  case calls =>
    rw [Trace.calls_append, h.calls, calls_concat, List.map_append]
    rfl

/-- Each request adds to what is told. -/
theorem Told.handle (h : Told rs b es) (r : CodecRequest) :
    Told (rs ++ [r]) (b.handle r).hardware (es ++ (b.handle r).events) := by
  cases r with
  | injectFailure c => exact (es.append_nil).symm ▸ h.injectFailure c
  | forgetFailures => exact (es.append_nil).symm ▸ h.forgetFailures
  | forgetCalls => exact (es.append_nil).symm ▸ h.forgetCalls
  | call stamp c => exact h.call stamp c

theorem Told.serve (h : Told rs b es) (qs : List CodecRequest) :
    Told (rs ++ qs) (serve qs b).hardware (es ++ (serve qs b).events) := by
  induction qs generalizing rs b es with
  | nil => simpa [BenchCodec.serve] using h
  | cons q qs ih =>
    have hrest := ih (h.handle q)
    rwa [List.append_assoc, List.append_assoc] at hrest

theorem told_serve (rs : List CodecRequest) :
    Told rs (serve rs {}).hardware (serve rs {}).events := told_fresh.serve rs

theorem answer_serve (rs : List CodecRequest) (stamp : Nat) (c : CodecCall) :
    ((serve rs {}).hardware.call stamp c).1 =
      if c ∈ (injected rs).take 8 then .error .bus else .ok () := by
  rw [call_eq, (told_serve rs).failing]

/-- Whatever was asked of a new codec, the next call fails just if it is among the first eight that
are to fail. So every call that is to fail does fail, and no other one, just if those eight are all
there are, apart from repetitions. In any case the clocks are set by the calls that were accepted
and by no other ones, every call is counted, as far as the count goes, and on record are the first
128 calls that are not forgotten. -/
theorem serve_fails_iff (rs : List CodecRequest) :
    let run := serve rs {}
    let b := run.hardware
    (∀ stamp c,
        (b.call stamp c).1 = if c ∈ (injected rs).take 8 then .error .bus else .ok ()) ∧
      ((∀ stamp c, (b.call stamp c).1 = if c ∈ injected rs then .error .bus else .ok ()) ↔
        ∀ c ∈ injected rs, c ∈ (injected rs).take 8) ∧
      (Trace.calls run.events = (calls rs).map fun p => .codec p.2) ∧
      b.clocks = CodecClocks.replay {} run.events ∧
      b.total = min (calls rs).length (UInt64.size - 1) ∧
      b.recorder.log.toList = (logged rs).take 128 := by
  intro run b
  obtain ⟨-, hlog, htotal, hclocks, hcalls⟩ := told_serve rs
  refine ⟨answer_serve rs, ⟨fun h c hc => ?_, fun h stamp c => ?_⟩, hcalls, hclocks, htotal,
    hlog⟩
  · by_contra hdropped
    have hfails := h 0 c
    rw [answer_serve, if_neg hdropped, if_pos hc] at hfails
    cases hfails
  · rw [answer_serve]
    exact if_congr ⟨List.mem_of_mem_take, h c⟩ rfl rfl

/-- Nine calls are to fail, and the ninth is carried out. -/
theorem serve_ninth_carried_out :
    let rs : List CodecRequest :=
      (List.range 9).map fun n => .injectFailure (.setSysclk (.ofNat (8000 * n)))
    let (answer, b) := (serve rs {}).hardware.call 0 (.setSysclk 64000)
    .setSysclk 64000 ∈ injected rs ∧ answer = .ok () ∧ b.clocks.sysclk = 64000 := by
  decide

end BenchCodec

end SoundCard
