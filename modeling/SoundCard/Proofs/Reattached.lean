import SoundCard.Proofs.FirstFailure
import SoundCard.Proofs.SameOutcomes
import SoundCard.Scripted
import SoundCard.Session

/-!
# A card attached again

A card that is detached leaves its hardware as it is: FLL1 may be locked, or half disabled, and
SYSCLK may run. The next card is attached in its first state all the same, and once its codec is set
up without a failure both paths of FLL1 are disabled and SYSCLK is gated, wherever they were. From
there on the clocks are worked as they are on hardware that was never used
(`Session.serve_reattached`).
-/

namespace SoundCard

open Trace

/-- What came of a request, with the card attached after it. -/
structure Reply where
  answer : Except Refusal Answer
  events : List Event
  card : Option Card

/-- The request concerns the clocks of the card, whether its numbers are checked already or not. -/
def Request.OnClocks : Request → Prop
  | .operate op => op.side? = some .clock
  | .negotiate _ _ _ => True
  | _ => False

namespace Session

variable {H : Type} (dev : Device H)

/-- Serves requests one after the other, whether they are answered or refused. -/
def serve : List Request → Session H → Run (Session H) (List Reply)
  | [], s => ⟨[], s, []⟩
  | request :: requests, s =>
    let first := s.handle dev request
    let rest := serve requests first.hardware
    ⟨⟨first.value, first.events, first.hardware.card⟩ :: rest.value, rest.hardware,
      first.events ++ rest.events⟩

/-- The requests that attach a card and set up its codec. -/
def renewal (board : Board) : List Request := [.attach board true, .operate .setUpCodec]

theorem events_serve :
    ∀ (requests : List Request) (s : Session H),
      (serve dev requests s).events = (serve dev requests s).value.flatMap (·.events)
  | [], _ => rfl
  | request :: requests, s =>
    congrArg ((s.handle dev request).events ++ ·) (events_serve requests _)

end Session

section SetUp

/-- Where none of its calls failed, setting up the codec has turned FLL1 off, and the clocks of the
codec are as on new hardware, wherever they were. -/
theorem SetUpOutcome.of_accepted {s t : ClockDomain} {r : Except CardError Unit} {es : List Event}
    (h : SetUpOutcome s r t es) (hfailures : failures es = []) :
    r = .ok () ∧ t = { s with fll := .off } ∧ ∀ k : CodecClocks, k.replay es = {} := by
  cases h with
  | gated derived hclear =>
    cases derived with
    | some f => cases hfailures
    | none =>
      cases hclear with
      | disabled => exact ⟨rfl, rfl, fun _ => rfl⟩
      | mainFailed | referenceFailed => cases hfailures
  | gateFailed derived f hclear =>
    rw [failures_append, List.append_eq_nil_iff] at hfailures
    cases hfailures.2

/-- Whatever the hardware went through, a card that is attached and whose codec is set up without a
failure is in its first state, and so are the clocks of the codec. -/
theorem Session.serve_renewal {H : Type} (dev : Device H) (board : Board) (s : Session H) :
    let a := serve dev (renewal board) s
    failures a.events = [] → a.value.map (·.answer) = [.ok .unit, .ok .unit] ∧
      a.hardware.card = some (Card.initial board) ∧ ∀ k : CodecClocks, k.replay a.events = {} := by
  intro a hfailures
  let run := (Operation.setUpCodec.perform (Card.initial board)).run dev s.hardware
  have hvalue : a.value.map (·.answer) = [.ok .unit, run.value.1.mapError .card] := rfl
  have hcard : a.hardware.card = some run.value.2 := rfl
  have hevents : a.events = .log (.attaching board) :: run.events :=
    congrArg _ (List.append_nil run.events)
  rw [hevents] at hfailures
  obtain ⟨r, t, hout, hclock, hresult⟩ :=
    (Operation.performs_setUpCodec (Card.initial board)).run dev s.hardware
  obtain ⟨rfl, rfl, hreplay⟩ := SetUpOutcome.of_accepted hout ((failures_steps _).trans hfailures)
  have hresult : run.value.1 = .ok .unit := hresult
  have hclock : run.value.2 = Card.initial board := hclock
  rw [hvalue, hcard, hevents, hresult, hclock]
  refine ⟨rfl, rfl, fun k => ?_⟩
  have hrun : k.replay run.events = {} := (k.replay_steps run.events).symm.trans (hreplay k)
  exact hrun

end SetUp

section TwoRuns

variable {H H' : Type} (dev : Device H) (dev' : Device H')

namespace Session

theorem operate_eq_of_sameOutcomes {s : Session H} {s' : Session H'} (hcard : s.card = s'.card)
    {op : Except Refusal Operation} (hop : ∀ o, op = .ok o → o.side? = some .clock) :
    let run := s.operate dev op
    let run' := s'.operate dev' op
    SameOutcomes run.events run'.events →
      run.value = run'.value ∧ run.events = run'.events ∧
        run.hardware.card = run'.hardware.card := by
  obtain ⟨card, h⟩ := s
  obtain ⟨card', h'⟩ := s'
  obtain rfl : card = card' := hcard
  intro run run' hsame
  rcases card with _ | c
  · exact ⟨rfl, rfl, rfl⟩
  rcases op with e | op
  · exact ⟨rfl, rfl, rfl⟩
  obtain ⟨hvalue, hevents⟩ := Operation.run_eq_of_sameOutcomes dev dev' (hop op rfl) c h h' hsame
  refine ⟨?_, hevents, ?_⟩
  · exact congrArg (fun v => v.1.mapError Refusal.card) hvalue
  · exact congrArg (fun v => some v.2) hvalue

theorem handle_eq_of_sameOutcomes {s : Session H} {s' : Session H'} (hcard : s.card = s'.card)
    {request : Request} (hrequest : request.OnClocks) :
    let run := s.handle dev request
    let run' := s'.handle dev' request
    SameOutcomes run.events run'.events →
      run.value = run'.value ∧ run.events = run'.events ∧
        run.hardware.card = run'.hardware.card := by
  cases request with
  | operate op =>
    refine operate_eq_of_sameOutcomes dev dev' hcard fun o ho => ?_
    obtain rfl : op = o := Except.ok.inj ho
    exact hrequest
  | negotiate d rate width =>
    refine operate_eq_of_sameOutcomes dev dev' hcard fun o ho => ?_
    cases hparams : StreamParams.ofNumbers rate width with
    | error e =>
      rw [hparams] at ho
      cases ho
    | ok params =>
      rw [hparams] at ho
      obtain rfl : .negotiate d params = o := Except.ok.inj ho
      rfl
  | _ => exact hrequest.elim

/-- Two sessions with the same card, on devices whose calls meet the same failures, give the same
replies to what concerns the clocks. -/
theorem serve_eq_of_sameOutcomes :
    ∀ (requests : List Request) {s : Session H} {s' : Session H'}, s.card = s'.card →
      (∀ r ∈ requests, r.OnClocks) →
      SameOutcomes (serve dev requests s).events (serve dev' requests s').events →
      (serve dev requests s).value = (serve dev' requests s').value
  | [], _, _, _, _, _ => rfl
  | request :: requests, s, s', hcard, hrequests, hsame => by
    obtain ⟨hrequest, hrest⟩ := List.forall_mem_cons.1 hrequests
    obtain ⟨hvalue, hevents, hcard'⟩ :=
      handle_eq_of_sameOutcomes dev dev' hcard hrequest hsame.left
    have hafter : SameOutcomes (serve dev requests (s.handle dev request).hardware).events
        (serve dev' requests (s'.handle dev' request).hardware).events := by
      simp only [serve, hevents] at hsame
      exact hsame.right
    simp only [serve, hvalue, hevents, hcard',
      serve_eq_of_sameOutcomes requests hcard' hrest hafter]

/-- Whatever was asked of a session and whichever calls failed, the card is detached, another one is
attached, and its codec is set up without a failure. Then the new card is in its first state: FLL1
is off, the receive path is down, no stream holds parameters, both rates are the default rate, the
limits are those of a new card and the status is zero. Both paths of FLL1 are disabled and SYSCLK is
gated, wherever they were. And from there on all that is asked of the clocks comes to the same as on
any other hardware where a card was attached and set up without a failure, as long as its calls meet
the same failures: each request has the same answer, makes the same calls and leaves the card in the
same state, and so are the clocks of the codec. -/
theorem serve_reattached (s : Session H) (past : List Request) (board : Board) (fresh : H') :
    let used := (serve dev (past ++ [.detach]) s).hardware
    let a := serve dev (renewal board) used
    let b := serve dev' (renewal board) ⟨none, fresh⟩
    failures a.events = [] →
      (a.value.map (·.answer) = [.ok .unit, .ok .unit] ∧
        a.hardware.card = some {
          board
          clock := {
            rate := board.defaultRate
            linkRate := board.defaultRate
            syncPath := false
            fll := .off
            streams := { playback := false, capture := false } }
          limits := { min := 1, max := 0 }
          status := ⟨#v[0, 0, 0, 0]⟩ } ∧
        ∀ k : CodecClocks, k.replay a.events = { main := none, reference := none, sysclk := 0 }) ∧
      (failures b.events = [] → ∀ future : List Request, (∀ r ∈ future, r.OnClocks) →
        let p := serve dev future a.hardware
        let q := serve dev' future b.hardware
        SameOutcomes p.events q.events →
          p.value = q.value ∧ ∀ k k' : CodecClocks,
            k.replay (a.events ++ p.events) = k'.replay (b.events ++ q.events)) := by
  intro used a b hfailures
  have hrenewed := serve_renewal dev board used hfailures
  refine ⟨hrenewed, ?_⟩
  intro hfailures' future hfuture p q hsame
  obtain ⟨-, hcard, hclocks⟩ := hrenewed
  obtain ⟨-, hcard', hclocks'⟩ := serve_renewal dev' board ⟨none, fresh⟩ hfailures'
  have hvalue : p.value = q.value :=
    serve_eq_of_sameOutcomes dev dev' future (hcard.trans hcard'.symm) hfuture hsame
  refine ⟨hvalue, fun k k' => ?_⟩
  have hevents : p.events = q.events := by
    rw [events_serve, events_serve]
    exact congrArg (List.flatMap _) hvalue
  rw [CodecClocks.replay_append, CodecClocks.replay_append, hclocks, hclocks', hevents]

/-- The first card goes while SYSCLK runs and its reference path could not be disabled. The next one
fails to raise its receive path, since the reference path cannot be primed, and goes on from there;
so it does on new hardware. -/
theorem serve_reattached_half_cleared :
    let past : List Request := [.attach {} true, .operate .setUpCodec,
      .negotiate .playback 48000 16, .operate .raiseSyncPath,
      .operate (.biasChanged .codec .standby)]
    let future : List Request := [.operate (.widgetPower Graph.receiveWidget .afterUp),
      .operate (.changeBias .codec .standby .prepare), .negotiate .capture 96000 24]
    let dev := Scripted.device (.ofFaults [{ first := 14, failure := .bus },
      { first := 21, failure := .bus }])
    let dev' := Scripted.device (.ofFaults [{ first := 6, failure := .bus }])
    let used := serve dev (past ++ [.detach]) ⟨none, {}⟩
    let a := serve dev (renewal {}) used.hardware
    let b := serve dev' (renewal {}) ⟨none, {}⟩
    let p := serve dev future a.hardware
    let q := serve dev' future b.hardware
    CodecClocks.replay {} used.events = ⟨none, some ⟨.mclk1, 49152000⟩, 49152000⟩ ∧
      (failures a.events = [] ∧ failures b.events = [] ∧ (∀ r ∈ future, r.OnClocks) ∧
        SameOutcomes p.events q.events) ∧
      (failures p.events).length = 1 ∧ a.hardware.card = some (Card.initial {}) ∧
        p.value = q.value := by
  intro past future dev dev'
  dsimp only
  have hfuture : ∀ r ∈ future, r.OnClocks := by simp [future, Request.OnClocks, Operation.side?]
  obtain ⟨⟨-, hcard, -⟩, hruns⟩ := serve_reattached dev dev' ⟨none, {}⟩ past {} {} (by decide)
  obtain ⟨hvalue, -⟩ := hruns (by decide) future hfuture (by decide)
  exact ⟨by decide, ⟨by decide, by decide, hfuture, by decide⟩, by decide, hcard, hvalue⟩

end Session

end TwoRuns

end SoundCard
