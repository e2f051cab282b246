import SoundCard.Proofs.SyncOwnership
import SoundCard.Proofs.TransceiverClocks

/-!
# FLL1 over changes of the family

While FLL1 runs from the master clock it follows the rates that are negotiated, and as long as no
negotiation fails it is locked anew exactly where two neighbouring rates have different SYSCLKs
(`Card.play_relocks`). A lock too many would be heard as a gap, and one too few would leave FLL1 at
the wrong family.
-/

namespace SoundCard

open Clock

/-- The rate an operation negotiates, if it negotiates at all. -/
def Operation.negotiatedRate? : Operation → Option Hz
  | .negotiate _ params => some params.rate.hz
  | _ => none

/-- A call that arms a path of FLL1, accepted or not. -/
def Event.arms : Event → Bool
  | .call (.codec (.setFll _ (some _) _ _)) _ => true
  | _ => false

def Event.isWait : Event → Bool
  | .wait _ => true
  | _ => false

/-- The neighbours in a list of rates that have different SYSCLKs. -/
def familyChanges (board : Board) (rates : List Hz) : List (Hz × Hz) :=
  (rates.zip rates.tail).filter fun p => board.sysclk p.1 ≠ board.sysclk p.2

/-- Both paths are disabled, and then the main path is locked to the master clock and given its
time. Every call is accepted. -/
def relockSteps (board : Board) (hz : Hz) : List Event :=
  disableSteps none none ++ masterLockSteps board hz none

/-- FLL1 is locked anew at each change of the family, at the SYSCLK of the rate that follows. -/
def relocks (board : Board) (rates : List Hz) : List Event :=
  (familyChanges board rates).flatMap fun p => relockSteps board (board.sysclk p.2)

section Rates

variable {board : Board} {a b : Hz} {rates : List Hz}

theorem familyChanges_cons_of_eq (h : board.sysclk a = board.sysclk b) :
    familyChanges board (a :: b :: rates) = familyChanges board (b :: rates) := by
  simp [familyChanges, h]

theorem familyChanges_cons_of_ne (h : board.sysclk a ≠ board.sysclk b) :
    familyChanges board (a :: b :: rates) = (a, b) :: familyChanges board (b :: rates) := by
  simp [familyChanges, h]

/-- The changes over a longer list: those over its first part, and then those from the rate it ends
with. -/
theorem familyChanges_append (a : Hz) (rates more : List Hz) :
    familyChanges board (a :: (rates ++ more)) =
      familyChanges board (a :: rates) ++ familyChanges board (rates.getLastD a :: more) := by
  induction rates generalizing a with
  | nil => rfl
  | cons b rates ih =>
    rw [List.cons_append, List.getLastD_cons]
    by_cases h : board.sysclk a = board.sysclk b
    · rw [familyChanges_cons_of_eq h, familyChanges_cons_of_eq h, ih]
    · rw [familyChanges_cons_of_ne h, familyChanges_cons_of_ne h, ih, List.cons_append]

theorem relocks_append (a : Hz) (rates more : List Hz) :
    relocks board (a :: (rates ++ more)) =
      relocks board (a :: rates) ++ relocks board (rates.getLastD a :: more) := by
  rw [relocks, familyChanges_append, List.flatMap_append]
  rfl

/-- Each new lock has one event of a kind, so all have as many as there are changes. -/
theorem countP_relocks {p : Event → Bool} (h : ∀ hz, (relockSteps board hz).countP p = 1)
    (rates : List Hz) : (relocks board rates).countP p = (familyChanges board rates).length := by
  rw [relocks]
  induction familyChanges board rates with
  | nil => rfl
  | cons change changes ih =>
    rw [List.flatMap_cons, List.countP_append, h, ih, List.length_cons]
    omega

theorem sysclk_getLastD (h : familyChanges board (a :: rates) = []) :
    board.sysclk (rates.getLastD a) = board.sysclk a := by
  induction rates generalizing a with
  | nil => rfl
  | cons b rates ih =>
    by_cases hab : board.sysclk a = board.sysclk b
    · rw [familyChanges_cons_of_eq hab] at h
      rw [List.getLastD_cons, ih h, hab]
    · rw [familyChanges_cons_of_ne hab] at h
      cases h

/-- The main path is left at the SYSCLK of the last rate, or where it was if nothing changed. -/
theorem main_replay_relocks (a : Hz) (rates : List Hz) (k : CodecClocks) :
    (k.replay (relocks board (a :: rates))).main =
      if familyChanges board (a :: rates) = [] then k.main
      else some ⟨.mclk1, board.sysclk (rates.getLastD a)⟩ := by
  induction rates generalizing a k with
  | nil => rfl
  | cons b rates ih =>
    rw [List.getLastD_cons]
    by_cases hab : board.sysclk a = board.sysclk b
    · have hrelocks : relocks board (a :: b :: rates) = relocks board (b :: rates) := by
        rw [relocks, familyChanges_cons_of_eq hab]
        rfl
      rw [hrelocks, familyChanges_cons_of_eq hab, ih]
    · have hrelocks : relocks board (a :: b :: rates) =
          relockSteps board (board.sysclk b) ++ relocks board (b :: rates) := by
        rw [relocks, familyChanges_cons_of_ne hab]
        rfl
      have hlocked : (k.replay (relockSteps board (board.sysclk b))).main =
          some ⟨.mclk1, board.sysclk b⟩ := rfl
      rw [hrelocks, CodecClocks.replay_append, ih, familyChanges_cons_of_ne hab,
        if_neg (List.cons_ne_nil _ _), hlocked]
      split_ifs with hnone
      · rw [sysclk_getLastD hnone]
      · rfl

end Rates

/-- The rates were negotiated one after the other, and FLL1 followed them from the master clock. -/
structure FollowsRates (board : Board) (rates : List Hz) (s : ClockDomain) (es : List Event)
    (t : ClockDomain) : Prop where
  rate : t.rate = rates.getLastD s.rate
  onMaster : t.OnMaster board
  steps : Trace.fllSteps es = relocks board (s.rate :: rates)

namespace FollowsRates

variable {board : Board} {rates more : List Hz} {s t u : ClockDomain} {es fs : List Event}

/-- Nothing was negotiated, and FLL1 was left alone. -/
theorem of_kept (hs : s.OnMaster board) (hrate : t.rate = s.rate) (hfll : t.fll = s.fll)
    (hsteps : Trace.fllSteps es = []) : FollowsRates board [] s es t where
  rate := hrate
  onMaster := by rw [ClockDomain.OnMaster, hfll, hrate]; exact hs
  steps := hsteps

theorem trans (h : FollowsRates board rates s es t) (h' : FollowsRates board more t fs u) :
    FollowsRates board (rates ++ more) s (es ++ fs) u where
  rate := by
    rw [h'.rate, h.rate]
    simp [List.getLastD_eq_getLast?, List.getLast?_append, Option.getD_or]
  onMaster := h'.onMaster
  steps := by rw [Trace.fllSteps_append, h.steps, h'.steps, relocks_append, h.rate]

/-- The steps that do not concern FLL1 have no part in it. -/
theorem countP_eq {p : Event → Bool} (h : FollowsRates board rates s es t)
    (hp : ∀ e, p e = true → e.isFllStep = true) (hone : ∀ hz, (relockSteps board hz).countP p = 1) :
    es.countP p = (familyChanges board (s.rate :: rates)).length := by
  rw [← countP_relocks hone, ← h.steps, Trace.fllSteps, List.countP_filter]
  refine List.countP_congr fun e _ => ?_
  simp only [Bool.and_eq_true]
  exact ⟨fun he => ⟨he, hp e he⟩, fun he => he.1⟩

theorem main_replay (h : FollowsRates board rates s es t) (k : CodecClocks) :
    (k.replay es).main = if familyChanges board (s.rate :: rates) = [] then k.main
      else some ⟨.mclk1, board.sysclk (rates.getLastD s.rate)⟩ := by
  rw [(k.replay_fllSteps es).1, h.steps, main_replay_relocks]

end FollowsRates

section Outcomes

variable {board : Board} {rate : Hz} {s t : ClockDomain} {r : Except CardError Unit}
  {es : List Event}

theorem Clock.FollowOutcome.fllSteps_eq (h : FollowOutcome board rate s (.ok ()) t es)
    (hs : s.OnMaster board) : Trace.fllSteps es = relocks board [s.rate, rate] := by
  cases h with
  | idle hagrees => rw [relocks, familyChanges_cons_of_eq (hagrees _ hs)]; rfl
  | tried hmaster hne h =>
    obtain rfl := FllMode.master.inj (hs.symm.trans hmaster)
    rw [relocks, familyChanges_cons_of_ne hne]
    cases h with
    | tried h => cases h; rfl

theorem NegotiateOutcome.followsRates {d : Direction} {params : StreamParams}
    (h : NegotiateOutcome board d params s (.ok ()) t es) (hs : s.OnMaster board) :
    FollowsRates board [params.rate.hz] s es t := by
  have hnegotiated := h.negotiated
  cases h with
  | settled hplan hfollow =>
    refine ⟨rfl, ?_, ?_⟩
    · rw [hnegotiated, ClockDomain.OnMaster, hs]
      rfl
    · rw [Trace.fllSteps_append, fllSteps_of_plan hplan, List.nil_append, hfollow.fllSteps_eq hs]

end Outcomes

namespace Card

variable {H : Type} (dev : Device H)

theorem entry_followsRates {op : Operation} (hop : op.disturbsSyncPath = false) {c : Card} (h : H)
    (hc : c.clock.OnMaster c.board) :
    let e := op.entry dev c h
    (e.Negotiates → Trace.failures e.events = []) →
      FollowsRates c.board op.negotiatedRate?.toList c.clock e.events e.card.clock := by
  intro e haccepted
  by_cases hnegotiate : ∃ d params, op = .negotiate d params
  · obtain ⟨d, params, rfl⟩ := hnegotiate
    have hout := Operation.negotiateOutcome_of_accepted dev c h (haccepted ⟨d, params, rfl⟩)
    obtain ⟨hrate, hmaster, hsteps⟩ := hout.followsRates hc
    exact ⟨hrate, hmaster, (Trace.fllSteps_steps _).symm.trans hsteps⟩
  · have hne : ∀ d params, op ≠ .negotiate d params := fun d params heq =>
      hnegotiate ⟨d, params, heq⟩
    have hrate : e.card.clock.rate = c.clock.rate :=
      (entry_domainMove dev op c h).2.rate_eq fun d params heq =>
        hne d params (Operation.eq_negotiate_of_clockTask? heq)
    have hnone : op.negotiatedRate? = none := by
      cases op with
      | negotiate d params => exact (hne d params rfl).elim
      | _ => rfl
    obtain ⟨hsteps, hfll, -⟩ :=
      entry_keepsFll dev hop h (.inr hc) fun d params heq => (hne d params heq).elim
    rw [hnone]
    exact .of_kept hc hrate hfll hsteps

theorem play_followsRates :
    ∀ (ops : List Operation), (∀ op ∈ ops, op.disturbsSyncPath = false) →
      ∀ {c : Card} (h : H), c.clock.OnMaster c.board →
        let p := play dev ops c h
        (∀ e ∈ p.entries, e.Negotiates → Trace.failures e.events = []) →
          FollowsRates c.board (ops.filterMap Operation.negotiatedRate?) c.clock p.events
              p.card.clock ∧
            ∀ e ∈ p.entries, e.card.clock.OnMaster c.board
  | [], _, _, _, hc, _ => ⟨.of_kept hc rfl rfl rfl, fun _ he => by cases he⟩
  | op :: ops, hops, c, h, hc, haccepted => by
    obtain ⟨hop, hrest⟩ := List.forall_mem_cons.1 hops
    obtain ⟨hone, hothers⟩ := List.forall_mem_cons.1 haccepted
    have hfirst := entry_followsRates dev hop h hc hone
    obtain ⟨hboard, -⟩ := entry_domainMove dev op c h
    have hc' : (op.entry dev c h).card.clock.OnMaster (op.entry dev c h).card.board := by
      rw [hboard]
      exact hfirst.onMaster
    obtain ⟨hfollows, hentries⟩ := play_followsRates ops hrest _ hc' hothers
    rw [hboard] at hfollows hentries
    refine ⟨?_, List.forall_mem_cons.2 ⟨hfirst.onMaster, hentries⟩⟩
    have hrates : (op :: ops).filterMap Operation.negotiatedRate? =
        op.negotiatedRate?.toList ++ ops.filterMap Operation.negotiatedRate? := by
      rw [List.filterMap_cons]
      rcases op.negotiatedRate? with _ | rate <;> rfl
    rw [events_play_cons, hrates]
    exact hfirst.trans hfollows

/-- From every state reached with FLL1 on the master clock, rates are negotiated without a failure,
and between the negotiations comes anything that does not move the receive path or stop FLL1. FLL1
stays on the master clock at the SYSCLK of the rate on record, which ends as the rate negotiated
last. All that concerns FLL1 is a new lock wherever two neighbours in the list of rates, from the
one on record on, have different SYSCLKs: both paths are disabled, and then the main path is armed
and given its time. So there are as many calls that arm a path, and as many waits, as there are such
neighbours, and the main path ends at the SYSCLK of the last rate, or where it was if there are
none. -/
theorem play_relocks (board : Board) (ops more : List Operation)
    (hmore : ∀ op ∈ more, op.disturbsSyncPath = false) (h : H) :
    let p := play dev ops (initial board) h
    let q := play dev more p.card p.hardware
    let rates := more.filterMap Operation.negotiatedRate?
    let last := rates.getLastD p.card.clock.rate
    let changes := familyChanges board (p.card.clock.rate :: rates)
    p.card.clock.fll.isMaster = true →
      (∀ e ∈ q.entries, e.Negotiates → Trace.failures e.events = []) →
        (∀ e ∈ q.entries, e.card.clock.fll = .master (board.sysclk e.card.clock.rate)) ∧
        q.card.clock.rate = last ∧ q.card.clock.fll = .master (board.sysclk last) ∧
        Trace.fllSteps q.events =
          changes.flatMap (fun change => relockSteps board (board.sysclk change.2)) ∧
        q.events.countP Event.arms = changes.length ∧
        q.events.countP Event.isWait = changes.length ∧
        ∀ k : CodecClocks, (k.replay q.events).main =
          if changes = [] then k.main else some ⟨.mclk1, board.sysclk last⟩ := by
  intro p q rates last changes hmaster haccepted
  obtain ⟨hboard, -, hrate⟩ := play_masterLock dev board ops h
  have hstart : p.card.clock.OnMaster p.card.board := by
    rw [hboard]
    exact hrate.onMaster hmaster
  obtain ⟨hfollows, hentries⟩ := play_followsRates dev more hmore p.hardware hstart haccepted
  rw [hboard] at hfollows hentries
  have hlast : q.card.clock.rate = last := hfollows.rate
  have hfll : q.card.clock.fll = .master (board.sysclk last) := by
    rw [← hlast]
    exact hfollows.onMaster
  refine ⟨hentries, hlast, hfll, hfollows.steps, ?_, ?_, hfollows.main_replay⟩
  · refine hfollows.countP_eq (fun e he => ?_) fun _ => rfl
    rcases e with ⟨c | c | ratio, f⟩ | us | line
    · cases c with
      | setFll path input fref fout => rfl
      | _ => cases he
    all_goals cases he
  · refine hfollows.countP_eq (fun e he => ?_) fun _ => rfl
    cases e with
    | wait us => rfl
    | _ => cases he

/-- A first attempt to follow 48 kHz fails and leaves FLL1 on record at 45.1584 MHz. Then streams go
from 88.2 kHz to 48 kHz and, after one was let go of though SYSCLK could not be gated, to 44.1 kHz:
FLL1 is locked anew twice, and neither for 88.2 kHz nor as the codec is prepared. -/
theorem play_relocks_twice :
    let dev := Scripted.device (.ofFaults
      [{ first := 8, failure := .bus }, { first := 23, failure := .unsupported }])
    let at48 : StreamParams := ⟨⟨48000, by decide, by decide⟩, .s16⟩
    let ops : List Operation := [.startClock, .negotiate .capture at48]
    let more : List Operation := [.negotiate .playback ⟨⟨88200, by decide, by decide⟩, .s24⟩,
      .changeBias .codec .standby .prepare, .negotiate .playback at48, .freeStream .playback,
      .openStream .capture ⟨none⟩, .negotiate .capture ⟨⟨44100, by decide, by decide⟩, .s32⟩]
    let p := play dev ops (initial {}) {}
    let q := play dev more p.card p.hardware
    (∀ op ∈ more, op.disturbsSyncPath = false) ∧ p.card.clock.fll.isMaster = true ∧
      (∀ e ∈ q.entries, e.Negotiates → Trace.failures e.events = []) ∧
      Trace.failures q.events = [(.codec .gateSysclk, .unsupported)] ∧
      q.card.clock.fll = .master 45158400 ∧
      Trace.fllSteps q.events = relockSteps {} 49152000 ++ relockSteps {} 45158400 ∧
      q.events.countP Event.arms = 2 ∧ q.events.countP Event.isWait = 2 := by
  intro dev at48 ops more p q
  have hmore : ∀ op ∈ more, op.disturbsSyncPath = false := by decide
  have hmaster : p.card.clock.fll.isMaster = true := by decide
  have hfailed : ∀ e ∈ q.entries,
      e.operation = .freeStream .playback ∨ Trace.failures e.events = [] := by decide
  have hfailures : Trace.failures q.events = [(.codec .gateSysclk, .unsupported)] := by decide
  have haccepted : ∀ e ∈ q.entries, e.Negotiates → Trace.failures e.events = [] := by
    rintro e he ⟨d, params, hnegotiate⟩
    rcases hfailed e he with hfree | haccepted
    · rw [hnegotiate] at hfree
      cases hfree
    · exact haccepted
  have hmain := play_relocks dev {} ops more hmore {}
  extract_lets rates last changes at hmain
  have hchanges : changes = [(88200, 48000), (48000, 44100)] := by decide
  have hlast : last = 44100 := by decide
  have h11k : Board.sysclk {} 44100 = 45158400 := by decide
  have h4k : Board.sysclk {} 48000 = 49152000 := by decide
  obtain ⟨-, -, hfll, hsteps, harms, hwaits, -⟩ := hmain hmaster haccepted
  rw [hlast, h11k] at hfll
  rw [hchanges, List.flatMap_cons, List.flatMap_singleton, h11k, h4k] at hsteps
  rw [hchanges] at harms hwaits
  exact ⟨hmore, hmaster, haccepted, hfailures, hfll, hsteps, harms, hwaits⟩

end Card

end SoundCard
