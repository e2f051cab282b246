import Mathlib.Data.List.Induction
import SoundCard.Proofs.Compositional
import SoundCard.Proofs.DomainMoves
import SoundCard.Proofs.FirstFailure
import SoundCard.Proofs.TaskTraces
import SoundCard.Scripted

/-!
# The clocks of the transceiver

The PLL of the transceiver is programmed when the link to it is set up, for the default rate, and
when a stream is negotiated, unless its rate is too low for the PLL; nothing else touches it. So as
long as no call fails, the transmitter runs at the rate on record, where that is not too low, unless
the link was set up again since the last negotiation (`Card.play_transmits`).
-/

namespace SoundCard

open Clock SoundCard.Action

/-- What the transceiver was programmed with: the input and the output of its PLL, and what the
transmitter runs at from there. -/
structure TransceiverClocks where
  pll : Option (Hz × Hz) := none
  transmit : Option Hz := none
  deriving DecidableEq

/-- A call on the PLL, or one that runs the transmitter from it. -/
def Event.isPllStep : Event → Bool
  | .call (.transceiver (.setPll _ _)) _ | .call (.transceiver (.setClock .transmitPll _)) _ => true
  | _ => false

namespace Trace

/-- The steps that concern the PLL. -/
def pllSteps (es : List Event) : List Event := es.filter Event.isPllStep

@[simp] theorem pllSteps_append (es fs : List Event) :
    pllSteps (es ++ fs) = pllSteps es ++ pllSteps fs := List.filter_append ..

@[simp] theorem pllSteps_steps (es : List Event) : pllSteps (steps es) = pllSteps es :=
  filter_steps (fun _ => rfl) es

end Trace

namespace TransceiverClocks

/-- The clocks after an accepted call. -/
def accept (k : TransceiverClocks) : TransceiverCall → TransceiverClocks
  | .setPll fref fout => { k with pll := some (fref, fout) }
  | .setClock .transmitPll hz => { k with transmit := some hz }
  | .setClock .clkoutOscillator _ | .readRegister _ | .updateBits _ _ _ | .setMclkDivider _ => k

/-- The clocks after an event. -/
def after (k : TransceiverClocks) : Event → TransceiverClocks
  | .call (.transceiver c) none => k.accept c
  | _ => k

/-- The clocks a trace leaves, from those it found. -/
def replay (k : TransceiverClocks) (es : List Event) : TransceiverClocks := es.foldl after k

theorem replay_append (k : TransceiverClocks) (es fs : List Event) :
    k.replay (es ++ fs) = (k.replay es).replay fs := List.foldl_append

theorem replay_steps (k : TransceiverClocks) (es : List Event) :
    k.replay (Trace.steps es) = k.replay es := by
  induction es generalizing k with
  | nil => rfl
  | cons e es ih =>
    cases e with
    | call c f | wait us => exact ih _
    | log line => exact ih k

theorem after_of_not_isPllStep {e : Event} (he : e.isPllStep = false) (k : TransceiverClocks) :
    k.after e = k := by
  rcases e with ⟨c | c | ratio, _ | f⟩ | us | line
  · rfl
  · rfl
  · cases c with
    | setPll fref fout => cases he
    | setClock source hz => cases source with | transmitPll => cases he | clkoutOscillator => rfl
    | _ => rfl
  all_goals rfl

theorem replay_of_pllSteps_nil {es : List Event} (h : Trace.pllSteps es = [])
    (k : TransceiverClocks) : k.replay es = k := by
  induction es with
  | nil => rfl
  | cons e es ih =>
    have hall := List.filter_eq_nil_iff.1 h
    have he : e.isPllStep = false := by simpa using hall e List.mem_cons_self
    have hes : Trace.pllSteps es = [] :=
      List.filter_eq_nil_iff.2 fun e' he' => hall e' (List.mem_cons_of_mem _ he')
    rw [replay, List.foldl_cons, after_of_not_isPllStep he]
    exact ih hes

/-- The clocks as they are programmed for a rate. -/
def forRate (board : Board) (rate : Hz) : TransceiverClocks where
  pll := some (board.masterClock, scaled rate Transceiver.pllRatio)
  transmit := some (scaled rate Transceiver.pllRatio)

/-- The transmitter runs from the PLL at 256 clocks in a frame, and the PLL from the master clock of
the board. -/
def TransmitsAt (k : TransceiverClocks) (board : Board) (rate : Hz) : Prop :=
  ∃ mclk : Hz, mclk.toNat = 256 * rate.toNat ∧ k.pll = some (board.masterClock, mclk) ∧
    k.transmit = some mclk

/-- No product is cut off at a rate the converters support. -/
theorem toNat_pllOutput (rate : StreamRate) :
    (scaled rate.hz Transceiver.pllRatio).toNat = 256 * rate.hz.toNat := by
  have hrate : rate.hz.toNat ≤ 192000 := rate.upper
  have hratio : Transceiver.pllRatio.toNat = 256 := rfl
  rw [toNat_scaled_of_lt (by rw [hratio, UInt32.size]; omega), hratio, Nat.mul_comm]

theorem transmitsAt_forRate (board : Board) (rate : StreamRate) :
    (forRate board rate.hz).TransmitsAt board rate.hz := ⟨_, toNat_pllOutput rate, rfl, rfl⟩

end TransceiverClocks

/-- No block of steps on the clocks concerns the PLL. -/
theorem pllSteps_byBlocks (board : Board) {rate : Hz} :
    ByBlocks board rate fun es => Trace.pllSteps es = [] where
  nil := rfl
  append hes hfs := by rw [Trace.pllSteps_append, hes, hfs, List.append_nil]
  disable _ _ := rfl
  masterLock _ _ := rfl
  prime _ _ := rfl
  recoveredLock _ _ := rfl
  derive32k _ := rfl
  gateSysclk _ := rfl

/-- Of the changes of the clocks only a negotiation concerns the PLL. -/
theorem ClockTask.Outcome.pllSteps_nil {board : Board} {task : ClockTask} {s t : ClockDomain}
    {r : Except CardError Unit} {es : List Event} (h : task.Outcome board s r t es)
    (htask : ∀ d params, task ≠ .negotiate d params) : Trace.pllSteps es = [] :=
  h.byBlocks (pllSteps_byBlocks board) fun d params heq => (htask d params heq).elim

section Programming

open TransceiverClocks

/-- A plan that programs the PLL and was carried out. -/
theorem replay_pllPlan {board : Board} {rate : Hz} {es : List Event}
    (h : CallsInTurn (pllPlan board rate) (.ok ()) es) (k : TransceiverClocks) :
    k.replay es = forRate board rate := by
  rw [h.eq_of_ok]
  rfl

/-- A negotiation that succeeded programmed the PLL for its rate, unless that is too low. -/
theorem NegotiateOutcome.replay_of_ok {board : Board} {d : Direction} {params : StreamParams}
    {s t : ClockDomain} {es : List Event} (h : NegotiateOutcome board d params s (.ok ()) t es)
    (k : TransceiverClocks) :
    k.replay es = if Transceiver.minPllRate ≤ params.rate.hz then forRate board params.rate.hz
      else k := by
  cases h with
  | settled hplan h =>
    rw [replay_append, replay_of_pllSteps_nil (h.byBlocks (pllSteps_byBlocks board)),
      hplan.eq_of_ok, negotiationPlan, preludePlan]
    split
    · rfl
    · rfl

/-- The call that has MCLK at 256 clocks in a frame. -/
def selectMclk : Call := .transceiver (.setMclkDivider Transceiver.mclkDivider256)

/-- The call that routes the oscillator to CLKOUT. -/
def routeClkout : Call := .transceiver (.setClock .clkoutOscillator Transceiver.clkoutHz)

/-- How setting up the link to the transceiver ends: the divider was refused, or the PLL was
programmed for the default rate as far as that went. What came of the status before it and of CLKOUT
makes no difference. -/
inductive LinkSetUpOutcome (board : Board) : Except CardError Unit → List Event → Prop
  | refused {es : List Event} (f : Failure) : (∀ e ∈ es, e.Aside) →
    LinkSetUpOutcome board (.error (.hardware .mclkDivider f))
      (es ++ [.call selectMclk (some f)])
  | tried {r : Except CardError Unit} {es fs : List Event} (routed : Option Failure) :
    (∀ e ∈ es, e.Aside) → CallsInTurn (pllPlan board board.defaultRate) r fs →
    LinkSetUpOutcome board r
      (es ++ [.call selectMclk none, .call routeClkout routed] ++ fs)

theorem Card.setUpTransceiver_ensures (c : Card) :
    setUpTransceiver.Ensures c fun r _ es => LinkSetUpOutcome c.board r es := by
  have hload : Takes Event.Aside TransmitStatus.load :=
    TransmitStatus.load_of (compositional_takes _) fun _ => takes_perform _ fun f => .read _ f
  rw [setUpTransceiver, ensures_bind, ensures_state, then_ok, ensures_bind, ensures_attempt,
    onStatus, ensures_within]
  refine (hload c.status).mono fun _ status es hes => ?_
  have hpll := programPll_issues c.board.defaultRate { c with status }
  rw [then_ok, ensures_bind, ensures_logFailure, then_ok, ensures_bind, ensures_orLog]
  refine (ensures_perform _ _).2 ⟨fun _ => ?_, fun f => ?_⟩
  · rw [then_ok, ensures_bind, ensures_attempt]
    refine (ensures_perform _ _).2 ⟨fun _ => ?_, fun f => ?_⟩
    all_goals
      simp only [then_ok, ensures_bind, ensures_logFailure, ensures_orLog]
      refine hpll.mono ?_
    · rintro r _ fs ⟨-, hfs⟩
      simpa [selectMclk, routeClkout] using LinkSetUpOutcome.tried none hes hfs
    · rintro r _ fs ⟨-, hfs⟩
      simpa [selectMclk, routeClkout] using LinkSetUpOutcome.tried (some f) hes hfs
  · simpa [selectMclk] using LinkSetUpOutcome.refused f hes

/-- Where no call failed, the PLL is left programmed for the default rate. -/
theorem LinkSetUpOutcome.replay_of_accepted {board : Board} {r : Except CardError Unit}
    {es : List Event} (h : LinkSetUpOutcome board r es) (hfailures : Trace.failures es = [])
    (k : TransceiverClocks) : k.replay es = forRate board board.defaultRate := by
  cases h with
  | refused f _ => simp [Trace.failures, Event.failed?] at hfailures
  | @tried r es fs routed _ hplan =>
    rcases r with e | ⟨⟩
    · simp only [Trace.failures_append, List.append_eq_nil_iff] at hfailures
      exact (hplan.failures_of_error hfailures.2).elim
    · rw [replay_append]
      exact replay_pllPlan hplan _

end Programming

section Entries

/-- The operation set up the link to the transceiver. -/
def Entry.SetsUpTransceiver (e : Entry) : Prop := e.operation = .setUpTransceiver

def Entry.Negotiates (e : Entry) : Prop := ∃ d params, e.operation = .negotiate d params

theorem Event.Aside.not_isPllStep {e : Event} (h : e.Aside) : e.isPllStep = false := by
  cases h <;> rfl

theorem DomainMove.rate_eq {board : Board} {s t : ClockDomain} {task : Option ClockTask}
    (h : DomainMove board s task t) (htask : ∀ d params, task ≠ some (.negotiate d params)) :
    t.rate = s.rate := by
  cases h with
  | negotiated d params => exact (htask d params rfl).elim
  | _ => rfl

variable {H : Type} (dev : Device H) {op : Operation} (c : Card) (h : H)

/-- Only two operations concern the PLL. -/
theorem Entry.pllSteps_nil (hsetUp : op ≠ .setUpTransceiver)
    (hnegotiate : ∀ d params, op ≠ .negotiate d params) :
    Trace.pllSteps (op.entry dev c h).events = [] := by
  rw [← Trace.pllSteps_steps]
  rcases htask : op.clockTask? with _ | task
  · have haside := (Operation.takes_aside htask hsetUp c).run dev h
    refine List.filter_eq_nil_iff.2 fun e he => ?_
    simp [(haside e he).not_isPllStep]
  · obtain ⟨r, t, hout, -⟩ := (Operation.ensures_task htask c).run dev h
    refine hout.pllSteps_nil fun d params heq => ?_
    subst heq
    exact hnegotiate d params (Operation.eq_negotiate_of_clockTask? htask)

theorem Entry.linkSetUpOutcome :
    let e := Operation.setUpTransceiver.entry dev c h
    ∃ r, LinkSetUpOutcome c.board r (Trace.steps e.events) := by
  have hperform : Operation.setUpTransceiver.perform.Ensures c fun _ _ es =>
      ∃ r, LinkSetUpOutcome c.board r es :=
    ensures_answer.2 ((Card.setUpTransceiver_ensures c).mono fun r _ _ hout => ⟨r, hout⟩)
  exact hperform.run dev h

theorem Entry.setUpTransceiver_pll :
    let e := Operation.setUpTransceiver.entry dev c h
    Trace.failures e.events = [] → ∀ k : TransceiverClocks,
      k.replay e.events = .forRate c.board c.board.defaultRate := by
  intro e hfailures k
  obtain ⟨r, hout⟩ := Entry.linkSetUpOutcome dev c h
  rw [← TransceiverClocks.replay_steps]
  exact hout.replay_of_accepted ((Trace.failures_steps _).trans hfailures) k

/-- A negotiation none of whose calls failed records its rate, and programs the PLL for it unless it
is too low. -/
theorem Entry.negotiate_pll {d : Direction} {params : StreamParams} :
    let e := (Operation.negotiate d params).entry dev c h
    Trace.failures e.events = [] → ∀ k : TransceiverClocks,
      e.card.clock.rate = params.rate.hz ∧
        k.replay e.events = if Transceiver.minPllRate ≤ params.rate.hz then
          .forRate c.board params.rate.hz else k := by
  intro e hfailures k
  have hout := Operation.negotiateOutcome_of_accepted dev c h hfailures
  rw [← TransceiverClocks.replay_steps]
  exact ⟨congrArg ClockDomain.rate hout.negotiated, hout.replay_of_ok k⟩

/-- The PLL is programmed for the default rate where the link was set up last, and otherwise for
the rate on record, where that is not too low. -/
structure Card.PllFollows (c : Card) (setUpLast : Prop) (k : TransceiverClocks) : Prop where
  default : setUpLast → k = .forRate c.board c.board.defaultRate
  rate : ¬ setUpLast → Transceiver.minPllRate ≤ c.clock.rate → k = .forRate c.board c.clock.rate

theorem Entry.pllFollows {setUpLast : Prop} {k : TransceiverClocks}
    (hk : c.PllFollows setUpLast k) (hfailures : Trace.failures (op.entry dev c h).events = []) :
    let e := op.entry dev c h
    e.card.PllFollows (e.SetsUpTransceiver ∨ (setUpLast ∧ ¬ e.Negotiates)) (k.replay e.events) := by
  intro e
  obtain ⟨hboard, hmove⟩ := Card.entry_domainMove dev op c h
  by_cases hsetUp : op = .setUpTransceiver
  · subst hsetUp
    have hpll := (Entry.setUpTransceiver_pll dev c h) hfailures k
    exact ⟨fun _ => by rw [hboard]; exact hpll, fun hnot => (hnot (.inl rfl)).elim⟩
  by_cases hnegotiate : ∃ d params, op = .negotiate d params
  · obtain ⟨d, params, rfl⟩ := hnegotiate
    have hnot : ¬ (e.SetsUpTransceiver ∨ (setUpLast ∧ ¬ e.Negotiates)) := by
      rintro (hset | ⟨-, hkept⟩)
      · exact hsetUp hset
      · exact hkept ⟨d, params, rfl⟩
    obtain ⟨hrate, hpll⟩ := Entry.negotiate_pll dev c h hfailures k
    refine ⟨fun hlast => (hnot hlast).elim, fun _ hmin => ?_⟩
    rw [hboard, hrate]
    rw [hrate] at hmin
    exact hpll.trans (if_pos hmin)
  · have hne : ∀ d params, op ≠ .negotiate d params := fun d params heq =>
      hnegotiate ⟨d, params, heq⟩
    have hlast : (e.SetsUpTransceiver ∨ (setUpLast ∧ ¬ e.Negotiates)) ↔ setUpLast := by
      simp [Entry.SetsUpTransceiver, Entry.Negotiates, e, Operation.entry, hsetUp, hne]
    have hclocks : k.replay e.events = k :=
      TransceiverClocks.replay_of_pllSteps_nil (Entry.pllSteps_nil dev c h hsetUp hne) k
    have hrate : e.card.clock.rate = c.clock.rate := hmove.rate_eq fun d params heq =>
      hne d params (Operation.eq_negotiate_of_clockTask? heq)
    rw [hlast, hclocks]
    exact ⟨fun hset => by rw [hboard]; exact hk.default hset, fun hnot hmin => by
      rw [hboard, hrate]; exact hk.rate hnot (hrate ▸ hmin)⟩

end Entries

section Histories

variable {H : Type} (dev : Device H)

theorem Card.not_since_setUpTransceiver {ops : List Operation} (hops : .setUpTransceiver ∉ ops)
    {c : Card} {h : H} :
    ¬ Since Entry.SetsUpTransceiver Entry.Negotiates (play dev ops c h).entries :=
  not_since_of_forall fun _ he hset => hops (hset ▸ operation_of_mem_entries dev ops c h he)

theorem Card.since_setUpTransceiver (ops : List Operation) (c : Card) (h : H) :
    Since Entry.SetsUpTransceiver Entry.Negotiates
      (play dev (ops ++ [.setUpTransceiver]) c h).entries := by
  rw [play_concat, since_concat]
  exact .inl rfl

/-- As long as no call fails, the PLL follows the rate on record if it did at first. -/
theorem Card.play_pllFollows (ops : List Operation) {c : Card} (h : H) {k : TransceiverClocks}
    (hk : c.PllFollows False k) :
    let p := play dev ops c h
    Trace.failures p.events = [] →
      p.card.PllFollows (Since Entry.SetsUpTransceiver Entry.Negotiates p.entries)
        (k.replay p.events) := by
  induction ops using List.reverseRecOn with
  | nil =>
    intro p _
    have hnone : ¬ Since Entry.SetsUpTransceiver Entry.Negotiates p.entries := not_since_nil
    exact ⟨fun hlast => (hnone hlast).elim, fun _ => hk.rate not_false⟩
  | append_singleton ops op ih =>
    intro p hfailures
    have hevents := events_play_concat dev ops op c h
    rw [hevents, Trace.failures_append, List.append_eq_nil_iff] at hfailures
    have hlast := Entry.pllFollows dev _ _ (ih hfailures.1) hfailures.2
    rw [hevents, TransceiverClocks.replay_append]
    simp only [p, play_concat, since_concat]
    exact hlast

/-- Once the link is set up, the PLL is programmed for the default rate, which is on record. -/
theorem Card.play_setUp_pllFollows (board : Board) (h : H) (k : TransceiverClocks) :
    let p := play dev [.setUpTransceiver] (initial board) h
    Trace.failures p.events = [] → p.card.PllFollows False (k.replay p.events) := by
  intro p hfailures
  let e := Operation.setUpTransceiver.entry dev (initial board) h
  have hevents : p.events = e.events := List.append_nil _
  obtain ⟨hboard, hmove⟩ := entry_domainMove dev .setUpTransceiver (initial board) h
  have hrate : e.card.clock.rate = board.defaultRate := hmove.rate_eq nofun
  rw [hevents] at hfailures ⊢
  refine ⟨False.elim, fun _ _ => ?_⟩
  exact (Entry.setUpTransceiver_pll dev (initial board) h hfailures k).trans
    (congrArg₂ TransceiverClocks.forRate hboard hrate).symm

/-- The rate on record is the rate of the link, and one the converters support. -/
def ClockDomain.RateSupported (s : ClockDomain) : Prop :=
  s.linkRate = s.rate ∧ ∃ rate : StreamRate, s.rate = rate.hz

omit dev in
theorem DomainMove.rateSupported {board : Board} {s t : ClockDomain} {task : Option ClockTask}
    (h : DomainMove board s task t) (hs : s.RateSupported) : t.RateSupported := by
  cases h with
  | negotiated d params => exact ⟨rfl, params.rate, rfl⟩
  | _ => exact hs

/-- The link to the transceiver is set up on a card that was just attached, for a default rate that
the converters support, and no call fails. After every operation the link is at the rate on record.
Where that rate is not too low for the PLL, the PLL runs from the master clock at 256 times the rate
and the transmitter from the PLL, unless the link was set up again since the last negotiation: then
they run at 256 times the default rate. -/
theorem Card.play_transmits (board : Board) (default : StreamRate)
    (hdefault : board.defaultRate = default.hz) (ops : List Operation) (h : H)
    (k : TransceiverClocks) :
    let p := play dev [.setUpTransceiver] (initial board) h
    let q := play dev ops p.card p.hardware
    let k' := k.replay (p.events ++ q.events)
    let setUpLast := Since Entry.SetsUpTransceiver Entry.Negotiates q.entries
    Trace.failures (p.events ++ q.events) = [] →
      q.card.clock.linkRate = q.card.clock.rate ∧
        (setUpLast → k'.TransmitsAt board board.defaultRate) ∧
        (¬ setUpLast → Transceiver.minPllRate ≤ q.card.clock.rate →
          k'.TransmitsAt board q.card.clock.rate) := by
  intro p q k' setUpLast hfailures
  rw [Trace.failures_append, List.append_eq_nil_iff] at hfailures
  have hinitial : (ClockDomain.initial board).RateSupported := ⟨rfl, default, hdefault⟩
  have hp : p.card.board = board ∧ p.card.clock.RateSupported :=
    play_domain dev _ DomainMove.rateSupported [.setUpTransceiver] h ⟨rfl, hinitial⟩
  obtain ⟨hboard, hlink, rate, hrate⟩ := play_domain dev ClockDomain.RateSupported
    DomainMove.rateSupported ops p.hardware hp
  have hstart : p.card.PllFollows False (k.replay p.events) :=
    play_setUp_pllFollows dev board h k hfailures.1
  have hfollows := play_pllFollows dev ops p.hardware hstart hfailures.2
  rw [← TransceiverClocks.replay_append] at hfollows
  refine ⟨hlink, fun hlast => ?_, fun hnot hmin => ?_⟩
  · have hk' : k' = .forRate board default.hz := by
      rw [← hdefault, ← hboard]
      exact hfollows.default hlast
    rw [hk', hdefault]
    exact TransceiverClocks.transmitsAt_forRate board default
  · have hk' : k' = .forRate board rate.hz := by
      rw [← hrate, ← hboard]
      exact hfollows.rate hnot hmin
    rw [hk', hrate]
    exact TransceiverClocks.transmitsAt_forRate board rate

/-- A stream at 16 kHz leaves the PLL as it is, and the next one at 96 kHz has it follow; setting up
the link again takes it back to the default rate. -/
theorem Card.play_transmits_alternating :
    let dev := Scripted.device (.ofFaults [])
    let low : StreamParams := ⟨⟨16000, by decide, by decide⟩, .s16⟩
    let high : StreamParams := ⟨⟨96000, by decide, by decide⟩, .s24⟩
    let p := play dev [.setUpTransceiver] (initial {}) {}
    let q := play dev [.negotiate .capture low, .negotiate .playback high] p.card p.hardware
    let r := play dev [.negotiate .playback high, .setUpTransceiver] p.card p.hardware
    (Trace.failures (p.events ++ q.events) = [] ∧ q.card.clock.rate = 96000 ∧
        (TransceiverClocks.replay {} (p.events ++ q.events)).TransmitsAt {} 96000) ∧
      Trace.failures (p.events ++ r.events) = [] ∧ r.card.clock.rate = 96000 ∧
        (TransceiverClocks.replay {} (p.events ++ r.events)).TransmitsAt {} 44100 := by
  intro dev low high p q r
  have hq : Trace.failures (p.events ++ q.events) = [] := by decide
  have hr : Trace.failures (p.events ++ r.events) = [] := by decide
  have hrate : q.card.clock.rate = 96000 := by decide
  have hrate' : r.card.clock.rate = 96000 := by decide
  have hnot : ¬ Since Entry.SetsUpTransceiver Entry.Negotiates q.entries :=
    not_since_setUpTransceiver dev (by decide)
  have hlast : Since Entry.SetsUpTransceiver Entry.Negotiates r.entries :=
    since_setUpTransceiver dev [.negotiate .playback high] p.card p.hardware
  let default : StreamRate := ⟨44100, by decide, by decide⟩
  obtain ⟨-, -, hfollows⟩ := play_transmits dev {} default rfl
    [.negotiate .capture low, .negotiate .playback high] {} {} hq
  obtain ⟨-, hreset, -⟩ := play_transmits dev {} default rfl
    [.negotiate .playback high, .setUpTransceiver] {} {} hr
  have hhigh := hfollows hnot (by rw [hrate]; decide)
  rw [hrate] at hhigh
  exact ⟨⟨hq, hrate, hhigh⟩, hr, hrate', hreset hlast⟩

/-- The link is set up again after a stream at 48 kHz was negotiated, and no call fails: the
transmitter is back at 256 times 44.1 kHz, and 48 kHz stays on record. -/
theorem Card.play_transmits_reset :
    let p := play (Scripted.device (.ofFaults []))
      [.setUpTransceiver, .negotiate .playback ⟨⟨48000, by decide, by decide⟩, .s16⟩,
        .setUpTransceiver] (initial {}) {}
    let k := TransceiverClocks.replay {} p.events
    Trace.failures p.events = [] ∧ p.card.clock.rate = 48000 ∧
      k = ⟨some (12000000, 11289600), some 11289600⟩ ∧ ¬ k.TransmitsAt {} 48000 := by
  intro p k
  have hk : k = ⟨some (12000000, 11289600), some 11289600⟩ := by decide
  refine ⟨by decide, by decide, hk, ?_⟩
  rintro ⟨mclk, hmclk, -, htransmit⟩
  rw [hk] at htransmit
  obtain rfl : 11289600 = mclk := Option.some.inj htransmit
  cases hmclk

end Histories

end SoundCard
