import SoundCard.Proofs.FllMoves
import SoundCard.Proofs.MasterLock

/-!
# FLL1 while the receive path is up

While the receive path is up FLL1 belongs to it. Negotiating a stream looks at what FLL1 runs from
and not at the path, so this rests on the two excluding each other: FLL1 does not run from the
master clock, and nothing follows a rate from anywhere else. Only an operation that moves the path,
or stops FLL1 in any case, disturbs it (`Card.play_sync_owned`).
-/

namespace SoundCard

open Clock

namespace Operation

/-- The operation moves the receive path, or stops FLL1 whatever it runs from. -/
def disturbsSyncPath : Operation → Bool
  | .setUpCodec | .stopClock | .raiseSyncPath | .lowerSyncPath => true
  | .biasChanged domain level => domain = .codec && level = .standby
  | .widgetPower widget .afterUp | .widgetPower widget .afterDown => widget = Graph.receiveWidget
  | _ => false

variable {op : Operation} {task : ClockTask}

theorem clockTask?_of_not_disturbs (hop : op.disturbsSyncPath = false)
    (htask : op.clockTask? = some task) :
    (∃ d params, task = .negotiate d params) ∨ (∃ d, task = .drop d) ∨ task = .start := by
  cases op with
  | negotiate d params => exact .inl ⟨d, params, (Option.some.inj htask).symm⟩
  | freeStream d | dropStream d => exact .inr (.inl ⟨d, (Option.some.inj htask).symm⟩)
  | startClock => exact .inr (.inr (Option.some.inj htask).symm)
  | changeBias domain current target =>
    simp only [clockTask?, Option.ite_none_right_eq_some, Option.some.injEq] at htask
    exact .inr (.inr htask.2.symm)
  | biasChanged domain level => simp_all [clockTask?, disturbsSyncPath]
  | widgetPower widget event => cases event <;> simp_all [clockTask?, disturbsSyncPath]
  | setUpCodec | stopClock | raiseSyncPath | lowerSyncPath => cases hop
  | _ => cases htask

end Operation

section Outcomes

variable {board : Board} {rate : Hz} {s t : ClockDomain} {r : Except CardError Unit}
  {es : List Event}

/-- What an operation leaves alone of FLL1 and of the path it may belong to. -/
def KeepsFll (s t : ClockDomain) (es : List Event) : Prop :=
  Trace.fllSteps es = [] ∧ t.fll = s.fll ∧ t.syncPath = s.syncPath

theorem Clock.FollowOutcome.idle_of_not_master (h : FollowOutcome board rate s r t es)
    (hs : s.fll.isMaster = false) : t = s ∧ es = [] := by
  cases h with
  | idle _ => exact ⟨rfl, rfl⟩
  | tried hmaster _ _ => simp [hmaster, FllMode.isMaster] at hs

theorem NegotiateOutcome.keepsFll {d : Direction} {params : StreamParams}
    (h : NegotiateOutcome board d params s r t es) (hs : s.fll.isMaster = false) :
    KeepsFll s t es := by
  cases h with
  | refused hplan => exact ⟨fllSteps_of_plan hplan, rfl, rfl⟩
  | stuck hplan h | settled hplan h =>
    obtain ⟨rfl, rfl⟩ := h.idle_of_not_master hs
    exact ⟨by rw [List.append_nil, fllSteps_of_plan hplan], rfl, rfl⟩

theorem Clock.DropOutcome.keepsFll {d : Direction} (h : DropOutcome d s r t es) :
    KeepsFll s t es := by
  cases h <;> exact ⟨rfl, rfl, rfl⟩

theorem Clock.StartOutcome.keepsFll (h : StartOutcome board s r t es) (hs : s.Started board) :
    KeepsFll s t es := by
  obtain ⟨-, rfl, rfl⟩ := h.idle hs
  exact ⟨rfl, rfl, rfl⟩

/-- An operation that does not disturb the receive path leaves FLL1 alone where the clock is
started, unless it negotiates and FLL1 runs from the master clock. -/
theorem Operation.ClockOutcome.keepsFll {op : Operation} {c c' : Card}
    {r : Except CardError Answer} (h : op.ClockOutcome c r c' es)
    (hop : op.disturbsSyncPath = false) (hstarted : c.clock.Started c.board)
    (hnegotiate : ∀ d params, op = .negotiate d params → c.clock.fll.isMaster = false) :
    KeepsFll c.clock c'.clock es := by
  cases h with
  | quiet _ hc hes =>
    simp only [Card.clockSide, Prod.mk.injEq] at hc
    rw [hc.2]
    exact ⟨Trace.fllSteps_of_clockSteps_nil hes, rfl, rfl⟩
  | task htask h =>
    rcases clockTask?_of_not_disturbs hop htask with ⟨d, params, rfl⟩ | ⟨d, rfl⟩ | rfl
    · exact NegotiateOutcome.keepsFll h (hnegotiate d params (eq_negotiate_of_clockTask? htask))
    · exact DropOutcome.keepsFll h
    · exact StartOutcome.keepsFll h hstarted

end Outcomes

namespace Card

variable {H : Type} (dev : Device H)

theorem entry_keepsFll {op : Operation} (hop : op.disturbsSyncPath = false) {c : Card} (h : H)
    (hstarted : c.clock.Started c.board)
    (hnegotiate : ∀ d params, op = .negotiate d params → c.clock.fll.isMaster = false) :
    KeepsFll c.clock (op.entry dev c h).card.clock (op.entry dev c h).events := by
  have hkeeps := ((op.perform_ensures c).run dev h).keepsFll hop hstarted hnegotiate
  rwa [KeepsFll, Trace.fllSteps_steps] at hkeeps

theorem play_keepsFll :
    ∀ (ops : List Operation), (∀ op ∈ ops, op.disturbsSyncPath = false) →
      ∀ {c : Card} (h : H), c.clock.syncPath = true → c.clock.Exclusive →
        let p := play dev ops c h
        Trace.fllSteps p.events = [] ∧
          ∀ e ∈ p.entries, e.card.clock.fll = c.clock.fll ∧ e.card.clock.syncPath = true
  | [], _, _, _, _, _ => ⟨rfl, fun _ he => by cases he⟩
  | op :: ops, hops, c, h, hpath, hexclusive => by
    obtain ⟨hop, hrest⟩ := List.forall_mem_cons.1 hops
    obtain ⟨hsteps, hfll, hup⟩ :=
      entry_keepsFll dev hop h (.inl hpath) fun _ _ _ => hexclusive hpath
    have hpath' := hup.trans hpath
    have hexclusive' : (op.entry dev c h).card.clock.Exclusive := by
      intro _
      rw [hfll]
      exact hexclusive hpath
    obtain ⟨hsteps', hkept⟩ := play_keepsFll ops hrest
      ((op.perform c).run dev h).hardware hpath' hexclusive'
    refine ⟨?_, List.forall_mem_cons.2 ⟨⟨hfll, hpath'⟩, fun e he => ?_⟩⟩
    · rw [events_play_cons, Trace.fllSteps_append, hsteps, hsteps']
      rfl
    · exact ⟨(hkept e he).1.trans hfll, (hkept e he).2⟩

/-- From every state reached with the receive path up, as long as no operation moves the path or
stops FLL1 in any case, there is no call on FLL1, accepted or not, and no time for it to settle;
FLL1 stays on record as it was, and the path up. -/
theorem play_sync_owned (board : Board) (ops more : List Operation)
    (hmore : ∀ op ∈ more, op.disturbsSyncPath = false) (h : H) :
    let p := play dev ops (initial board) h
    let q := play dev more p.card p.hardware
    p.card.clock.syncPath = true →
      Trace.fllSteps q.events = [] ∧
        ∀ e ∈ q.entries, e.card.clock.fll = p.card.clock.fll ∧ e.card.clock.syncPath = true := by
  intro p q hpath
  exact play_keepsFll dev more hmore p.hardware hpath (play_masterLock dev board ops h).2.1

/-- The receive path comes up at 44.1 kHz. A stream at 48 kHz is refused its SYSCLK, then is given
it; the codec is prepared, and the stream goes again. -/
theorem play_sync_owned_other_family :
    let dev := Scripted.device (.ofFaults [{ first := 11, failure := .bus }])
    let params : StreamParams := ⟨⟨48000, by decide, by decide⟩, .s16⟩
    let ops : List Operation := [.startClock, .widgetPower Graph.receiveWidget .afterUp]
    let more : List Operation := [.negotiate .playback params, .negotiate .playback params,
      .changeBias .codec .standby .prepare, .biasChanged .codec .prepare, .freeStream .playback]
    let p := play dev ops (initial {}) {}
    let q := play dev more p.card p.hardware
    (∀ op ∈ more, op.disturbsSyncPath = false) ∧ p.card.clock.syncPath = true ∧
      Trace.failures q.events = [(.codec (.setSysclk 49152000), .bus)] ∧
      Trace.fllSteps q.events = [] ∧
      ∀ e ∈ q.entries, e.card.clock.fll = .recovered 45158400 ∧ e.card.clock.syncPath = true := by
  intro dev params ops more p q
  have hmore : ∀ op ∈ more, op.disturbsSyncPath = false := by decide
  have hpath : p.card.clock.syncPath = true := by decide
  have hfll : p.card.clock.fll = .recovered 45158400 := by decide
  have hfailures : Trace.failures q.events = [(.codec (.setSysclk 49152000), .bus)] := by decide
  obtain ⟨hsteps, hkept⟩ := play_sync_owned dev {} ops more hmore {} hpath
  rw [hfll] at hkept
  exact ⟨hmore, hpath, hfailures, hsteps, hkept⟩

end Card

end SoundCard
