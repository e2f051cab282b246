import SoundCard.Proofs.DomainMoves
import SoundCard.Scripted

/-!
# The lock to the master clock

While the receive path is up, FLL1 is never on record as locked to the master clock
(`Card.play_exclusive`); while it is so on record, it is at the SYSCLK of the rate negotiated last.
Starting the clock has then nothing left to do, nor has it once it succeeded
(`Card.play_starts_settle`).
-/

namespace SoundCard

open Clock SoundCard.Action

section Invariants

variable {board : Board} {s t : ClockDomain}

def ClockDomain.Exclusive (s : ClockDomain) : Prop :=
  s.syncPath = true → s.fll.isMaster = false

/-- A lock to the master clock is at the SYSCLK of the rate on record. -/
def ClockDomain.MasterAtRate (board : Board) (s : ClockDomain) : Prop :=
  ∀ hz, s.fll = .master hz → hz = board.sysclk s.rate

/-- FLL1 runs from the master clock at the SYSCLK of the rate on record. -/
def ClockDomain.OnMaster (board : Board) (s : ClockDomain) : Prop :=
  s.fll = .master (board.sysclk s.rate)

theorem ClockDomain.MasterAtRate.onMaster (hs : s.MasterAtRate board)
    (hmaster : s.fll.isMaster = true) : s.OnMaster board := by
  rcases hfll : s.fll with _ | hz | hz
  · simp [hfll, FllMode.isMaster] at hmaster
  · rw [OnMaster, hfll, hs hz hfll]
  · simp [hfll, FllMode.isMaster] at hmaster

variable {task : Option ClockTask}

/-- An attempt that fails leaves FLL1 off, which is no lock to the master clock. A negotiation does
not look at the receive path, but FLL1 follows its rate only from the master clock. -/
theorem DomainMove.exclusive (h : DomainMove board s task t) (hs : s.Exclusive) :
    t.Exclusive := by
  intro ht
  cases h with
  | idle _ | dropped d => exact hs ht
  | stopped _ | refused _ | raised => rfl
  | started hpath =>
    have hup : s.syncPath = true := ht
    simp [hpath] at hup
  | lowered => cases ht
  | negotiated d params =>
    rw [FllMode.isMaster_retuned]
    exact hs ht

theorem DomainMove.masterAtRate (h : DomainMove board s task t) (hs : s.MasterAtRate board) :
    t.MasterAtRate board := by
  intro hz ht
  cases h with
  | idle _ | lowered | dropped d => exact hs hz ht
  | stopped _ | refused _ | raised => cases ht
  | started _ => cases ht; rfl
  | negotiated d params => exact FllMode.eq_of_retuned_eq_master ht

end Invariants

section Starts

def Operation.Starts (op : Operation) : Prop := op.clockTask? = some .start

/-- Starting the clock has nothing to do: FLL1 belongs to the receive path, or runs from the master
clock at the SYSCLK of the rate on record. -/
def ClockDomain.Started (board : Board) (s : ClockDomain) : Prop :=
  s.syncPath = true ∨ s.fll = .master (board.sysclk s.rate)

variable {board : Board} {s t : ClockDomain} {r : Except CardError Unit} {es : List Event}

theorem Clock.StartOutcome.started (h : StartOutcome board s (.ok ()) t es) :
    t.Started board := by
  cases h with
  | owned hpath => exact .inl hpath
  | running hmaster => exact .inr hmaster
  | tried _ _ h => rw [h.locked]; exact .inr rfl

theorem Clock.StartOutcome.idle (h : StartOutcome board s r t es) (hs : s.Started board) :
    r = .ok () ∧ t = s ∧ es = [] := by
  cases h with
  | owned _ | running _ => exact ⟨rfl, rfl, rfl⟩
  | tried hpath hmaster _ =>
    rcases hs with hup | hlocked
    · simp [hpath] at hup
    · exact (hmaster hlocked).elim

theorem ClockDomain.MasterAtRate.started (hs : s.MasterAtRate board)
    (hmaster : s.fll.isMaster = true) : s.Started board :=
  .inr (hs.onMaster hmaster)

namespace Operation.Starts

variable {op : Operation}

theorem report_eq (hop : op.Starts) (r : Except CardError Unit) :
    op.report r = r.map fun _ => .unit := by
  cases op with
  | startClock | changeBias _ _ _ => rfl
  | biasChanged domain level => simp [Starts, clockTask?] at hop
  | widgetPower widget event => cases event <;> simp [Starts, clockTask?] at hop
  | _ => cases hop

theorem ensures (hop : op.Starts) (c : Card) :
    op.perform.Ensures c fun r c' es => ∃ r' t, StartOutcome c.board c.clock r' t es ∧
      c' = { c with clock := t } ∧ r = r'.map fun _ => .unit := by
  refine (ensures_task hop c).mono fun r c' es h => ?_
  obtain ⟨r', t, hout, hc, hr⟩ := h
  exact ⟨r', t, hout, hc, hr.trans (hop.report_eq r')⟩

end Operation.Starts

end Starts

namespace Card

variable {H : Type} (dev : Device H)

/-- The operations all succeed, without a call or a wait, and leave the card and the hardware as
they were. -/
def Silent (ops : List Operation) (c : Card) : Prop :=
  ∀ h, let p := play dev ops c h
    (∀ e ∈ p.entries, e.result = .ok .unit) ∧ Trace.steps p.events = [] ∧
      p.card = c ∧ p.hardware = h

variable {c : Card} {op : Operation}

theorem silent_nil : Silent dev [] c := by
  intro h
  refine ⟨fun e he => ?_, rfl, rfl, rfl⟩
  cases he

theorem silent_cons {ops : List Operation}
    (hop : op.perform.Ensures c fun r c' es => r = .ok .unit ∧ c' = c ∧ es = [])
    (hops : Silent dev ops c) : Silent dev (op :: ops) c := by
  intro h
  obtain ⟨hr, hc, hes⟩ := hop.run dev h
  have hh : ((op.perform c).run dev h).hardware = h := Program.hardware_run_of_steps_nil dev hes
  obtain ⟨hresults, hsteps, hcard, hhard⟩ := hops h
  simp only [play, Played.events, List.flatMap_cons, hc, hh, Trace.steps_append, hes,
    List.nil_append]
  exact ⟨List.forall_mem_cons.2 ⟨hr, hresults⟩, hsteps, hcard, hhard⟩

theorem silent_starts (hc : c.clock.Started c.board) :
    ∀ starts : List Operation, (∀ op ∈ starts, op.Starts) → Silent dev starts c
  | [], _ => silent_nil dev
  | op :: starts, hstarts => by
    obtain ⟨hop, hrest⟩ := List.forall_mem_cons.1 hstarts
    refine silent_cons dev ((hop.ensures c).mono fun r c' es h => ?_)
      (silent_starts hc starts hrest)
    obtain ⟨r', t, hout, hc', hr⟩ := h
    obtain ⟨rfl, rfl, rfl⟩ := hout.idle hc
    exact ⟨hr, hc', rfl⟩

theorem started_of_ok (hop : op.Starts) (h : H)
    (hok : (op.entry dev c h).result = .ok .unit) :
    (op.entry dev c h).card.clock.Started (op.entry dev c h).card.board := by
  obtain ⟨hout, hcard⟩ := outcome_of_ok dev hop hop.report_eq c h hok
  rw [hcard]
  exact StartOutcome.started hout

section Histories

variable (board : Board)

/-- Both invariants hold in every state reached. -/
theorem play_masterLock (ops : List Operation) (h : H) :
    (play dev ops (initial board) h).card.board = board ∧
      (play dev ops (initial board) h).card.clock.Exclusive ∧
      (play dev ops (initial board) h).card.clock.MasterAtRate board := by
  refine play_domain dev (fun s => s.Exclusive ∧ s.MasterAtRate board)
    (fun hmove hs => ⟨hmove.exclusive hs.1, hmove.masterAtRate hs.2⟩) ops h
    ⟨rfl, fun _ => rfl, fun hz hoff => ?_⟩
  cases hoff

/-- In every state reached, the receive path and a lock to the master clock exclude each other. -/
theorem play_exclusive (ops : List Operation) (h : H) :
    let p := play dev ops (initial board) h
    p.card.clock.syncPath = true → p.card.clock.fll.isMaster = false :=
  (play_masterLock dev board ops h).2.1

/-- FLL1 runs from the master clock when the receive path comes up, and is stopped although a
disable fails; starting the clock does not bring the lock to the master clock back. -/
theorem play_exclusive_past_stop :
    let p := play (Scripted.device (.ofFaults [{ first := 7, failure := .bus }]))
      [.startClock, .widgetPower Graph.receiveWidget .afterUp, .stopClock, .startClock]
      (initial {}) {}
    p.card.clock.syncPath = true ∧ p.card.clock.fll.isMaster = false := by
  intro p
  have hpath : p.card.clock.syncPath = true := by decide
  exact ⟨hpath, play_exclusive _ {} _ _ hpath⟩

/-- In every state reached, a lock to the master clock on record is at the SYSCLK of the rate on
record, and starting the clock once more is silent; so is every start after one that succeeded. -/
theorem play_starts_settle (ops : List Operation) (h : H) :
    let p := play dev ops (initial board) h
    (∀ hz, p.card.clock.fll = .master hz → hz = board.sysclk p.card.clock.rate) ∧
      ∀ starts : List Operation, (∀ op ∈ starts, op.Starts) →
        (p.card.clock.fll.isMaster = true → Silent dev starts p.card) ∧
          ∀ op : Operation, op.Starts →
            (op.entry dev p.card p.hardware).result = .ok .unit →
            Silent dev starts (op.entry dev p.card p.hardware).card := by
  intro p
  obtain ⟨hboard, -, hrate⟩ := play_masterLock dev board ops h
  refine ⟨hrate, fun starts hstarts => ⟨fun hmaster => ?_, fun op hop hok => ?_⟩⟩
  · have hstarted : p.card.clock.Started p.card.board := by
      rw [hboard]
      exact hrate.started hmaster
    exact silent_starts dev hstarted starts hstarts
  · exact silent_starts dev (started_of_ok dev hop p.hardware hok) starts hstarts

/-- FLL1 runs at 45.1584 MHz and cannot be stopped to follow a stream at 48 kHz, so the rate on
record stays as well; the clock is started again, by itself and with the codec's power. So it is on
a card that was just attached, once its clock has been started. -/
theorem play_starts_settle_past_failed_follow :
    let dev := Scripted.device (.ofFaults [{ first := 8, failure := .bus }])
    let ops : List Operation :=
      [.startClock, .negotiate .capture ⟨⟨48000, by decide, by decide⟩, .s24⟩]
    let starts : List Operation := [.startClock, .changeBias .codec .standby .prepare]
    let p := play dev ops (initial {}) {}
    let e := Operation.startClock.entry dev (initial {}) {}
    (p.card.clock.fll = .master 45158400 ∧ 45158400 = Board.sysclk {} p.card.clock.rate) ∧
      Silent dev starts p.card ∧ e.result = .ok .unit ∧ Silent dev starts e.card := by
  intro dev ops starts
  have hstarts : ∀ op ∈ starts, op.Starts := by
    intro op hop
    simp only [starts, List.mem_cons, List.not_mem_nil, or_false] at hop
    rcases hop with rfl | rfl <;> rfl
  have hfll : (play dev ops (initial {}) {}).card.clock.fll = .master 45158400 := by decide
  have hmaster : (play dev ops (initial {}) {}).card.clock.fll.isMaster = true := by
    rw [hfll]
    rfl
  have hok : (Operation.startClock.entry dev (initial {}) {}).result = .ok .unit := rfl
  obtain ⟨hrate, hsilent⟩ := play_starts_settle dev {} ops {}
  have hagain := (hsilent starts hstarts).1 hmaster
  obtain ⟨-, hattached⟩ := play_starts_settle dev {} [] {}
  have hafter := (hattached starts hstarts).2 .startClock rfl hok
  exact ⟨⟨hfll, hrate 45158400 hfll⟩, hagain, hok, hafter⟩

end Histories

end Card

end SoundCard
