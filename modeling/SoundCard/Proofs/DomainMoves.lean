import SoundCard.Proofs.Tasks

/-!
# What an operation does to the clock domain

Whatever an operation is, and whichever of its calls fail, it changes the clock domain in one of the
few ways that `DomainMove` lists (`Operation.ClockOutcome.domainMove`). What holds of the clock
domain over a history is shown from these ways alone (`Card.play_domain`).
-/

namespace SoundCard

open Clock

namespace FllMode

/-- FLL1 follows a new SYSCLK where it runs from the master clock, and nowhere else. -/
def retuned (hz : Hz) : FllMode → FllMode
  | .off => .off
  | .master _ => .master hz
  | .recovered current => .recovered current

variable {m : FllMode} {hz f : Hz}

@[simp] theorem isMaster_retuned : (m.retuned hz).isMaster = m.isMaster := by
  cases m <;> rfl

theorem eq_of_retuned_eq_master (h : m.retuned hz = .master f) : f = hz := by
  cases m <;> simp_all [retuned]

@[simp] theorem retuned_eq_recovered : m.retuned hz = .recovered f ↔ m = .recovered f := by
  cases m <;> simp [retuned]

@[simp] theorem retuned_eq_off : m.retuned hz = .off ↔ m = .off := by
  cases m <;> simp [retuned]

theorem retuned_of_agrees (h : ∀ current, m = .master current → current = hz) :
    m.retuned hz = m := by
  cases m with
  | master current => rw [h current rfl]; rfl
  | off | recovered current => rfl

theorem hz?_retuned_of_ne (hne : f ≠ hz) : (m.retuned hz).hz? = some f ↔ m = .recovered f := by
  cases m <;> simp [retuned, hz?, hne.symm]

end FllMode

/-- The changes that stop FLL1 whatever it runs from. -/
def ClockTask.stops : ClockTask → Bool
  | .setUp | .stop | .raise => true
  | .negotiate _ _ | .drop _ | .start | .lower => false

/-- The ways an operation may change the clock domain, by the task it comes to. -/
inductive DomainMove (board : Board) (s : ClockDomain) : Option ClockTask → ClockDomain → Prop
  | idle (task : Option ClockTask) : DomainMove board s task s
  | stopped {task : ClockTask} (htask : task.stops = true) :
    DomainMove board s (some task) { s with fll := .off }
  /-- FLL1 was to be locked to the master clock, which happens only where the receive path is down
  or FLL1 runs from that clock already. -/
  | refused {task : ClockTask} (hpath : s.syncPath = true → s.fll.isMaster = true) :
    DomainMove board s (some task) { s with fll := .off }
  | started (hpath : s.syncPath = false) :
    DomainMove board s (some .start) { s with fll := .master (board.sysclk s.rate) }
  | raised : DomainMove board s (some .raise)
      { s with syncPath := true, fll := .recovered (board.sysclk s.rate) }
  | lowered : DomainMove board s (some .lower) { s with syncPath := false }
  | negotiated (d : Direction) (params : StreamParams) :
    DomainMove board s (some (.negotiate d params))
      { s with
        rate := params.rate.hz, linkRate := params.rate.hz, streams := s.streams.insert d
        fll := s.fll.retuned (board.sysclk params.rate.hz) }
  | dropped (d : Direction) :
    DomainMove board s (some (.drop d)) { s with streams := s.streams.erase d }

section Outcomes

variable {board : Board} {rate : Hz} {s t : ClockDomain} {r : Except CardError Unit}
  {es : List Event}

theorem Clock.DisableOutcome.eq_or_off (h : DisableOutcome s r t es) :
    t = s ∨ t = { s with fll := .off } := by
  cases h with
  | disabled => exact .inr rfl
  | mainFailed _ _ | referenceFailed _ => exact .inl rfl

theorem Clock.RelockOutcome.locked (h : RelockOutcome board rate s (.ok ()) t es) :
    t = { s with fll := .master (board.sysclk rate) } := by
  cases h with
  | tried h => cases h; rfl

theorem Clock.RelockOutcome.eq_or_off_of_error {e : CardError}
    (h : RelockOutcome board rate s (.error e) t es) : t = s ∨ t = { s with fll := .off } := by
  cases h with
  | stuck h => exact h.eq_or_off
  | tried h => cases h; exact .inr rfl

theorem Clock.FollowOutcome.followed (h : FollowOutcome board rate s (.ok ()) t es) :
    t = { s with fll := s.fll.retuned (board.sysclk rate) } := by
  cases h with
  | idle hagrees => rw [FllMode.retuned_of_agrees hagrees]
  | tried hmaster _ h => rw [hmaster]; exact h.locked

theorem Clock.StartOutcome.domainMove (h : StartOutcome board s r t es) :
    DomainMove board s (some .start) t := by
  cases h with
  | owned _ | running _ => exact .idle _
  | tried hpath _ h =>
    rcases r with e | ⟨⟩
    · rcases h.eq_or_off_of_error with rfl | rfl
      · exact .idle _
      · exact .refused fun hup => by simp [hpath] at hup
    · rw [h.locked]
      exact .started hpath

theorem Clock.StopOutcome.domainMove (h : StopOutcome s r t es) :
    DomainMove board s (some .stop) t := by
  cases h with
  | stopped h => cases h <;> exact .stopped rfl

theorem Clock.RaiseOutcome.domainMove (h : RaiseOutcome board s r t es) :
    DomainMove board s (some .raise) t := by
  cases h with
  | stuck _ => exact .stopped rfl
  | failed h => cases h <;> exact .stopped rfl
  | raised h => cases h; exact .raised

theorem Clock.DropOutcome.domainMove {d : Direction} (h : DropOutcome d s r t es) :
    DomainMove board s (some (.drop d)) t := by
  cases h <;> exact .dropped d

theorem SetUpOutcome.domainMove (h : SetUpOutcome s r t es) :
    DomainMove board s (some .setUp) t := by
  cases h with
  | gated _ h | gateFailed _ _ h =>
    rcases h.eq_or_off with rfl | rfl
    · exact .idle _
    · exact .stopped rfl

section Negotiation

variable {d : Direction} {params : StreamParams}

theorem NegotiateOutcome.negotiated (h : NegotiateOutcome board d params s (.ok ()) t es) :
    t = { s with
      rate := params.rate.hz, linkRate := params.rate.hz, streams := s.streams.insert d
      fll := s.fll.retuned (board.sysclk params.rate.hz) } := by
  cases h with
  | settled _ h => rw [h.followed]

theorem NegotiateOutcome.domainMove (h : NegotiateOutcome board d params s r t es) :
    DomainMove board s (some (.negotiate d params)) t := by
  rcases r with e | ⟨⟩
  · cases h with
    | refused _ => exact .idle _
    | stuck _ h =>
      cases h with
      | tried hmaster _ h =>
        rcases h.eq_or_off_of_error with rfl | rfl
        · exact .idle _
        · exact .refused fun _ => by rw [hmaster]; rfl
  · rw [h.negotiated]
    exact .negotiated d params

end Negotiation

theorem ClockTask.Outcome.domainMove {task : ClockTask} (h : task.Outcome board s r t es) :
    DomainMove board s (some task) t := by
  cases task with
  | setUp => exact SetUpOutcome.domainMove h
  | negotiate d params => exact NegotiateOutcome.domainMove h
  | drop d => exact DropOutcome.domainMove h
  | start => exact StartOutcome.domainMove h
  | stop => exact StopOutcome.domainMove h
  | raise => exact RaiseOutcome.domainMove h
  | lower => obtain ⟨-, rfl, -⟩ := h; exact .lowered

end Outcomes

/-- An operation keeps the board, and moves the clock domain in one of the ways listed. -/
theorem Operation.ClockOutcome.domainMove {op : Operation} {c c' : Card}
    {r : Except CardError Answer} {es : List Event} (h : op.ClockOutcome c r c' es) :
    c'.board = c.board ∧ DomainMove c.board c.clock op.clockTask? c'.clock := by
  cases h with
  | quiet _ hc _ =>
    simp only [Card.clockSide, Prod.mk.injEq] at hc
    rw [hc.1, hc.2]
    exact ⟨rfl, .idle _⟩
  | task hop h =>
    rw [hop]
    exact ⟨rfl, h.domainMove⟩

namespace Card

variable {H : Type} (dev : Device H)

theorem entry_domainMove (op : Operation) (c : Card) (h : H) :
    (op.entry dev c h).card.board = c.board ∧
      DomainMove c.board c.clock op.clockTask? (op.entry dev c h).card.clock :=
  ((op.perform_ensures c).run dev h).domainMove

/-- Where an operation that reports what came of its task has succeeded, the task has. -/
theorem outcome_of_ok {op : Operation} {task : ClockTask} (hop : op.clockTask? = some task)
    (hreport : ∀ r, op.report r = r.map fun _ => .unit) (c : Card) (h : H)
    (hok : (op.entry dev c h).result = .ok .unit) :
    let e := op.entry dev c h
    task.Outcome c.board c.clock (.ok ()) e.card.clock (Trace.steps e.events) ∧
      e.card = { c with clock := e.card.clock } := by
  intro e
  obtain ⟨r, t, hout, hcard, hr⟩ := (Operation.ensures_task hop c).run dev h
  have hresult : e.result = r.map fun _ => .unit := hr.trans (hreport r)
  have hclock : e.card.clock = t := congrArg Card.clock hcard
  rw [hclock]
  rcases r with e' | ⟨⟩
  · rw [hresult] at hok
    cases hok
  · exact ⟨hout, hcard⟩

variable {board : Board} (Inv : ClockDomain → Prop)
  (hmove : ∀ {s t : ClockDomain} {task : Option ClockTask}, DomainMove board s task t →
    Inv s → Inv t)

include hmove

/-- What every way of moving the clock domain preserves, an operation preserves. -/
theorem entry_domain (op : Operation) {c : Card} (h : H) (hc : c.board = board ∧ Inv c.clock) :
    (op.entry dev c h).card.board = board ∧ Inv (op.entry dev c h).card.clock := by
  obtain ⟨rfl, hinv⟩ := hc
  obtain ⟨hboard, hdomain⟩ := entry_domainMove dev op c h
  exact ⟨hboard, hmove hdomain hinv⟩

/-- What every way of moving the clock domain preserves, a history preserves. -/
theorem play_domain :
    ∀ (ops : List Operation) {c : Card} (h : H), c.board = board ∧ Inv c.clock →
      (play dev ops c h).card.board = board ∧ Inv (play dev ops c h).card.clock
  | [], _, _, hc => hc
  | op :: ops, _, h, hc => play_domain ops _ (entry_domain dev Inv hmove op h hc)

omit hmove in
theorem board_play (ops : List Operation) (c : Card) (h : H) :
    (play dev ops c h).card.board = c.board :=
  (play_domain dev (fun _ => True) (fun _ _ => trivial) ops h ⟨rfl, trivial⟩).1

end Card

end SoundCard
