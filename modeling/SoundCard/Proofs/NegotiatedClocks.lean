import SoundCard.Proofs.DomainMoves
import SoundCard.Proofs.SysclkMoves
import SoundCard.Scripted

/-!
# FLL1 and SYSCLK after a negotiation

A negotiation that succeeded has set SYSCLK for its rate. FLL1 is at that frequency too where it
runs from the master clock; a lock to the recovered clock is left alone, at the SYSCLK of the rate it
was made for. So FLL1 may be on record at another frequency than SYSCLK, and
`Card.play_negotiated_iff` says exactly when: the receive path was raised at a rate of the other
family, and the lock it made is still on record.
-/

namespace SoundCard

open Clock

section Outcomes

variable {board : Board} {d : Direction} {params : StreamParams} {s t : ClockDomain}

/-- A negotiation that succeeded set SYSCLK once, to the frequency of its rate. -/
theorem NegotiateOutcome.sysclkSteps_of_ok {es : List Event}
    (h : NegotiateOutcome board d params s (.ok ()) t es) :
    Trace.sysclkSteps es = [.call (.codec (.setSysclk (board.sysclk params.rate.hz))) none] := by
  cases h with
  | settled hplan h =>
    rw [Trace.sysclkSteps_append, sysclkSteps_of_accepted hplan, h.leavesStreams.2]
    rfl

/-- Only raising the receive path records a lock to the recovered clock, at the SYSCLK of the rate
on record. -/
theorem DomainMove.recovered {task : Option ClockTask} {hz : Hz}
    (h : DomainMove board s task t) (ht : t.fll = .recovered hz) :
    s.fll = .recovered hz ∨ (task = some .raise ∧ board.sysclk t.rate = hz) := by
  cases h with
  | idle _ | lowered | dropped d => exact .inl ht
  | stopped _ | refused _ | started _ => cases ht
  | raised => exact .inr ⟨rfl, FllMode.recovered.inj ht⟩
  | negotiated d params => exact .inl (FllMode.retuned_eq_recovered.1 ht)

end Outcomes

/-- The operation raised the receive path, and FLL1 is locked to the recovered clock at `hz`, the
SYSCLK of the rate on record. -/
def Entry.RaisesAt (hz : Hz) (e : Entry) : Prop :=
  e.operation.clockTask? = some .raise ∧ e.card.clock.fll = .recovered hz ∧
    e.card.board.sysclk e.card.clock.rate = hz

/-- The operation left no lock to the recovered clock at `hz` on record. -/
def Entry.Unlocks (hz : Hz) (e : Entry) : Prop := e.card.clock.fll ≠ .recovered hz

section Entries

variable {H : Type} (dev : Device H) (c : Card) (h : H)

/-- A lock to the recovered clock on record was there before, unless the operation made it. -/
theorem Entry.raisesAt_of_recovered (op : Operation) {hz : Hz}
    (hfll : (op.entry dev c h).card.clock.fll = .recovered hz) :
    c.clock.fll = .recovered hz ∨ (op.entry dev c h).RaisesAt hz := by
  obtain ⟨hboard, hmove⟩ := Card.entry_domainMove dev op c h
  rcases hmove.recovered hfll with hbefore | ⟨htask, hrate⟩
  · exact .inl hbefore
  · exact .inr ⟨htask, hfll, by rw [hboard]; exact hrate⟩

variable {d : Direction} {params : StreamParams}

/-- What a negotiation that succeeded leaves of the clocks. -/
theorem Entry.clocks_of_negotiated
    (hok : ((Operation.negotiate d params).entry dev c h).result = .ok .unit) :
    let e := (Operation.negotiate d params).entry dev c h
    e.card.clock.fll = c.clock.fll.retuned (c.board.sysclk params.rate.hz) ∧
      ∀ k : CodecClocks, (k.replay e.events).sysclk = c.board.sysclk params.rate.hz := by
  intro e
  obtain ⟨hout, -⟩ := Card.outcome_of_ok dev rfl (fun _ => rfl) c h hok
  have hsteps : Trace.sysclkSteps e.events = _ :=
    (Trace.sysclkSteps_steps e.events).symm.trans (NegotiateOutcome.sysclkSteps_of_ok hout)
  refine ⟨congrArg ClockDomain.fll (NegotiateOutcome.negotiated hout), fun k => ?_⟩
  rw [CodecClocks.sysclk_replay, hsteps]
  rfl

end Entries

section Histories

variable {H : Type} (dev : Device H) (board : Board)

/-- A negotiation that succeeded has set SYSCLK for its rate, and a lock of FLL1 to the master clock
has followed. FLL1 is on record at another frequency just if the receive path was raised at a rate
with that SYSCLK, and the lock to the recovered clock it made has stayed on record since. -/
theorem Card.play_negotiated_iff (ops : List Operation) (d : Direction) (params : StreamParams)
    (h : H) (k : CodecClocks) :
    let p := play dev ops (initial board) h
    let e := (Operation.negotiate d params).entry dev p.card p.hardware
    e.result = .ok .unit →
      (k.replay e.events).sysclk = board.sysclk params.rate.hz ∧
        e.card.clock.fll = p.card.clock.fll.retuned (board.sysclk params.rate.hz) ∧
        ∀ hz ≠ board.sysclk params.rate.hz, e.card.clock.fll.hz? = some hz ↔
          Since (Entry.RaisesAt hz) (Entry.Unlocks hz) p.entries := by
  intro p e hok
  have hboard : p.card.board = board := board_play dev ops (initial board) h
  obtain ⟨hfll, hsysclk⟩ := Entry.clocks_of_negotiated dev p.card p.hardware hok
  rw [hboard] at hfll hsysclk
  refine ⟨hsysclk k, hfll, fun hz hne => ?_⟩
  rw [hfll, FllMode.hz?_retuned_of_ne hne]
  exact play_since_kept dev (fun c => c.clock.fll = .recovered hz) (Entry.RaisesAt hz)
    (fun _ => True) (fun _ _ _ _ => trivial) (fun _ hraises => hraises.2.1)
    (fun op c h _ => Entry.raisesAt_of_recovered dev c h op) ops h trivial nofun

/-- FLL1 is locked to the recovered clock at 45.1584 MHz when a stream settles on 96 kHz, and stays
so although SYSCLK is set for another family. -/
theorem Card.play_negotiated_iff_recovered :
    let dev := Scripted.device (.ofFaults [])
    let ops : List Operation := [.raiseSyncPath]
    let params : StreamParams := ⟨⟨96000, by decide, by decide⟩, .s24⟩
    let p := play dev ops (initial {}) {}
    let e := (Operation.negotiate .capture params).entry dev p.card p.hardware
    e.result = .ok .unit ∧ (CodecClocks.replay {} e.events).sysclk = Board.sysclk {} 96000 ∧
      45158400 ≠ Board.sysclk {} 96000 ∧
      Since (Entry.RaisesAt 45158400) (Entry.Unlocks 45158400) p.entries := by
  intro dev ops params
  have hok : ((Operation.negotiate .capture params).entry dev
    (play dev ops (initial {}) {}).card (play dev ops (initial {}) {}).hardware).result =
      .ok .unit := rfl
  have hhz : ((Operation.negotiate .capture params).entry dev
    (play dev ops (initial {}) {}).card
    (play dev ops (initial {}) {}).hardware).card.clock.fll.hz? = some 45158400 := by decide
  have hne : 45158400 ≠ Board.sysclk {} 96000 := by decide
  obtain ⟨hsysclk, -, hiff⟩ := play_negotiated_iff dev {} ops .capture params {} {} hok
  exact ⟨hok, hsysclk, hne, (hiff 45158400 hne).1 hhz⟩

/-- FLL1 is at 45.1584 MHz and SYSCLK at 49.152 MHz after a negotiation that succeeded, and no call
ever failed. -/
theorem Card.play_negotiated_parts :
    let dev := Scripted.device (.ofFaults [])
    let p := play dev [.widgetPower Graph.receiveWidget .afterUp] (initial {}) {}
    let e := (Operation.negotiate .playback ⟨⟨48000, by decide, by decide⟩, .s16⟩).entry dev
      p.card p.hardware
    e.result = .ok .unit ∧ e.card.clock.fll = .recovered 45158400 ∧
      (CodecClocks.replay {} e.events).sysclk = 49152000 ∧ Board.sysclk {} 48000 = 49152000 := by
  intro dev p e
  have hok : e.result = .ok .unit := rfl
  exact ⟨hok, by decide, by decide, by decide⟩

end Histories

end SoundCard
