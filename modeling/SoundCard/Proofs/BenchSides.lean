import SoundCard.Bench
import SoundCard.Proofs.Interleaving
import SoundCard.Proofs.Sides

/-!
# The two sides of the bench

On the bench the clocks of the card and its mixer share the transceiver, which records the calls of
both in one log. Apart from that log and the stamps the two sides have nothing in common, so
interleaved operations are answered, and leave the card and the bench, as in any other order
(`Card.play_interleaved`). The log has room for 128 calls, and which calls they are is up to the
order.
-/

namespace SoundCard

open SoundCard.Action

/-- What the clocks of the card see of the bench. -/
structure BenchClocks where
  codecCalls : List CodecCall
  codecFailing : Bounded CodecCall 8
  codecTotal : Nat
  codecClocks : CodecClocks
  transceiverFailing : Bounded TransceiverCall 8
  refusing : Bool
  ratio : Option UInt32
  delays : DelayTally

@[simp] theorem Recorder.calls_record {C : Type} (r : Recorder C) (stamp : Nat) (c : C) :
    (r.record stamp c).calls = (r.calls ++ [c]).take 128 := by
  simp only [calls, record, Bounded.toList_push, List.map_take, List.map_append, List.map_cons,
    List.map_nil]

@[simp] theorem Recorder.failing_record {C : Type} (r : Recorder C) (stamp : Nat) (c : C) :
    (r.record stamp c).failing = r.failing := by
  rw [record]

theorem Registers.accept_of_no_register {c : TransceiverCall} (hc : c.register? = none) :
    ∃ a, ∀ r : Registers, r.accept c = (a, r) := by
  cases c with
  | readRegister _ | updateBits _ _ _ => cases hc
  | setPll _ _ | setClock _ _ | setMclkDivider _ => exact ⟨(), fun _ => rfl⟩

namespace Bench

def clocks (b : Bench) : BenchClocks where
  codecCalls := b.codec.recorder.calls
  codecFailing := b.codec.recorder.failing
  codecTotal := b.codec.total
  codecClocks := b.codec.clocks
  transceiverFailing := b.transceiver.recorder.failing
  refusing := b.interface.refusing
  ratio := b.interface.accepted.map (·.2)
  delays := b.delays

/-- The clocks' side of the bench, and the mixer's as the rest. -/
def clockCut : Cut Bench BenchClocks (Bounded TransceiverCall 8 × Registers) :=
  ⟨clocks, fun b => (b.transceiver.recorder.failing, b.transceiver.registers)⟩

theorem hasClockSide : device.HasClockSide clockCut where
  call c hc b b' h := by
    simp only [clockCut, clocks, BenchClocks.mk.injEq] at h
    obtain ⟨hcalls, hfailing, htotal, hclocks, hfailing', hrefusing, hratio, hdelays⟩ := h
    cases c with
    | codec c =>
      by_cases hf : c ∈ b'.codec.recorder.failing.toList
      · simp [device, codecCall, BenchCodec.call, Recorder.fails, clockCut, clocks, *]
      · simp [device, codecCall, BenchCodec.call, Recorder.fails, clockCut, clocks, *]
    | transceiver c =>
      have hnone : c.register? = none := hc
      obtain ⟨a, ha⟩ := Registers.accept_of_no_register hnone
      by_cases hf : c ∈ b'.transceiver.recorder.failing.toList
      · simp [device, transceiverCall, BenchTransceiver.call, Recorder.fails, clockCut, clocks, *]
      · simp [device, transceiverCall, BenchTransceiver.call, BenchTransceiver.carryOut,
          Recorder.fails, clockCut, clocks, *]
    | bitClockRatio ratio =>
      by_cases hr : b'.interface.refusing
      · simp [device, setBitClockRatio, clockCut, clocks, *]
      · simp [device, setBitClockRatio, clockCut, clocks, *]
  wait us b b' h := by
    simp only [clockCut, clocks, BenchClocks.mk.injEq] at h
    simp [device, clockCut, clocks, h]

theorem hasMixerSide : device.HasMixerSide clockCut.swap := by
  intro c _ b b' h
  simp only [clockCut, Cut.swap, Prod.mk.injEq] at h
  obtain ⟨hfailing, hregisters⟩ := h
  by_cases hf : c ∈ b'.transceiver.recorder.failing.toList
  · simp [device, transceiverCall, BenchTransceiver.call, Recorder.fails, clockCut, clocks,
      Cut.swap, *]
  · simp [device, transceiverCall, BenchTransceiver.call, BenchTransceiver.carryOut,
      Recorder.fails, clockCut, clocks, Cut.swap, *]

end Bench

section Log

def Event.transceiverCall? : Event → Option TransceiverCall
  | .call (.transceiver c) _ => some c
  | _ => none

def Trace.transceiverCalls (es : List Event) : List TransceiverCall :=
  es.filterMap Event.transceiverCall?

theorem take_take_append {α : Type} (n : Nat) (l m : List α) :
    (l.take n ++ m).take n = (l ++ m).take n := by
  rw [List.take_append, List.take_append, List.take_take, List.length_take]
  congr 2
  · omega
  · omega

theorem Recorder.take_calls {C : Type} (r : Recorder C) : r.calls.take 128 = r.calls := by
  have hlength := r.log.length_le
  exact List.take_of_length_le (by rwa [calls, List.length_map])

namespace Bench

/-- A trace leaves on record what it found there and its own calls, as far as there is room. -/
def Logs (b b' : Bench) (es : List Event) : Prop :=
  b'.transceiver.recorder.calls =
    (b.transceiver.recorder.calls ++ Trace.transceiverCalls es).take 128

theorem logs_nil (b : Bench) : b.Logs b [] := by
  rw [Logs, Trace.transceiverCalls, List.filterMap_nil, List.append_nil, Recorder.take_calls]

theorem Logs.append {b b' b'' : Bench} {es fs : List Event} (h : b.Logs b' es)
    (h' : b'.Logs b'' fs) : b.Logs b'' (es ++ fs) := by
  rw [Logs, h', h, take_take_append, List.append_assoc, Trace.transceiverCalls,
    Trace.transceiverCalls, Trace.transceiverCalls, List.filterMap_append]

theorem logs_call (c : Call) (b : Bench) :
    b.Logs (device.perform c b).2 [.call c (failureOf (device.perform c b).1)] := by
  cases c with
  | codec c =>
    simp only [device, codecCall, BenchCodec.call]
    split
    · exact b.logs_nil
    · exact b.logs_nil
  | transceiver c =>
    simp only [device, transceiverCall, BenchTransceiver.call, BenchTransceiver.carryOut]
    split
    · exact Recorder.calls_record _ _ _
    · split
      · exact Recorder.calls_record _ _ _
      · exact Recorder.calls_record _ _ _
  | bitClockRatio ratio =>
    simp only [device, setBitClockRatio]
    split
    · exact b.logs_nil
    · exact b.logs_nil

theorem logs_run {α : Type} (p : Program α) (b : Bench) :
    b.Logs (p.run device b).hardware (p.run device b).events := by
  induction p generalizing b with
  | done a => exact b.logs_nil
  | call c next ih => exact (b.logs_call c).append (ih _ _)
  | wait us next ih => exact ih _
  | log line next ih => exact ih _

end Bench

theorem Card.logs_play :
    ∀ (ops : List Operation) (c : Card) (b : Bench),
      b.Logs (play Bench.device ops c b).hardware (play Bench.device ops c b).events
  | [], _, b => b.logs_nil
  | op :: ops, c, b => (b.logs_run (op.perform c)).append (logs_play ops _ _)

end Log

/-- What came of the operations on one side, in order. -/
def Played.outcomesOn {H : Type} (p : Played H) (side : Side) :
    List (Operation × Except CardError Answer × List Event) :=
  p.outcomes.filter (·.1.side? = some side)

namespace Card

theorem outcomesOn_interleaving {H : Type} {p pm pc : Played H}
    (h : Interleaving pm.outcomes pc.outcomes p.outcomes)
    (hm : ∀ o ∈ pm.outcomes, o.1.side? = some .mixer)
    (hc : ∀ o ∈ pc.outcomes, o.1.side? = some .clock) :
    p.outcomesOn .mixer = pm.outcomes ∧ p.outcomesOn .clock = pc.outcomes := by
  constructor
  · exact h.filter_eq_left (fun o ho => by simp [hm o ho]) fun o ho => by simp [hc o ho]
  · exact h.symm.filter_eq_left (fun o ho => by simp [hc o ho]) fun o ho => by simp [hm o ho]

/-- Played together, the operations of each side fare as they do without those of the other. -/
theorem play_sides {mixers clocks ops : List Operation} (h : Interleaving mixers clocks ops)
    (hmixers : ∀ op ∈ mixers, op.side? = some .mixer)
    (hclocks : ∀ op ∈ clocks, op.side? = some .clock) (c : Card) (b : Bench) :
    let p := play Bench.device ops c b
    let pm := play Bench.device mixers c b
    let pc := play Bench.device clocks c b
    (p.outcomes.Perm (pm.outcomes ++ pc.outcomes) ∧
      p.outcomesOn .mixer = pm.outcomes ∧ p.outcomesOn .clock = pc.outcomes) ∧
      p.card = { pc.card with limits := pm.card.limits, status := pm.card.status } ∧
      p.hardware.clocks = pc.hardware.clocks ∧
      p.hardware.transceiver.registers = pm.hardware.transceiver.registers := by
  intro p pm pc
  obtain ⟨hout, ⟨hmixer, hregisters⟩, hclock, hhardware⟩ := play_interleaving h
    (fun op hop => op.confined_mixer Bench.hasMixerSide (hmixers op hop))
    (fun op hop => op.confined_clock Bench.hasClockSide (hclocks op hop))
    c c c b b b rfl rfl rfl rfl
  have hsides := outcomesOn_interleaving hout
    (fun o ho => hmixers o.1 (operation_of_mem_outcomes mixers c b ho))
    (fun o ho => hclocks o.1 (operation_of_mem_outcomes clocks c b ho))
  refine ⟨⟨hout.perm, hsides⟩, ?_, hhardware, congrArg Prod.snd hregisters⟩
  have hboard : p.card.board = pc.card.board := congrArg Prod.fst hclock
  have hdomain : p.card.clock = pc.card.clock := congrArg Prod.snd hclock
  have hlimits : p.card.limits = pm.card.limits := congrArg Prod.fst hmixer
  have hstatus : p.card.status = pm.card.status := congrArg Prod.snd hmixer
  simp only [← hboard, ← hdomain, ← hlimits, ← hstatus]

/-- Operations of the two sides, each in their own order, come to the same however they are
interleaved. Only the log of the transceiver tells: the calls on record are in another order, and
where it had no room for all of them they may be other ones. -/
theorem play_interleaved {mixers clocks first second : List Operation}
    (hfirst : Interleaving mixers clocks first) (hsecond : Interleaving mixers clocks second)
    (hmixers : ∀ op ∈ mixers, op.side? = some .mixer)
    (hclocks : ∀ op ∈ clocks, op.side? = some .clock) (c : Card) (b : Bench) :
    let p := play Bench.device first c b
    let q := play Bench.device second c b
    (∀ side, p.outcomesOn side = q.outcomesOn side) ∧ p.card = q.card ∧
      p.hardware.clocks = q.hardware.clocks ∧
      p.hardware.transceiver.registers = q.hardware.transceiver.registers ∧
      p.events.Perm q.events ∧
      (b.transceiver.recorder.calls.length + (Trace.transceiverCalls p.events).length ≤ 128 →
        p.hardware.transceiver.recorder.calls.Perm q.hardware.transceiver.recorder.calls) := by
  intro p q
  obtain ⟨⟨hp, hpm, hpc⟩, hcard, hhardware, hregisters⟩ :=
    play_sides hfirst hmixers hclocks c b
  obtain ⟨⟨hq, hqm, hqc⟩, hcard', hhardware', hregisters'⟩ :=
    play_sides hsecond hmixers hclocks c b
  have hevents : p.events.Perm q.events := by
    rw [p.events_eq_flatMap, q.events_eq_flatMap]
    exact (hp.trans hq.symm).flatMap_right _
  refine ⟨fun side => ?_, hcard.trans hcard'.symm, hhardware.trans hhardware'.symm,
    hregisters.trans hregisters'.symm, hevents, fun hroom => ?_⟩
  · cases side with
    | clock => exact hpc.trans hqc.symm
    | mixer => exact hpm.trans hqm.symm
  · have hcalls := hevents.filterMap Event.transceiverCall?
    have hlength := hcalls.length_eq
    rw [logs_play first c b, logs_play second c b, List.take_of_length_le, List.take_of_length_le]
    · exact hcalls.append_left _
    · rw [List.length_append, Trace.transceiverCalls, ← hlength]
      exact hroom
    · rw [List.length_append]
      exact hroom

/-- A store fails at its second byte and a negotiation at SYSCLK, whichever comes first. -/
theorem play_interleaved_failing :
    let b : Bench := {
      codec := BenchCodec.injectFailure {} (.setSysclk 49152000)
      transceiver := BenchTransceiver.injectFailure {} (.updateBits 0x13 0xFF 2) }
    let mixers : List Operation := [.selectMinRate 2, .storeStatus ⟨#v[1, 2, 3, 4]⟩]
    let clocks : List Operation :=
      [.startClock, .negotiate .playback ⟨⟨48000, by decide, by decide⟩, .s16⟩]
    let p := play Bench.device (mixers ++ clocks) (initial {}) b
    let q := play Bench.device (clocks ++ mixers) (initial {}) b
    (Trace.failures p.events).length = 2 ∧ (∀ side, p.outcomesOn side = q.outcomesOn side) ∧
      p.card = q.card ∧
      p.hardware.transceiver.recorder.calls.Perm q.hardware.transceiver.recorder.calls := by
  intro b mixers clocks
  have hmixers : ∀ op ∈ mixers, op.side? = some .mixer := by decide
  have hclocks : ∀ op ∈ clocks, op.side? = some .clock := by decide
  have hroom : b.transceiver.recorder.calls.length + (Trace.transceiverCalls
      (play Bench.device (mixers ++ clocks) (initial {}) b).events).length ≤ 128 := by decide
  obtain ⟨hout, hcard, -, -, -, hcalls⟩ := play_interleaved (.append_left mixers clocks)
    (Interleaving.append_left clocks mixers).symm hmixers hclocks (initial {}) b
  exact ⟨by decide, hout, hcard, hcalls hroom⟩

/-- The received status is read thirty-two times, which fills the log of the transceiver, and a
stream is negotiated, once after that and once before. -/
theorem play_interleaved_overflow :
    let mixers : List Operation := List.replicate 32 .readReceivedStatus
    let clocks : List Operation := [.negotiate .playback ⟨⟨48000, by decide, by decide⟩, .s16⟩]
    let p := play Bench.device (mixers ++ clocks) (initial {}) {}
    let q := play Bench.device (clocks ++ mixers) (initial {}) {}
    Interleaving mixers clocks (mixers ++ clocks) ∧ Interleaving mixers clocks (clocks ++ mixers) ∧
      ¬ p.hardware.transceiver.recorder.calls.Perm q.hardware.transceiver.recorder.calls := by
  intro mixers clocks p q
  refine ⟨.append_left _ _, (Interleaving.append_left _ _).symm, fun hperm => ?_⟩
  have hq : .setPll 12000000 12288000 ∈ q.hardware.transceiver.recorder.calls := by decide +kernel
  have hp : .setPll 12000000 12288000 ∉ p.hardware.transceiver.recorder.calls := by decide +kernel
  exact hp (hperm.mem_iff.2 hq)

end Card

end SoundCard
