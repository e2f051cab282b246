import SoundCard.Proofs.LinkRate
import SoundCard.Proofs.PllFloor

/-!
# Products that are not cut off

The clocks the card asks for are rates and widths times a whole number, held at the largest word
where the product does not fit. A rate on record is the default rate or one that a stream may have,
and of the latter even 256 clocks in a frame fit. So as long as they do for the default rate, which
is to say that it is below 2 ^ 24 (`scaled_pllRatio_iff`), nothing the card ever asks for is cut off
(`Card.play_whole_products`).
-/

namespace SoundCard

open Clock

section Products

variable {hz ratio : UInt32}

/-- A product is whole just if it fits in its word. -/
theorem toNat_scaled_eq_iff :
    (scaled hz ratio).toNat = hz.toNat * ratio.toNat ↔ hz.toNat * ratio.toNat < UInt32.size := by
  rw [toNat_scaled, UInt32.size]
  omega

theorem scaled_pllRatio_iff :
    (scaled hz Transceiver.pllRatio).toNat = 256 * hz.toNat ↔ hz ≤ 16777215 := by
  have hratio : Transceiver.pllRatio.toNat = 256 := rfl
  have hbound : hz ≤ 16777215 ↔ hz.toNat ≤ 16777215 := UInt32.le_iff_toNat_le
  rw [Nat.mul_comm, ← hratio, toNat_scaled_eq_iff, hbound, hratio, UInt32.size]
  omega

/-- At the next higher rate the product is cut off. -/
example : (scaled 16777216 Transceiver.pllRatio).toNat = 256 * 16777216 - 1 := by decide

theorem toNat_recoveredBitClock (h : hz ≤ 16777215) :
    (scaled hz Board.aif2BitClockRatio).toNat = 64 * hz.toNat := by
  have hratio : Board.aif2BitClockRatio.toNat = 64 := rfl
  have hbound : hz.toNat ≤ 16777215 := h
  rw [toNat_scaled_of_lt (by rw [hratio, UInt32.size]; omega), hratio, Nat.mul_comm]

theorem SampleWidth.toNat_bitClockRatio (w : SampleWidth) :
    w.bitClockRatio.toNat = 2 * w.bits.toNat ∧ w.bitClockRatio.toNat ≤ 64 := by
  have hbits : w.bits.toNat ≤ 32 := w.upper
  have hratio : w.bitClockRatio.toNat = w.bits.toNat * 2 := toNat_scaled_of_lt w.bits_mul_lt
  omega

end Products

/-- The rate that an operation programs the PLL for, if it does. -/
def Operation.pllRate? (board : Board) : Operation → Option Hz
  | .setUpTransceiver => some board.defaultRate
  | .negotiate _ params => some params.rate.hz
  | _ => none

/-- The width of the samples that an operation negotiates, if it does. -/
def Operation.width? : Operation → Option SampleWidth
  | .negotiate _ params => some params.width
  | _ => none

/-- What an operation asks for, `rate` being on record, is a whole product: the recovered bit clock
has 64 clocks in a frame at that rate, the PLL and the transmitter have 256 at the rate they are
programmed for, and a frame on the processor's interface is two samples of the width negotiated. -/
def Event.Whole (board : Board) (rate : Hz) (op : Operation) : Event → Prop
  | .call (.codec (.setFll _ (some .aif2BitClock) bitClock _)) _ =>
    bitClock.toNat = 64 * rate.toNat
  | .call (.transceiver (.setPll _ hz)) _ | .call (.transceiver (.setClock .transmitPll hz)) _ =>
    ∃ pllRate ∈ op.pllRate? board, hz.toNat = 256 * pllRate.toNat
  | .call (.bitClockRatio ratio) _ =>
    ∃ width ∈ op.width?, ratio.toNat = 2 * width.bits.toNat ∧ ratio.toNat ≤ 64
  | _ => True

section Plans

variable {board : Board} {rate : Hz} {op : Operation} {r : Except CardError Unit}
  {es : List Event}

theorem Event.Aside.whole {e : Event} (h : e.Aside) : e.Whole board rate op := by
  cases h <;> trivial

/-- Of the blocks only the lock to the recovered bit clock is told a product. -/
theorem whole_byBlocks (board : Board) (op : Operation) (hrate : rate ≤ 16777215) :
    ByBlocks board rate fun es => ∀ e ∈ es, e.Whole board rate op where
  nil := List.forall_mem_nil _
  append hes hfs := List.forall_mem_append.2 ⟨hes, hfs⟩
  disable _ _ := by simp [disableSteps, CodecCall.disable, Event.Whole]
  masterLock _ _ := by simp [masterLockSteps, Event.Whole]
  prime _ _ := by simp [primeSteps, Event.Whole]
  recoveredLock _ _ := by simp [recoveredLockSteps, Event.Whole, toNat_recoveredBitClock hrate]
  derive32k _ := by simp [SoundCard.derive32k, Event.Whole]
  gateSysclk _ := by simp [CodecCall.gateSysclk, Event.Whole]

theorem pllPlan_whole {pllRate : Hz} (hop : op.pllRate? board = some pllRate)
    (hfits : pllRate ≤ 16777215) :
    ∀ p ∈ pllPlan board pllRate, ∀ f, (Event.call p.2 f).Whole board rate op := by
  have hmclk := scaled_pllRatio_iff.2 hfits
  simp [pllPlan, Event.Whole, hop, hmclk]

theorem negotiationPlan_whole (d : Direction) (params : StreamParams) :
    ∀ p ∈ negotiationPlan board params, ∀ f,
      (Event.call p.2 f).Whole board rate (.negotiate d params) := by
  have hfits : params.rate.hz ≤ 16777215 := UInt32.le_trans params.rate.upper (by decide)
  refine forall_negotiationPlan board ?_ (fun _ => pllPlan_whole rfl hfits) ?_
  · rw [interfacePlan, List.forall_mem_cons, List.forall_mem_singleton]
    exact ⟨fun _ => ⟨_, rfl, params.width.toNat_bitClockRatio⟩, fun _ => trivial⟩
  · simp [sysclkPlan, Event.Whole]

theorem LinkSetUpOutcome.whole (h : LinkSetUpOutcome board r es)
    (hfits : board.defaultRate ≤ 16777215) : ∀ e ∈ es, e.Whole board rate .setUpTransceiver := by
  cases h with
  | refused f hes =>
    refine List.forall_mem_append.2 ⟨fun e he => (hes e he).whole, ?_⟩
    simp [selectMclk, Event.Whole]
  | tried routed hes hplan =>
    refine List.forall_mem_append.2 ⟨List.forall_mem_append.2 ⟨fun e he => (hes e he).whole, ?_⟩,
      hplan.forall_events (pllPlan_whole rfl hfits)⟩
    simp [selectMclk, routeClkout, Event.Whole]

end Plans

section Entries

variable {H : Type} (dev : Device H)

/-- Whatever an operation is, and whichever of its calls fail, it asks for whole products where the
rate on record and the default rate leave room for them. -/
theorem Entry.whole (op : Operation) (c : Card) (h : H) (hdefault : c.board.defaultRate ≤ 16777215)
    (hrate : c.clock.rate ≤ 16777215) :
    ∀ e ∈ (op.entry dev c h).events, e.Whole c.board c.clock.rate op := by
  refine Trace.forall_of_forall_steps (fun _ => trivial) ?_
  rcases htask : op.clockTask? with _ | task
  · by_cases hsetUp : op = .setUpTransceiver
    · subst hsetUp
      obtain ⟨r, hout⟩ := Entry.linkSetUpOutcome dev c h
      exact hout.whole hdefault
    · have haside := (Operation.takes_aside htask hsetUp c).run dev h
      exact fun e he => (haside e he).whole
  · obtain ⟨r, t, hout, -⟩ := (Operation.ensures_task htask c).run dev h
    refine hout.byBlocks (whole_byBlocks c.board op hrate) fun d params heq => ?_
    subst heq
    obtain rfl := Operation.eq_negotiate_of_clockTask? htask
    exact fun hplan => hplan.forall_events (negotiationPlan_whole d params)

/-- On a board whose default rate leaves room for 256 clocks in a frame, whatever is done and
whichever calls fail, the rate on record is the default rate or one that a stream may have. There is
room for the recovered bit clock at that rate, and whatever is done next, all that it asks for is a
whole product. -/
theorem Card.play_whole_products (board : Board) (hdefault : board.defaultRate ≤ 16777215)
    (ops : List Operation) (h : H) :
    let p := play dev ops (initial board) h
    let rate := p.card.clock.rate
    (rate = board.defaultRate ∨ (8000 ≤ rate ∧ rate ≤ 192000)) ∧
      (scaled rate Board.aif2BitClockRatio).toNat = 64 * rate.toNat ∧
      ∀ op : Operation, ∀ e ∈ (op.entry dev p.card p.hardware).events, e.Whole board rate op := by
  intro p rate
  have hinitial : (initial board).clock.AtRate board.defaultRate := ⟨rfl, rfl⟩
  have hboard : p.card.board = board := board_play dev ops (initial board) h
  have hlast : rate = (lastSettledRate? p.entries).elim board.defaultRate (·.hz) :=
    (play_atRate dev ops h hinitial).1
  have hrange : rate = board.defaultRate ∨ (8000 ≤ rate ∧ rate ≤ 192000) := by
    rcases hsettled : lastSettledRate? p.entries with _ | settled
    · rw [hsettled] at hlast
      exact .inl hlast
    · rw [hsettled] at hlast
      exact .inr (hlast ▸ ⟨settled.lower, settled.upper⟩)
  have hfits : rate ≤ 16777215 := by
    rcases hrange with heq | ⟨-, hupper⟩
    · rwa [heq]
    · exact UInt32.le_trans hupper (by decide)
  refine ⟨hrange, toNat_recoveredBitClock hfits, fun op => ?_⟩
  have hwhole := Entry.whole dev op p.card p.hardware (hboard.symm ▸ hdefault) hfits
  rwa [hboard] at hwhole

/-- The default rate is the highest with room for 256 clocks in a frame, and a stream that would
have replaced it is refused. Raising the receive path and setting up the link to the transceiver
both ask for the whole product. -/
theorem Card.play_whole_products_highest :
    let board : Board := { defaultRate := 16777215 }
    let dev := Scripted.device (.ofFaults [{ first := 0, failure := .bus }])
    let p := play dev [.negotiate .playback ⟨⟨192000, by decide, by decide⟩, .s32⟩]
      (initial board) {}
    let raised := Operation.raiseSyncPath.entry dev p.card p.hardware
    let setUp := Operation.setUpTransceiver.entry dev p.card p.hardware
    board.defaultRate ≤ 16777215 ∧
      (.call (.codec (.setFll .main (some .aif2BitClock) 1073741760 45158400)) none ∈
          raised.events ∧ ∀ e ∈ raised.events, e.Whole board p.card.clock.rate .raiseSyncPath) ∧
      .call (.transceiver (.setPll 12000000 4294967040)) none ∈ setUp.events ∧
        ∀ e ∈ setUp.events, e.Whole board p.card.clock.rate .setUpTransceiver := by
  intro board dev p raised setUp
  have hdefault : board.defaultRate ≤ 16777215 := by decide
  obtain ⟨-, -, hwhole⟩ := play_whole_products dev board hdefault
    [.negotiate .playback ⟨⟨192000, by decide, by decide⟩, .s32⟩] {}
  exact ⟨hdefault, ⟨by decide, hwhole .raiseSyncPath⟩, by decide, hwhole .setUpTransceiver⟩

end Entries

end SoundCard
