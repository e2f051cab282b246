import SoundCard.Proofs.FllMoves
import SoundCard.Scripted

/-!
# The mode on record tracks FLL1

As long as the codec acknowledges every disable, the mode on record is what the main path runs from,
whatever else fails: each way of moving FLL1 preserves that (`FllMove.tracks`), and so does every
history (`Card.play_tracks`).
-/

namespace SoundCard

open Clock

/-- The mode says exactly what the main path runs from, and a lock has the reference path it
needs. -/
structure FllMode.Tracks (m : FllMode) (k : CodecClocks) : Prop where
  off_iff : m = .off ↔ k.main = none
  master_iff : ∀ hz, m = .master hz ↔ k.main = some ⟨.mclk1, hz⟩
  recovered_iff : ∀ hz, m = .recovered hz ↔ k.main = some ⟨.aif2BitClock, hz⟩
  reference_of_master : ∀ hz, m = .master hz → k.reference = none
  reference_of_recovered : ∀ hz, m = .recovered hz → k.reference = some ⟨.mclk1, hz⟩

namespace FllMode

variable {m : FllMode} {k k' : CodecClocks}

theorem tracks_off (h : k.main = none) : off.Tracks k := by
  constructor <;> simp [h]

theorem tracks_master {hz : Hz} (hmain : k.main = some ⟨.mclk1, hz⟩) (href : k.reference = none) :
    (master hz).Tracks k := by
  constructor <;> simp [hmain, href]

theorem tracks_recovered {hz : Hz} (hmain : k.main = some ⟨.aif2BitClock, hz⟩)
    (href : k.reference = some ⟨.mclk1, hz⟩) : (recovered hz).Tracks k := by
  constructor <;> simp [hmain, href]

theorem Tracks.of_samePaths (h : m.Tracks k') (hk : k.SamePaths k') : m.Tracks k := by
  obtain ⟨hmain, href⟩ := hk
  obtain ⟨h1, h2, h3, h4, h5⟩ := h
  exact ⟨hmain ▸ h1, hmain ▸ h2, hmain ▸ h3, href ▸ h4, href ▸ h5⟩

end FllMode

section Reliable

/-- The event is no failed disable. -/
def Event.DisableHeld (e : Event) : Prop :=
  ∀ path f, e ≠ .call (.codec (.disable path)) (some f)

theorem disableSteps_held {f g : Option Failure}
    (h : ∀ e ∈ disableSteps f g, e.DisableHeld) : f = none ∧ g = none := by
  constructor
  · cases f with
    | none => rfl
    | some f => exact (h _ List.mem_cons_self .main f rfl).elim
  · cases g with
    | none => rfl
    | some g => exact (h _ (List.mem_cons_of_mem _ List.mem_cons_self) .reference g rfl).elim

variable {board : Board} {m m' : FllMode} {k : CodecClocks} {es : List Event}

theorem FllMove.tracks (h : FllMove board m es m') (hm : m.Tracks k)
    (hes : ∀ e ∈ es, e.DisableHeld) : m'.Tracks (k.replay es) := by
  cases h with
  | idle => exact hm
  | kept hfg =>
    obtain ⟨rfl, rfl⟩ := disableSteps_held hes
    simp at hfg
  | stopped f g =>
    obtain ⟨rfl, rfl⟩ := disableSteps_held hes
    exact FllMode.tracks_off rfl
  | master hz => exact FllMode.tracks_master rfl rfl
  | masterRefused hz f => exact FllMode.tracks_off rfl
  | primeFailed hz f => exact FllMode.tracks_off rfl
  | recovered bitClock hz => exact FllMode.tracks_recovered rfl rfl
  | recoveredRefused bitClock hz f => exact FllMode.tracks_off rfl

theorem Event.disableHeld_of_failed?_eq_none {e : Event} (h : e.failed? = none) :
    e.DisableHeld := by
  rintro path f rfl
  cases h

/-- Where no call failed at all, `off` is on record only while the reference path is disabled
too. -/
theorem FllMove.reference_of_off (h : FllMove board m es m')
    (hm : m = .off → k.reference = none) (hes : ∀ e ∈ es, e.failed? = none) :
    m' = .off → (k.replay es).reference = none := by
  have hheld : ∀ e ∈ es, e.DisableHeld := fun e he =>
    Event.disableHeld_of_failed?_eq_none (hes e he)
  intro hoff
  cases h with
  | idle => exact hm hoff
  | kept hfg =>
    obtain ⟨rfl, rfl⟩ := disableSteps_held hheld
    simp at hfg
  | stopped f g =>
    obtain ⟨rfl, rfl⟩ := disableSteps_held hheld
    rfl
  | masterRefused hz f | primeFailed hz f =>
    cases hes _ (List.mem_append_right _ List.mem_cons_self)
  | recoveredRefused bitClock hz f =>
    cases hes _ (List.mem_append_right _ (List.mem_append_right _ List.mem_cons_self))
  | master hz | recovered bitClock hz => cases hoff

end Reliable

section Histories

variable {H : Type} (dev : Device H) (board : Board) (sysclk : Hz)

/-- A card just attached to a codec with both paths disabled: as long as no disable fails, the mode
on record is exactly what the main path runs from after every operation, whatever else fails. The
reference path is disabled under a lock to the master clock and primed under one to the recovered
clock, and where nothing failed it is disabled under no lock as well. -/
theorem Card.play_tracks (ops : List Operation) (h : H) :
    let p := play dev ops (initial board) h
    let k := CodecClocks.replay { sysclk } p.events
    (∀ path f, .call (.codec (.disable path)) (some f) ∉ p.events) →
      p.card.clock.fll.Tracks k ∧
        (Trace.failures p.events = [] → p.card.clock.fll = .off → k.reference = none) := by
  intro p k hheld
  constructor
  · exact play_fll dev FllMode.Tracks Event.DisableHeld (fun hk h => h.of_samePaths hk)
      (fun h => h.tracks) ops h rfl (FllMode.tracks_off rfl) fun e he path f heq =>
        hheld path f (heq ▸ he)
  · intro hfailures
    have hsucceeded : ∀ e ∈ p.events, e.failed? = none := List.filterMap_eq_nil_iff.1 hfailures
    exact play_fll dev (fun m k => m = .off → k.reference = none) (fun e => e.failed? = none)
      (fun hk h hoff => hk.2.trans (h hoff)) (fun h => h.reference_of_off) ops h rfl (fun _ => rfl)
      hsucceeded

/-- The lock to the recovered clock fails and leaves the reference path primed; FLL1 is tracked
all the same, and follows another rate. Where nothing fails it stops with both paths disabled. -/
theorem Card.play_tracks_past_failed_lock :
    let p := play (Scripted.device (.ofFaults [{ first := 3, failure := .bus }]))
      [.raiseSyncPath, .startClock, .negotiate .playback ⟨⟨48000, by decide, by decide⟩, .s16⟩]
      (initial {}) {}
    let q := play (Scripted.device (.ofFaults [])) [.raiseSyncPath, .stopClock] (initial {}) {}
    (p.card.clock.fll = .master 49152000 ∧ p.card.clock.fll.Tracks (.replay {} p.events)) ∧
      (q.card.clock.fll = .off ∧ (CodecClocks.replay {} q.events).reference = none) := by
  intro p q
  have hp : ∀ path f, .call (.codec (.disable path)) (some f) ∉ p.events := by
    have hfailures : Trace.failures p.events =
        [(.codec (.setFll .main (some .aif2BitClock) 2822400 45158400), .bus)] := by decide
    intro path f hmem
    rw [← Trace.mem_failures, hfailures] at hmem
    simp [CodecCall.disable] at hmem
  have hfailures : Trace.failures q.events = [] := by decide
  have hq : ∀ path f, .call (.codec (.disable path)) (some f) ∉ q.events := by
    intro path f hmem
    rw [← Trace.mem_failures, hfailures] at hmem
    cases hmem
  have hoff : q.card.clock.fll = .off := by decide
  refine ⟨⟨by decide, (play_tracks _ {} 0 _ _ hp).1⟩, hoff, ?_⟩
  exact (play_tracks _ {} 0 _ _ hq).2 hfailures hoff

end Histories

end SoundCard
