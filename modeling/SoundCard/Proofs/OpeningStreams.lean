import SoundCard.Proofs.Ensures
import SoundCard.Proofs.Entries
import SoundCard.Scripted

/-!
# What an opening stream may ask for

A stream that opens is confined to the rates the user allows, and the range of these takes the place
of any that confined it before. So every rate left to it is one the user allows; it is also one that
was left to it before just if the range of the user lies within the earlier one
(`Card.play_open_restricts_iff`). A range that reaches beyond the earlier one gives the stream back
rates that were excluded already.
-/

namespace SoundCard

namespace RateRange

variable {v w : RateRange}

/-- A range lies within another one just if its ends do, unless there is no rate in it. -/
theorem forall_mem_iff : (∀ hz ∈ w, hz ∈ v) ↔ (w.min ≤ w.max → v.min ≤ w.min ∧ w.max ≤ v.max) := by
  constructor
  · intro h hw
    have hmin : w.min ∈ v := h w.min ⟨UInt32.le_refl _, hw⟩
    have hmax : w.max ∈ v := h w.max ⟨hw, UInt32.le_refl _⟩
    exact ⟨hmin.1, hmax.2⟩
  · rintro h hz ⟨hlow, hhigh⟩
    obtain ⟨hmin, hmax⟩ := h (UInt32.le_trans hlow hhigh)
    exact ⟨UInt32.le_trans hmin hlow, UInt32.le_trans hhigh hmax⟩

end RateRange

section Limits

theorem RateMenu.select_mem (t : RateMenu) (i : Nat) : t.select i ∈ t.options := List.get_mem ..

theorem RateMenu.lowest_le (i : Nat) : (lowest.select i).hz ≤ 44100 := by
  have hall : ∀ o ∈ lowest.options, o.hz ≤ 44100 := by decide
  exact hall _ (lowest.select_mem i)

theorem RateMenu.le_highest (i : Nat) (h : (highest.select i).hz ≠ 0) :
    48000 ≤ (highest.select i).hz := by
  have hall : ∀ o ∈ highest.options, o.hz ≠ 0 → 48000 ≤ o.hz := by decide
  exact hall _ (highest.select_mem i) h

/-- However the selectors stand, there are rates that a stream may take. -/
theorem RateLimits.range_ordered {l : RateLimits} {w : RateRange} (h : w ∈ l.range) :
    w.min ≤ w.max := by
  have hlow : (RateMenu.lowest.select l.min).hz ≤ 44100 := RateMenu.lowest_le l.min
  simp only [range] at h
  split at h
  · cases h
  · obtain rfl := Option.some.inj h
    refine UInt32.le_trans hlow ?_
    simp only
    split
    · decide
    · rename_i hhigh
      exact UInt32.le_trans (by decide) (RateMenu.le_highest l.max hhigh)

end Limits

namespace RateConstraint

instance (c : RateConstraint) (hz : Hz) : Decidable (c.Permits hz) :=
  inferInstanceAs (Decidable (∀ w ∈ c.range, hz ∈ w))

/-- Confines the stream to one range after the other. -/
def confineAll (c : RateConstraint) (ranges : List RateRange) : RateConstraint :=
  ranges.foldl confine c

/-- Only the last range counts. -/
theorem range_confineAll (c : RateConstraint) (ranges : List RateRange) :
    (c.confineAll ranges).range = ranges.getLast?.or c.range := by
  induction ranges generalizing c with
  | nil => rfl
  | cons w ranges ih =>
    have hcons : (c.confineAll (w :: ranges)).range = ranges.getLast?.or (some w) :=
      ih (c.confine w)
    rw [hcons, List.getLast?_cons]
    cases ranges.getLast? <;> rfl

/-- The rates left after several ranges are in each of them just if the last range lies within all
of them. -/
theorem confineAll_restricts_iff (c : RateConstraint) (ranges : List RateRange) :
    (∀ hz, (c.confineAll ranges).Permits hz → ∀ w ∈ ranges, hz ∈ w) ↔
      ∀ last ∈ ranges.getLast?, last.min ≤ last.max →
        ∀ w ∈ ranges, w.min ≤ last.min ∧ last.max ≤ w.max := by
  have hpermits : ∀ last ∈ ranges.getLast?, ∀ hz, (c.confineAll ranges).Permits hz ↔ hz ∈ last := by
    intro last hlast hz
    simp only [Permits, range_confineAll, Option.mem_def.1 hlast, Option.some_or, Option.mem_some,
      forall_eq']
  constructor
  · intro h last hlast hordered w hw
    refine RateRange.forall_mem_iff.1 (fun hz hmem => ?_) hordered
    exact h hz ((hpermits last hlast hz).2 hmem) w hw
  · intro h hz hhz w hw
    obtain ⟨last, hlast⟩ : ∃ last, ranges.getLast? = some last :=
      Option.isSome_iff_exists.1 (List.getLast?_isSome.2 (List.ne_nil_of_mem hw))
    have hmem : hz ∈ last := (hpermits last hlast hz).1 hhz
    exact RateRange.forall_mem_iff.2 (fun hordered => h last hlast hordered w hw) hz hmem

end RateConstraint

namespace Card

open SoundCard.Action

/-- A stream that opens is confined to the range of the user, if there is one, and otherwise as
before. -/
theorem openStream_ensures (d : Direction) (prior : RateConstraint) (c : Card) :
    (openStream d prior).Ensures c fun r c' es =>
      r = .ok ⟨c.limits.range.or prior.range⟩ ∧ c' = c ∧ es = [] := by
  rw [openStream, ensures_bind, ensures_state, then_ok]
  cases c.limits.range with
  | none => exact ⟨rfl, rfl, rfl⟩
  | some w =>
    rw [ensures_bind, ensures_log, then_ok]
    exact ⟨rfl, rfl, rfl⟩

variable {H : Type} (dev : Device H)

/-- After any history the rates left to a stream that opens are all allowed by the user, and they
were all left to it before just if the range of the user lies within the earlier one. Likewise, one
range put after another leaves rates outside the earlier ones unless the last one lies within all of
them. -/
theorem play_open_restricts_iff (board : Board) (ops : List Operation) (h : H) (d : Direction)
    (prior : RateConstraint) :
    let p := play dev ops (initial board) h
    let e := (Operation.openStream d prior).entry dev p.card p.hardware
    let left : RateConstraint := ⟨p.card.limits.range.or prior.range⟩
    (e.result = .ok (.constraint left) ∧
      (∀ w ∈ p.card.limits.range, ∀ hz, left.Permits hz → hz ∈ w) ∧
      ((∀ hz, left.Permits hz → prior.Permits hz) ↔
        ∀ w ∈ p.card.limits.range, ∀ v ∈ prior.range, v.min ≤ w.min ∧ w.max ≤ v.max)) ∧
    ∀ ranges : List RateRange,
      (∀ hz, (prior.confineAll ranges).Permits hz → ∀ w ∈ ranges, hz ∈ w) ↔
        ∀ last ∈ ranges.getLast?, last.min ≤ last.max →
          ∀ w ∈ ranges, w.min ≤ last.min ∧ last.max ≤ w.max := by
  intro p e left
  have hopen : (Operation.openStream d prior).perform.Ensures p.card fun r _ _ =>
      r = .ok (.constraint left) := by
    rw [Operation.perform, ensures_return]
    refine (openStream_ensures d prior p.card).mono ?_
    rintro _ _ _ ⟨rfl, -, -⟩
    rfl
  refine ⟨⟨hopen.run dev p.hardware, ?_, ?_⟩, prior.confineAll_restricts_iff⟩
  · intro w hw hz hleft
    refine hleft w ?_
    simp [left, Option.mem_def.1 hw]
  · cases hrange : p.card.limits.range with
    | none => simp [left, hrange]
    | some w =>
      have hordered : w.min ≤ w.max := RateLimits.range_ordered hrange
      simp only [left, hrange, RateConstraint.Permits, Option.some_or, Option.mem_some, forall_eq']
      constructor
      · intro h v hv
        exact RateRange.forall_mem_iff.1 (fun hz hmem => h hz hmem v hv) hordered
      · intro h hz hmem v hv
        exact RateRange.forall_mem_iff.2 (fun _ => h v hv) hz hmem

/-- A stream held to 48 kHz may take 44.1 kHz once it is open on a new card, whose user allows all
rates from 32 kHz; and a range of its own loses its effect to a wider one that follows it. -/
theorem open_widens :
    let prior : RateConstraint := ⟨some ⟨48000, 48000⟩⟩
    let left : RateConstraint := ⟨some ⟨32000, 0xFFFFFFFF⟩⟩
    let e := (Operation.openStream .playback prior).entry (Scripted.device (.ofFaults []))
      (initial {}) {}
    e.result = .ok (.constraint left) ∧ left.Permits 44100 ∧ ¬ prior.Permits 44100 ∧
      (RateConstraint.confineAll {} [⟨48000, 48000⟩, ⟨32000, 96000⟩]).Permits 44100 ∧
      44100 ∉ (⟨48000, 48000⟩ : RateRange) := by
  intro prior left e
  have hopen : e.result = .ok (.constraint left) := rfl
  exact ⟨hopen, by decide, by decide, by decide, by decide⟩

end Card

end SoundCard
