import SoundCard.Proofs.FllMoves

/-!
# No path is armed while another one runs

FLL1 misbehaves where two of its inputs are armed at once, so the card disables both paths before it
arms one. `ClearBeforeSet` says of a trace that it does, judged by what the codec accepted and not
by the mode on record. Each way of moving FLL1 has it from any clocks (`FllMove.clearBeforeSet`),
and so has every history (`Card.play_clearBeforeSet`).
-/

namespace SoundCard

/-- The paths allow a path to be armed from an input: the recovered clock needs the main path
disabled, since the reference path was just primed for it, and everything else needs both. -/
def CodecClocks.MayArm (k : CodecClocks) : FllPath → FllInput → Prop
  | .main, .aif2BitClock => k.main = none
  | _, _ => k.main = none ∧ k.reference = none

/-- Wherever a trace has a call that arms a path, accepted or not, the paths allow it as the events
before it left them. -/
def ClearBeforeSet (k : CodecClocks) (es : List Event) : Prop :=
  ∀ before path input fref fout failure after,
    es = before ++ .call (.codec (.setFll path (some input) fref fout)) failure :: after →
      (k.replay before).MayArm path input

/-- An event may happen at clocks `k`. -/
def CodecClocks.MayMeet (k : CodecClocks) (e : Event) : Prop :=
  ∀ path input fref fout failure,
    e = .call (.codec (.setFll path (some input) fref fout)) failure → k.MayArm path input

@[simp] theorem CodecClocks.mayMeet_setFll {k : CodecClocks} {path : FllPath} {input : FllInput}
    {fref fout : Hz} {f : Option Failure} :
    k.MayMeet (.call (.codec (.setFll path (some input) fref fout)) f) ↔ k.MayArm path input := by
  simp only [MayMeet, Event.call.injEq, Call.codec.injEq, CodecCall.setFll.injEq,
    Option.some.injEq]
  constructor
  · intro h
    exact h path input fref fout f ⟨⟨rfl, rfl, rfl, rfl⟩, rfl⟩
  · rintro h _ _ _ _ _ ⟨⟨rfl, rfl, -, -⟩, -⟩
    exact h

@[simp] theorem CodecClocks.mayMeet_disable (k : CodecClocks) (path : FllPath)
    (f : Option Failure) : k.MayMeet (.call (.codec (.disable path)) f) := by
  simp [MayMeet, CodecCall.disable]

@[simp] theorem CodecClocks.mayMeet_wait (k : CodecClocks) (us : UInt32) :
    k.MayMeet (.wait us) := by
  simp [MayMeet]

theorem CodecClocks.SamePaths.mayArm {k k' : CodecClocks} (h : k.SamePaths k') {path : FllPath}
    {input : FllInput} (hk : k'.MayArm path input) : k.MayArm path input := by
  obtain ⟨hmain, href⟩ := h
  cases path <;> cases input <;> simp_all [MayArm]

section Trace

variable {k : CodecClocks} {e : Event} {es fs : List Event}

theorem clearBeforeSet_nil : ClearBeforeSet k [] := by
  intro before path input fref fout failure after h
  simp at h

theorem clearBeforeSet_cons :
    ClearBeforeSet k (e :: es) ↔ k.MayMeet e ∧ ClearBeforeSet (k.replay [e]) es := by
  constructor
  · intro h
    refine ⟨fun path input fref fout failure he => ?_, ?_⟩
    · exact h [] path input fref fout failure es (by rw [he]; rfl)
    · intro before path input fref fout failure after hes
      rw [← CodecClocks.replay_cons]
      exact h (e :: before) path input fref fout failure after (by rw [hes]; rfl)
  · rintro ⟨he, hes⟩ before path input fref fout failure after heq
    rcases before with _ | ⟨e', before⟩
    · obtain ⟨rfl, rfl⟩ := List.cons.inj heq
      exact he path input fref fout failure rfl
    · obtain ⟨rfl, rfl⟩ := List.cons.inj heq
      rw [CodecClocks.replay_cons]
      exact hes before path input fref fout failure after rfl

theorem clearBeforeSet_append (hes : ClearBeforeSet k es) (hfs : ClearBeforeSet (k.replay es) fs) :
    ClearBeforeSet k (es ++ fs) := by
  induction es generalizing k with
  | nil => exact hfs
  | cons e es ih =>
    obtain ⟨he, hes⟩ := clearBeforeSet_cons.1 hes
    rw [CodecClocks.replay_cons] at hfs
    exact clearBeforeSet_cons.2 ⟨he, ih hes hfs⟩

/-- Only the steps that concern FLL1 count. -/
theorem clearBeforeSet_of_fllSteps :
    ∀ (es : List Event) {k k' : CodecClocks}, k.SamePaths k' →
      ClearBeforeSet k' (Trace.fllSteps es) → ClearBeforeSet k es
  | [], _, _, _, _ => clearBeforeSet_nil
  | e :: es, k, k', hk, h => by
    rw [Trace.fllSteps, List.filter_cons] at h
    rw [clearBeforeSet_cons]
    split at h
    · obtain ⟨he, h⟩ := clearBeforeSet_cons.1 h
      refine ⟨fun path input fref fout failure heq => ?_, ?_⟩
      · exact hk.mayArm (he path input fref fout failure heq)
      · exact clearBeforeSet_of_fllSteps es (hk.replay_event e) h
    · rename_i he
      have he : e.isFllStep = false := by simpa using he
      refine ⟨fun path input fref fout failure heq => ?_, ?_⟩
      · rw [heq] at he
        cases he
      · exact clearBeforeSet_of_fllSteps es (hk.replay_other he) h

end Trace

section Moves

open Clock

variable (k : CodecClocks) (board : Board)

theorem clearBeforeSet_disable (f g : Option Failure) : ClearBeforeSet k (disableSteps f g) := by
  simp [disableSteps, clearBeforeSet_cons, clearBeforeSet_nil]

variable {k}

theorem clearBeforeSet_masterLock (hmain : k.main = none) (href : k.reference = none) (hz : Hz)
    (f : Option Failure) : ClearBeforeSet k (masterLockSteps board hz f) := by
  simp [masterLockSteps, clearBeforeSet_cons, clearBeforeSet_nil, CodecClocks.MayArm, hmain, href]

theorem clearBeforeSet_prime (hmain : k.main = none) (href : k.reference = none) (hz : Hz)
    (f : Option Failure) : ClearBeforeSet k (primeSteps board hz f) := by
  simp [primeSteps, clearBeforeSet_cons, clearBeforeSet_nil, CodecClocks.MayArm, hmain, href]

theorem clearBeforeSet_recoveredLock (hmain : k.main = none) (bitClock hz : Hz)
    (f : Option Failure) : ClearBeforeSet k (recoveredLockSteps board bitClock hz f) := by
  simp [recoveredLockSteps, clearBeforeSet_cons, clearBeforeSet_nil, CodecClocks.MayArm, hmain]

variable {board} {mode mode' : FllMode} {es : List Event}

/-- No way of moving FLL1 arms a path while another one runs, whatever ran before and whatever mode
is on record: the calls that arm follow two disables acknowledged in the same move. -/
theorem FllMove.clearBeforeSet (h : FllMove board mode es mode') (k : CodecClocks) :
    ClearBeforeSet k es := by
  have hdisable := clearBeforeSet_disable k none none
  cases h with
  | idle => exact clearBeforeSet_nil
  | kept _ => exact clearBeforeSet_disable k _ _
  | stopped f g => exact clearBeforeSet_disable k f g
  | master hz => exact clearBeforeSet_append hdisable (clearBeforeSet_masterLock board rfl rfl hz _)
  | masterRefused hz f =>
    exact clearBeforeSet_append hdisable (clearBeforeSet_masterLock board rfl rfl hz _)
  | primeFailed hz f =>
    exact clearBeforeSet_append hdisable (clearBeforeSet_prime board rfl rfl hz _)
  | recovered bitClock hz | recoveredRefused bitClock hz f =>
    refine clearBeforeSet_append hdisable (clearBeforeSet_append ?_ ?_)
    · exact clearBeforeSet_prime board rfl rfl hz _
    · exact clearBeforeSet_recoveredLock board rfl bitClock hz _

end Moves

/-- Whatever the card believes of its clocks, whatever the codec's clocks are set to and whichever
calls fail, no operation of a history arms a path while another one runs. -/
theorem Card.play_clearBeforeSet {H : Type} (dev : Device H) :
    ∀ (ops : List Operation) (c : Card) (h : H) (k : CodecClocks),
      ClearBeforeSet k (play dev ops c h).events
  | [], _, _, _ => clearBeforeSet_nil
  | op :: ops, c, h, k => by
    rw [events_play_cons]
    refine clearBeforeSet_append ?_ (play_clearBeforeSet dev ops _ _ _)
    exact clearBeforeSet_of_fllSteps _ ⟨rfl, rfl⟩ ((run_fllMove dev op c h).clearBeforeSet k)

end SoundCard
