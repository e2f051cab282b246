import SoundCard.Action

/-!
# Work confined to a part

A `Cut` divides a state into a part and the rest of it. Work is confined to the parts of two cuts,
one of the card's state and one of the hardware, where what it does and answers depends on these
parts only, and the rest stays as it was. Confined work composes, so what is confined need only be
known of single calls.
-/

namespace SoundCard

/-- A state divided in two. -/
structure Cut (σ υ ρ : Type) where
  part : σ → υ
  rest : σ → ρ

def Cut.whole {σ : Type} : Cut σ σ Unit := ⟨id, fun _ => ()⟩

namespace Device

variable {H υ ρ : Type} (dev : Device H) (side : Cut H υ ρ)

/-- What a call is answered and does to the part depends on the part only; the rest stays. -/
def Confines (c : Call) : Prop :=
  ∀ h h' : H, side.part h = side.part h' →
    (dev.perform c h).1 = (dev.perform c h').1 ∧
      side.part (dev.perform c h).2 = side.part (dev.perform c h').2 ∧
      side.rest (dev.perform c h).2 = side.rest h

/-- What time does to the part depends on the part only; the rest stays. -/
def ConfinesWaits : Prop :=
  ∀ (us : UInt32) (h h' : H), side.part h = side.part h' →
    side.part (dev.wait us h) = side.part (dev.wait us h') ∧
      side.rest (dev.wait us h) = side.rest h

end Device

namespace Action

variable {σ τ α β H υ ρ υ' ρ' : Type}

/-- From states and hardware that agree on their parts the action does the same, and it leaves the
rest alone. -/
def Confined (dev : Device H) (side : Cut H υ' ρ') (cut : Cut σ υ ρ) (x : Action σ α) : Prop :=
  ∀ (s s' : σ) (h h' : H), cut.part s = cut.part s' → side.part h = side.part h' →
    let run := (x s).run dev h
    let run' := (x s').run dev h'
    (run.value.1 = run'.value.1 ∧ run.events = run'.events) ∧
      (cut.part run.value.2 = cut.part run'.value.2 ∧
        side.part run.hardware = side.part run'.hardware) ∧
      cut.rest run.value.2 = cut.rest s ∧ side.rest run.hardware = side.rest h

variable {dev : Device H} {side : Cut H υ' ρ'} {cut : Cut σ υ ρ}

theorem confined_pure (a : α) : Confined dev side cut (pure a) :=
  fun _ _ _ _ hs hh => ⟨⟨rfl, rfl⟩, ⟨hs, hh⟩, rfl, rfl⟩

theorem confined_ofExcept (r : Except CardError α) : Confined dev side cut (ofExcept r) :=
  fun _ _ _ _ hs hh => ⟨⟨rfl, rfl⟩, ⟨hs, hh⟩, rfl, rfl⟩

theorem confined_log (line : LogLine) : Confined dev side cut (log line) :=
  fun _ _ _ _ hs hh => ⟨⟨rfl, rfl⟩, ⟨hs, hh⟩, rfl, rfl⟩

theorem confined_logFailure (line : LogLine) (r : Except CardError α) :
    Confined dev side cut (logFailure line r) := by
  cases r
  · exact confined_log line
  · exact confined_pure ()

theorem confined_update {f : σ → σ}
    (hpart : ∀ s s', cut.part s = cut.part s' → cut.part (f s) = cut.part (f s'))
    (hrest : ∀ s, cut.rest (f s) = cut.rest s) : Confined dev side cut (update f) :=
  fun _ _ _ _ hs hh => ⟨⟨rfl, rfl⟩, ⟨hpart _ _ hs, hh⟩, hrest _, rfl⟩

theorem confined_update_whole (f : σ → σ) : Confined dev side Cut.whole (update f) :=
  confined_update (fun _ _ => congrArg f) fun _ => rfl

theorem confined_wait (hwait : dev.ConfinesWaits side) (us : UInt32) :
    Confined dev side cut (wait us) := by
  intro s s' h h' hs hh
  obtain ⟨hpart, hrest⟩ := hwait us h h' hh
  exact ⟨⟨rfl, rfl⟩, ⟨hs, hpart⟩, rfl, hrest⟩

theorem confined_perform {c : Call} (hc : dev.Confines side c) (step : CardStep) :
    Confined dev side cut (perform step c) := by
  intro s s' h h' hs hh
  obtain ⟨hanswer, hpart, hrest⟩ := hc h h' hh
  refine ⟨⟨?_, ?_⟩, ⟨hs, hpart⟩, rfl, hrest⟩
  · exact congrArg (Except.mapError (CardError.hardware step)) hanswer
  · exact congrArg (fun r => [Event.call c (failureOf r)]) hanswer

theorem Confined.bind {x : Action σ α} {f : α → Action σ β} (hx : Confined dev side cut x)
    (hf : ∀ a, Confined dev side cut (f a)) : Confined dev side cut (x >>= f) := by
  intro s s' h h' hs hh
  simp only [bind_apply, Program.run_bind]
  obtain ⟨⟨hr, hes⟩, ⟨ht, hg⟩, hrest, hrest'⟩ := hx s s' h h' hs hh
  generalize (x s).run dev h = run at hr hes ht hg hrest hrest' ⊢
  generalize (x s').run dev h' = run' at hr hes ht hg ⊢
  obtain ⟨⟨r, t⟩, g, es⟩ := run
  obtain ⟨⟨r', t'⟩, g', es'⟩ := run'
  obtain rfl : r = r' := hr
  obtain rfl : es = es' := hes
  rcases r with e | a
  · exact ⟨⟨rfl, rfl⟩, ⟨ht, hg⟩, hrest, hrest'⟩
  · obtain ⟨⟨hq, hfs⟩, hparts, hkept, hkept'⟩ := hf a t t' g g' ht hg
    exact ⟨⟨hq, congrArg (es ++ ·) hfs⟩, hparts, hkept.trans hrest, hkept'.trans hrest'⟩

/-- Work that looks at the state, and sees no more of it than the part. -/
theorem confined_state_bind {f : σ → Action σ α}
    (hf : ∀ s s', cut.part s = cut.part s' → f s = f s')
    (h : ∀ s, Confined dev side cut (f s)) : Confined dev side cut (state >>= f) := by
  intro s s' g g' hs hh
  have hsame : (state >>= f) s' = f s s' := by
    rw [hf s s' hs]
    rfl
  rw [hsame]
  exact h s s s' g g' hs hh

theorem confined_state_bind_whole {f : σ → Action σ α}
    (h : ∀ s, Confined dev side Cut.whole (f s)) : Confined dev side Cut.whole (state >>= f) :=
  confined_state_bind (fun _ _ => congrArg f) h

theorem Confined.attempt {x : Action σ α} (hx : Confined dev side cut x) :
    Confined dev side cut x.attempt := by
  intro s s' h h' hs hh
  simp only [Action.attempt, Program.map, Program.run_bind]
  obtain ⟨⟨hr, hes⟩, hparts, hkept⟩ := hx s s' h h' hs hh
  exact ⟨⟨congrArg Except.ok hr, congrArg (· ++ []) hes⟩, hparts, hkept⟩

theorem Confined.orLog {x : Action σ α} (hx : Confined dev side cut x) (line : LogLine) :
    Confined dev side cut (x.orLog line) :=
  hx.attempt.bind fun r => (confined_logFailure line r).bind fun _ => confined_ofExcept r

theorem confined_ite {p : Prop} [Decidable p] {x y : Action σ α} (hx : Confined dev side cut x)
    (hy : Confined dev side cut y) : Confined dev side cut (if p then x else y) := by
  split
  · exact hx
  · exact hy

theorem Confined.within {get : τ → σ} {set : σ → τ → τ} {cut : Cut τ υ ρ} {x : Action σ α}
    (hx : Confined dev side Cut.whole x)
    (hget : ∀ t t', cut.part t = cut.part t' → get t = get t')
    (hset : ∀ s t t', cut.part t = cut.part t' → cut.part (set s t) = cut.part (set s t'))
    (hrest : ∀ s t, cut.rest (set s t) = cut.rest t) :
    Confined dev side cut (x.within get set) := by
  intro t t' h h' ht hh
  simp only [Action.within, Program.map, Program.run_bind]
  obtain ⟨⟨hr, hes⟩, ⟨hs, hg⟩, -, hkept⟩ := hx _ _ h h' (hget t t' ht) hh
  refine ⟨⟨hr, congrArg (· ++ []) hes⟩, ⟨?_, hg⟩, hrest _ _, hkept⟩
  have hsame : ((x (get t)).run dev h).value.2 = ((x (get t')).run dev h').value.2 := hs
  simp only [Program.run, hsame]
  exact hset _ t t' ht

end Action

end SoundCard
