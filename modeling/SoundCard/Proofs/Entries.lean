import SoundCard.History

/-!
# What the entries of a history come to

Some states of the card and its codec come about in one way and end in another: one operation raises
them, and a later one puts an end to them. Where that is so of every single operation, a history
ends in such a state just if the last entry that mattered raised it (`Card.play_since`).
-/

namespace SoundCard

/-- The entry of one operation. -/
def Operation.entry {H : Type} (dev : Device H) (op : Operation) (c : Card) (h : H) : Entry :=
  let run := (op.perform c).run dev h
  ⟨op, run.value.1, run.events, run.value.2⟩

/-- Some entry satisfies `raises`, and none after it satisfies `ends`. -/
def Since (raises ends : Entry → Prop) (entries : List Entry) : Prop :=
  ∃ e after, e :: after <:+ entries ∧ raises e ∧ ∀ e' ∈ after, ¬ ends e'

section Since

variable {raises ends : Entry → Prop}

theorem not_since_nil : ¬ Since raises ends [] := by
  rintro ⟨e, after, hsuffix, -⟩
  simp at hsuffix

theorem not_since_of_forall {es : List Entry} (h : ∀ e ∈ es, ¬ raises e) :
    ¬ Since raises ends es := by
  rintro ⟨e, after, hsuffix, hraises, -⟩
  exact h e (hsuffix.subset List.mem_cons_self) hraises

theorem since_cons {e : Entry} {es : List Entry} :
    Since raises ends (e :: es) ↔
      (raises e ∧ ∀ e' ∈ es, ¬ ends e') ∨ Since raises ends es := by
  constructor
  · rintro ⟨e', after, hsuffix, hraises, hends⟩
    rcases List.suffix_cons_iff.1 hsuffix with heq | hsuffix
    · obtain ⟨rfl, rfl⟩ := List.cons.inj heq
      exact .inl ⟨hraises, hends⟩
    · exact .inr ⟨e', after, hsuffix, hraises, hends⟩
  · rintro (⟨hraises, hends⟩ | ⟨e', after, hsuffix, h⟩)
    · exact ⟨e, es, List.suffix_rfl, hraises, hends⟩
    · exact ⟨e', after, hsuffix.trans (List.suffix_cons e es), h⟩

/-- With one more entry at the end, that entry raised it, or it stood before and was not ended. -/
theorem since_concat {e : Entry} {es : List Entry} :
    Since raises ends (es ++ [e]) ↔ raises e ∨ (Since raises ends es ∧ ¬ ends e) := by
  induction es with
  | nil => simp [since_cons, not_since_nil]
  | cons e' es ih =>
    rw [List.cons_append, since_cons, since_cons, ih, List.forall_mem_append,
      List.forall_mem_singleton, or_and_right, and_assoc]
    exact or_left_comm

end Since

namespace Card

variable {H : Type} (dev : Device H)

theorem events_play_cons (op : Operation) (ops : List Operation) (c : Card) (h : H) :
    (play dev (op :: ops) c h).events =
      (op.entry dev c h).events ++
        (play dev ops (op.entry dev c h).card ((op.perform c).run dev h).hardware).events := rfl

theorem entries_play_cons (op : Operation) (ops : List Operation) (c : Card) (h : H) :
    (play dev (op :: ops) c h).entries =
      op.entry dev c h ::
        (play dev ops (op.entry dev c h).card ((op.perform c).run dev h).hardware).entries := rfl

theorem operation_of_mem_entries {e : Entry} :
    ∀ (ops : List Operation) (c : Card) (h : H), e ∈ (play dev ops c h).entries →
      e.operation ∈ ops
  | op :: ops, c, h, he => by
    rcases List.mem_cons.1 he with rfl | he
    · exact List.mem_cons_self
    · exact List.mem_cons_of_mem _ (operation_of_mem_entries ops _ _ he)

theorem play_concat (ops : List Operation) (op : Operation) (c : Card) (h : H) :
    play dev (ops ++ [op]) c h =
      let p := play dev ops c h
      ⟨p.entries ++ [op.entry dev p.card p.hardware], (op.entry dev p.card p.hardware).card,
        ((op.perform p.card).run dev p.hardware).hardware⟩ :=
  play_append dev ops [op] c h

theorem events_play_concat (ops : List Operation) (op : Operation) (c : Card) (h : H) :
    let p := play dev ops c h
    (play dev (ops ++ [op]) c h).events =
      p.events ++ (op.entry dev p.card p.hardware).events := by
  rw [play_concat]
  simp [Played.events]

/-- What each operation does may count on what all of them keep. -/
theorem forall_entries_of (Inv : Card → Prop) {P : Entry → Prop}
    (hinv : ∀ (op : Operation) c h, Inv c → Inv (op.entry dev c h).card)
    (hP : ∀ (op : Operation) c h, Inv c → P (op.entry dev c h)) :
    ∀ (ops : List Operation) (c : Card) (h : H), Inv c → ∀ e ∈ (play dev ops c h).entries, P e
  | [], _, _, _, _, he => by cases he
  | op :: ops, c, h, hc, e, he => by
    rcases List.mem_cons.1 he with rfl | he
    · exact hP op c h hc
    · exact forall_entries_of Inv hinv hP ops _ _ (hinv op c h hc) e he

theorem forall_entries {P : Entry → Prop}
    (hP : ∀ (op : Operation) c h, P (op.entry dev c h)) (ops : List Operation) (c : Card) (h : H) :
    ∀ e ∈ (play dev ops c h).entries, P e :=
  forall_entries_of dev (fun _ => True) (fun _ _ _ _ => trivial) (fun op c h _ => hP op c h) ops c h
    trivial

section State

variable (Bad : Card → CodecClocks → Prop) (raises ends : Entry → Prop) (Allowed : Event → Prop)

/-- A history ends in a bad state just if an entry raised it and none after that ended it, or it was
there from the start and no entry ended it. Each operation may count on what all of them keep. -/
theorem play_since_of (Inv : Card → Prop)
    (hinv : ∀ (op : Operation) c h, Inv c → Inv (op.entry dev c h).card)
    (hstep : ∀ (op : Operation) c h k, Inv c →
      (∀ e ∈ (op.entry dev c h).events, Allowed e) →
      (Bad (op.entry dev c h).card (k.replay (op.entry dev c h).events) ↔
        raises (op.entry dev c h) ∨ (Bad c k ∧ ¬ ends (op.entry dev c h)))) :
    ∀ (ops : List Operation) (c : Card) (h : H) (k : CodecClocks), Inv c →
      (∀ e ∈ (play dev ops c h).events, Allowed e) →
      (Bad (play dev ops c h).card (k.replay (play dev ops c h).events) ↔
        Since raises ends (play dev ops c h).entries ∨
          (Bad c k ∧ ∀ e ∈ (play dev ops c h).entries, ¬ ends e))
  | [], c, h, k, _, _ => by simp [play, Played.events, not_since_nil]
  | op :: ops, c, h, k, hc, hallowed => by
    rw [events_play_cons] at hallowed
    have hone := hstep op c h k hc fun e he => hallowed e (List.mem_append_left _ he)
    have hrest := play_since_of Inv hinv hstep ops (op.entry dev c h).card
      ((op.perform c).run dev h).hardware (k.replay (op.entry dev c h).events) (hinv op c h hc)
      fun e he => hallowed e (List.mem_append_right _ he)
    rw [events_play_cons, CodecClocks.replay_append, entries_play_cons, since_cons,
      List.forall_mem_cons]
    refine hrest.trans ?_
    rw [hone, or_and_right, and_assoc, or_left_comm, or_assoc]

theorem play_since
    (hstep : ∀ (op : Operation) c h k, (∀ e ∈ (op.entry dev c h).events, Allowed e) →
      (Bad (op.entry dev c h).card (k.replay (op.entry dev c h).events) ↔
        raises (op.entry dev c h) ∨ (Bad c k ∧ ¬ ends (op.entry dev c h))))
    (ops : List Operation) (c : Card) (h : H) (k : CodecClocks)
    (hallowed : ∀ e ∈ (play dev ops c h).events, Allowed e) :
    Bad (play dev ops c h).card (k.replay (play dev ops c h).events) ↔
      Since raises ends (play dev ops c h).entries ∨
        (Bad c k ∧ ∀ e ∈ (play dev ops c h).entries, ¬ ends e) :=
  play_since_of dev Bad raises ends Allowed (fun _ => True) (fun _ _ _ _ => trivial)
    (fun op c h k _ => hstep op c h k) ops c h k trivial hallowed

end State

/-- Where a card comes to have a property only through entries that raise it, a history ends with the
property just if an entry raised it and no card since was without it. -/
theorem play_since_kept (P : Card → Prop) (raises : Entry → Prop) (Inv : Card → Prop)
    (hinv : ∀ (op : Operation) c h, Inv c → Inv (op.entry dev c h).card)
    (hraises : ∀ e, raises e → P e.card)
    (hstep : ∀ (op : Operation) c h, Inv c → P (op.entry dev c h).card →
      P c ∨ raises (op.entry dev c h))
    (ops : List Operation) {c : Card} (h : H) (hc : Inv c) (hstart : ¬ P c) :
    P (play dev ops c h).card ↔
      Since raises (fun e => ¬ P e.card) (play dev ops c h).entries := by
  have hone : ∀ (op : Operation) c h, Inv c →
      (P (op.entry dev c h).card ↔
        raises (op.entry dev c h) ∨ (P c ∧ ¬ ¬ P (op.entry dev c h).card)) := by
    intro op c h hc
    constructor
    · intro hafter
      rcases hstep op c h hc hafter with hbefore | hraised
      · exact .inr ⟨hbefore, fun hends => hends hafter⟩
      · exact .inl hraised
    · rintro (hraised | ⟨-, hkept⟩)
      · exact hraises _ hraised
      · exact Classical.not_not.1 hkept
  have hsince := play_since_of dev (fun c _ => P c) raises (fun e => ¬ P e.card) (fun _ => True)
    Inv hinv (fun op c h _ hc _ => hone op c h hc) ops c h {} hc fun _ _ => trivial
  exact hsince.trans (or_iff_left fun hkept => hstart hkept.1)

end Card

end SoundCard
