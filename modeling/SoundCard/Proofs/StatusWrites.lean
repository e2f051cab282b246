import SoundCard.Proofs.StatusRegisters

/-!
# What a store of the status writes

A store writes the bytes that differ from those kept, in order, until a write fails
(`StoreOutcome`). A byte is kept as soon as it is written, so an attempt that failed leaves just the
bytes it did not write for the next one, and attempts that go on until one succeeds write each byte
that differed once (`Card.play_stores`).
-/

namespace SoundCard

open SoundCard.Action Transceiver

namespace ChannelStatus

variable {s wanted status : ChannelStatus} {i j : Fin 4} {places done rest : List (Fin 4)}

/-- The byte counts as another one under the mask. -/
def differsAt (s wanted : ChannelStatus) (i : Fin 4) : Bool :=
  s.masked.byte i ≠ wanted.masked.byte i

/-- The places of the bytes that differ, in order. -/
def differing (s wanted : ChannelStatus) : List (Fin 4) :=
  (List.finRange 4).filter (s.differsAt wanted)

/-- The status with the bytes at the given places taken from another one, under the mask. -/
def copy (s wanted : ChannelStatus) : List (Fin 4) → ChannelStatus
  | [] => s
  | i :: rest => (s.setByte i (wanted.masked.byte i)).copy wanted rest

theorem byte_copy_of_not_mem (wanted : ChannelStatus) {j : Fin 4} :
    ∀ (places : List (Fin 4)) (s : ChannelStatus), j ∉ places →
      (s.copy wanted places).byte j = s.byte j
  | [], _, _ => rfl
  | i :: rest, s, h => by
    rw [List.mem_cons, not_or] at h
    rw [copy, byte_copy_of_not_mem wanted rest _ h.2, byte_setByte_of_ne s _ h.1]

theorem byte_copy_of_mem (wanted : ChannelStatus) {j : Fin 4} :
    ∀ (places : List (Fin 4)) (s : ChannelStatus), j ∈ places →
      (s.copy wanted places).byte j = wanted.masked.byte j
  | i :: rest, s, h => by
    rw [copy]
    by_cases hrest : j ∈ rest
    · exact byte_copy_of_mem wanted rest _ hrest
    · obtain rfl : j = i := (List.mem_cons.1 h).resolve_right hrest
      rw [byte_copy_of_not_mem wanted rest _ hrest, byte_setByte_self]

theorem differsAt_copy_iff (s wanted : ChannelStatus) (places : List (Fin 4)) (j : Fin 4) :
    (s.copy wanted places).differsAt wanted j = true ↔
      s.differsAt wanted j = true ∧ j ∉ places := by
  by_cases hj : j ∈ places
  · simp [differsAt, byte_copy_of_mem wanted places s hj, hj, UInt8.and_assoc]
  · simp [differsAt, byte_copy_of_not_mem wanted places s hj, hj]

theorem differing_congr (s : ChannelStatus) (h : status.masked = wanted.masked) :
    s.differing status = s.differing wanted := by
  have hat : s.differsAt status = s.differsAt wanted := by
    funext i
    rw [differsAt, differsAt, h]
  rw [differing, differing, hat]

theorem differing_masked (wanted : ChannelStatus) : wanted.masked.differing wanted = [] := by
  refine List.filter_eq_nil_iff.2 fun i _ => ?_
  simp [differsAt, masked_masked]

theorem differing_eq (hs : s.masked = s) (wanted : ChannelStatus) :
    s.differing wanted = (List.finRange 4).filter fun i => s.byte i ≠ wanted.masked.byte i := by
  refine List.filter_congr fun i _ => ?_
  rw [differsAt, hs]

theorem nodup_differing (s wanted : ChannelStatus) : (s.differing wanted).Nodup :=
  (List.nodup_finRange 4).filter _

/-- The first bytes that differed are written: the others still differ. -/
theorem differing_copy (h : s.differing wanted = done ++ rest) :
    (s.copy wanted done).differing wanted = rest := by
  have hnodup := nodup_differing s wanted
  rw [h, List.nodup_append] at hnodup
  have hdone : done.filter (fun j => decide (j ∉ done)) = [] := by
    simp
  have hrest : rest.filter (fun j => decide (j ∉ done)) = rest := by
    refine List.filter_eq_self.2 fun j hj => ?_
    simpa using fun hdone => hnodup.2.2 j hdone j hj rfl
  have hfilter : (s.copy wanted done).differing wanted =
      (s.differing wanted).filter fun j => decide (j ∉ done) := by
    rw [differing, differing, List.filter_filter]
    refine List.filter_congr fun j _ => ?_
    rw [Bool.eq_iff_iff, differsAt_copy_iff, Bool.and_eq_true, decide_eq_true_iff, and_comm]
  rw [hfilter, h, List.filter_append, hdone, hrest, List.nil_append]

theorem byte_eq_of_not_mem (hs : s.masked = s) (h : j ∉ s.differing wanted) :
    s.byte j = wanted.masked.byte j := by
  by_contra hne
  refine h (List.mem_filter.2 ⟨List.mem_finRange j, ?_⟩)
  simpa [differsAt, hs] using hne

theorem differing_eq_nil_iff (hs : s.masked = s) : s.differing wanted = [] ↔ s = wanted.masked := by
  constructor
  · intro hnone
    exact ext fun i => byte_eq_of_not_mem hs (by rw [hnone]; exact List.not_mem_nil)
  · rintro rfl
    exact differing_masked wanted

theorem copy_differing (hs : s.masked = s) : s.copy wanted (s.differing wanted) = wanted.masked := by
  refine ext fun j => ?_
  by_cases hj : j ∈ s.differing wanted
  · exact byte_copy_of_mem wanted _ s hj
  · rw [byte_copy_of_not_mem wanted _ s hj]
    exact byte_eq_of_not_mem hs hj

/-- The places are in order, so the bytes written are those below the one that was not. -/
theorem byte_copy_of_cut (hs : s.masked = s) (h : s.differing wanted = done ++ i :: rest)
    (j : Fin 4) : (s.copy wanted done).byte j = if j < i then wanted.masked.byte j else s.byte j := by
  have hsorted : (done ++ i :: rest).Pairwise (· < ·) :=
    h ▸ (List.pairwise_lt_finRange 4).filter _
  rw [List.pairwise_append, List.pairwise_cons] at hsorted
  obtain ⟨-, ⟨hrest, -⟩, hdone⟩ := hsorted
  by_cases hj : j ∈ done
  · rw [byte_copy_of_mem wanted done s hj, if_pos (hdone j hj i List.mem_cons_self)]
  · rw [byte_copy_of_not_mem wanted done s hj]
    split
    · rename_i hlt
      refine byte_eq_of_not_mem hs fun hmem => ?_
      rw [h, List.mem_append, List.mem_cons] at hmem
      rcases hmem with hmem | rfl | hmem
      · exact hj hmem
      · exact Fin.lt_irrefl _ hlt
      · exact Fin.lt_asymm hlt (hrest j hmem)
    · rfl

end ChannelStatus

section Stores

open TransmitStatus

variable {wanted status s t : ChannelStatus} {i : Fin 4} {plan : List (Fin 4)}
  {r : Except CardError Bool} {es : List Event}

/-- The call that writes byte `i` of a status, under its mask. -/
def statusWrite (wanted : ChannelStatus) (i : Fin 4) : Call :=
  .transceiver (.updateBits (transmitRegister i) (ChannelStatus.mask.byte i) (wanted.masked.byte i))

def writeStep (wanted : ChannelStatus) (f : Option Failure) (i : Fin 4) : Event :=
  .call (statusWrite wanted i) f

/-- The planned bytes are all written, or all before one whose write fails. -/
inductive StoreOutcome (wanted s : ChannelStatus) (plan : List (Fin 4)) :
    Except CardError Bool → ChannelStatus → List Event → Prop
  | stored : StoreOutcome wanted s plan (.ok (decide (plan ≠ []))) (s.copy wanted plan)
      (plan.map (writeStep wanted none))
  | cut {done rest : List (Fin 4)} {i : Fin 4} (f : Failure) (h : plan = done ++ i :: rest) :
    StoreOutcome wanted s plan (.error (.hardware .writeStatus f)) (s.copy wanted done)
      (done.map (writeStep wanted none) ++ [writeStep wanted (some f) i])

theorem StoreOutcome.next
    (h : StoreOutcome wanted (s.setByte i (wanted.masked.byte i)) plan r t es) :
    StoreOutcome wanted s (i :: plan) (r.map fun _ => true) t (writeStep wanted none i :: es) := by
  cases h with
  | stored => exact .stored
  | @cut done rest k f h =>
    have hplan : i :: plan = (i :: done) ++ k :: rest := congrArg (i :: ·) h
    exact .cut f hplan

/-- Nothing is written where nothing differs. -/
theorem StoreOutcome.of_nil (h : StoreOutcome wanted s [] r t es) :
    r = .ok false ∧ t = s ∧ es = [] := by
  cases h with
  | stored => exact ⟨rfl, rfl, rfl⟩
  | cut f h => simp at h

/-- How a store ends where no bit is kept that does not exist. -/
theorem StoreOutcome.of_masked (h : StoreOutcome wanted s (s.differing wanted) r t es)
    (hs : s.masked = s) :
    (r = .ok (decide (s.differing wanted ≠ [])) ∧ t = wanted.masked ∧
      es = (s.differing wanted).map (writeStep wanted none)) ∨
    ∃ done i rest f, s.differing wanted = done ++ i :: rest ∧
      r = .error (.hardware .writeStatus f) ∧
      es = done.map (writeStep wanted none) ++ [writeStep wanted (some f) i] ∧
      ∀ j, t.byte j = if j < i then wanted.masked.byte j else s.byte j := by
  cases h with
  | stored => exact .inl ⟨rfl, ChannelStatus.copy_differing hs, rfl⟩
  | cut f h => exact .inr ⟨_, _, _, f, h, rfl, rfl, ChannelStatus.byte_copy_of_cut hs h⟩

theorem StoreOutcome.of_ok {changed : Bool}
    (h : StoreOutcome wanted s (s.differing wanted) (.ok changed) t es) (hs : s.masked = s) :
    t = wanted.masked ∧ (changed = true ↔ s ≠ wanted.masked) := by
  cases h with
  | stored =>
    refine ⟨ChannelStatus.copy_differing hs, ?_⟩
    rw [decide_eq_true_iff]
    exact not_congr (ChannelStatus.differing_eq_nil_iff hs)

theorem StoreOutcome.mem (h : StoreOutcome wanted s plan r t es) {e : Event} (he : e ∈ es) :
    ∃ f i, e = writeStep wanted f i := by
  cases h with
  | stored =>
    obtain ⟨i, -, rfl⟩ := List.mem_map.1 he
    exact ⟨none, i, rfl⟩
  | cut f h =>
    rcases List.mem_append.1 he with he | he
    · obtain ⟨i, -, rfl⟩ := List.mem_map.1 he
      exact ⟨none, i, rfl⟩
    · exact ⟨some f, _, List.mem_singleton.1 he⟩

theorem failures_map_writeStep (plan : List (Fin 4)) :
    Trace.failures (plan.map (writeStep wanted none)) = [] := by
  induction plan with
  | nil => rfl
  | cons i plan ih => exact ih

theorem StoreOutcome.ok_iff (h : StoreOutcome wanted s plan r t es) :
    (∃ changed, r = .ok changed) ↔ Trace.failures es = [] := by
  cases h with
  | stored => exact ⟨fun _ => failures_map_writeStep plan, fun _ => ⟨_, rfl⟩⟩
  | cut f h => simp [Trace.failures, writeStep, Event.failed?]

theorem statusWrite_congr (h : status.masked = wanted.masked) :
    statusWrite status = statusWrite wanted := by
  funext i
  rw [statusWrite, statusWrite, h]

theorem accepted_map_writeStep (plan : List (Fin 4)) :
    (plan.map (writeStep wanted none)).filterMap Event.accepted? = plan.map (statusWrite wanted) := by
  induction plan with
  | nil => rfl
  | cons i plan ih => exact congrArg (statusWrite wanted i :: ·) ih

/-- What an attempt wrote and what still differs after it make up what differed before. -/
theorem StoreOutcome.accepted (h : StoreOutcome wanted s (s.differing wanted) r t es) :
    es.filterMap Event.accepted? ++ (t.differing wanted).map (statusWrite wanted) =
      (s.differing wanted).map (statusWrite wanted) := by
  cases h with
  | stored =>
    have hnone : (s.copy wanted (s.differing wanted)).differing wanted = [] :=
      ChannelStatus.differing_copy (List.append_nil _).symm
    rw [hnone, accepted_map_writeStep, List.map_nil, List.append_nil]
  | @cut done rest i f h =>
    have hfailed : [writeStep wanted (some f) i].filterMap Event.accepted? = [] := rfl
    rw [ChannelStatus.differing_copy h, h, List.filterMap_append, accepted_map_writeStep, hfailed,
      List.append_nil, List.map_append]

theorem TransmitStatus.ensures_write (line : LogLine)
    {Q : Except CardError Unit → ChannelStatus → List Event → Prop} :
    (Action.orLog (.transceiver .writeStatus (.updateBits (transmitRegister i)
      (ChannelStatus.mask.byte i) (wanted.masked.byte i))) line).Ensures s Q ↔
      Q (.ok ()) s [writeStep wanted none i] ∧
        ∀ f, Q (.error (.hardware .writeStatus f)) s [writeStep wanted (some f) i] := by
  rw [ensures_orLog, Action.transceiver, ensures_perform]
  exact and_congr_left' ⟨fun h => h (), fun h _ => h⟩

/-- No place comes twice, so after each byte there is as much left to write as was planned. -/
theorem TransmitStatus.storeAt_ensures (wanted : ChannelStatus) :
    ∀ (places : List (Fin 4)) (s : ChannelStatus), places.Nodup →
      (storeAt wanted places).Ensures s (StoreOutcome wanted s (places.filter (s.differsAt wanted)))
  | [], s, _ => .stored
  | i :: rest, s, hnodup => by
    obtain ⟨hi, hrest⟩ := List.nodup_cons.1 hnodup
    rw [storeAt, ensures_bind, ensures_state, then_ok]
    split
    · rename_i heq
      simpa [ChannelStatus.differsAt, heq] using storeAt_ensures wanted rest s hrest
    · rename_i hne
      have hplan : rest.filter ((s.setByte i (wanted.masked.byte i)).differsAt wanted) =
          rest.filter (s.differsAt wanted) := by
        refine List.filter_congr fun j hj => ?_
        have hji : j ≠ i := fun heq => hi (heq ▸ hj)
        simp [ChannelStatus.differsAt, ChannelStatus.byte_setByte_of_ne s _ hji]
      have hfirst : s.differsAt wanted i = true := by simpa [ChannelStatus.differsAt] using hne
      have hcut : i :: rest.filter (s.differsAt wanted) = [] ++ i :: rest.filter _ := rfl
      rw [List.filter_cons_of_pos hfirst, ensures_bind]
      refine (ensures_write _).2 ⟨?_, fun f => .cut f hcut⟩
      rw [then_ok, ensures_bind, ensures_update, then_ok, ensures_bind]
      refine (storeAt_ensures wanted rest _ hrest).mono ?_
      rintro (e | changed) t es h
      · rw [hplan] at h
        exact h.next
      · rw [hplan] at h
        rw [then_ok, ensures_pure, List.append_nil]
        exact h.next

end Stores

/-- The status an operation stores, if it stores one. -/
def Operation.storedStatus? : Operation → Option ChannelStatus
  | .storeStatus status | .putControl .playbackStatus (.status status) => some status
  | _ => none

/-- The operation stores the status, up to the bits that do not exist. -/
def Operation.stores (op : Operation) (wanted : ChannelStatus) : Bool :=
  op.storedStatus?.any (·.masked = wanted.masked)

theorem Operation.perform_eq_of_storedStatus? {op : Operation} {status : ChannelStatus}
    (h : op.storedStatus? = some status) : op.perform = (storeStatus status).perform := by
  cases op with
  | storeStatus status' => cases h; rfl
  | putControl id value =>
    cases id with
    | playbackStatus =>
      cases value with
      | status status' => cases h; rfl
      | enumerated _ | boolean _ => cases h
    | _ => cases h
  | _ => cases h

theorem Card.ensures_store (status : ChannelStatus) (c : Card) :
    (onStatus (TransmitStatus.store status)).Ensures c fun r c' es =>
      ∃ t, StoreOutcome status c.status (c.status.differing status) r t es ∧
        c' = { c with status := t } := by
  rw [onStatus, ensures_within]
  refine (TransmitStatus.storeAt_ensures status _ _ (List.nodup_finRange 4)).mono ?_
  exact fun r t es h => ⟨t, h, rfl⟩

theorem Operation.ensures_stored {op : Operation} {status : ChannelStatus}
    (h : op.storedStatus? = some status) (c : Card) :
    op.perform.Ensures c fun r c' es =>
      ∃ r' t, StoreOutcome status c.status (c.status.differing status) r' t es ∧
        c' = { c with status := t } ∧ r = r'.map .changed := by
  rw [perform_eq_of_storedStatus? h, perform, ensures_return]
  refine (Card.ensures_store status c).mono ?_
  rintro r c' es ⟨t, h, hc⟩
  exact ⟨r, t, h, hc, rfl⟩

theorem Operation.exists_of_stores {op : Operation} {wanted : ChannelStatus}
    (h : op.stores wanted = true) :
    ∃ status, op.storedStatus? = some status ∧ status.masked = wanted.masked := by
  simpa [stores, Option.any_eq_true] using h

/-- What was accepted in an attempt to store the status. -/
def Entry.written (wanted : ChannelStatus) (e : Entry) : List Call :=
  if e.operation.stores wanted then e.events.filterMap Event.accepted? else []

section Attempts

variable {H : Type} (dev : Device H) {wanted : ChannelStatus}

/-- Nothing but attempts to store the status changes what is kept. -/
def Card.OnlyStores (wanted : ChannelStatus) : List Operation → Card → H → Prop
  | [], _, _ => True
  | op :: ops, c, h =>
    let e := op.entry dev c h
    (op.stores wanted = true ∨ e.card.status = c.status) ∧
      OnlyStores wanted ops e.card ((op.perform c).run dev h).hardware

/-- What an entry wrote and what still differs after it make up what differed before. An entry may
store another status than the one wanted, as long as the two differ only in bits that are never
looked at. -/
theorem Entry.written_append (op : Operation) (c : Card) (h : H)
    (hop : op.stores wanted = true ∨ (op.entry dev c h).card.status = c.status) :
    let e := op.entry dev c h
    e.written wanted ++ (e.card.status.differing wanted).map (statusWrite wanted) =
      (c.status.differing wanted).map (statusWrite wanted) := by
  intro e
  by_cases hstores : e.operation.stores wanted = true
  · obtain ⟨status, hstatus, hmasked⟩ := Operation.exists_of_stores hstores
    obtain ⟨r, t, hout, hcard, -⟩ := (Operation.ensures_stored hstatus c).run dev h
    have hafter : e.card.status = t := congrArg Card.status hcard
    have hwritten : e.written wanted = (Trace.steps e.events).filterMap Event.accepted? := by
      rw [written, if_pos hstores, Trace.filterMap_steps fun _ => rfl]
    rw [hwritten, hafter, ← ChannelStatus.differing_congr _ hmasked,
      ← ChannelStatus.differing_congr _ hmasked, ← statusWrite_congr hmasked]
    exact hout.accepted
  · have hkept : e.card.status = c.status := hop.resolve_left hstores
    rw [hkept, written, if_neg hstores, List.nil_append]

theorem Card.written_append :
    ∀ (ops : List Operation) (c : Card) (h : H), OnlyStores dev wanted ops c h →
      let p := play dev ops c h
      p.entries.flatMap (Entry.written wanted) ++
          (p.card.status.differing wanted).map (statusWrite wanted) =
        (c.status.differing wanted).map (statusWrite wanted)
  | [], _, _, _ => rfl
  | op :: ops, c, h, ⟨hop, hops⟩ => by
    intro p
    have hrest := written_append ops (op.entry dev c h).card ((op.perform c).run dev h).hardware hops
    have hentries : p.entries = op.entry dev c h :: _ := entries_play_cons dev op ops c h
    rw [hentries, List.flatMap_cons, List.append_assoc, ← Entry.written_append dev op c h hop]
    exact congrArg _ hrest

theorem Entry.status_of_stores {op : Operation} (hop : op.stores wanted = true) {c : Card}
    (hc : c.status.masked = c.status) (h : H) :
    let e := op.entry dev c h
    (∃ a, e.result = .ok a) → e.card.status = wanted.masked := by
  rintro e ⟨a, hok⟩
  obtain ⟨status, hstatus, hmasked⟩ := Operation.exists_of_stores hop
  obtain ⟨r, t, hout, hcard, hr⟩ := (Operation.ensures_stored hstatus c).run dev h
  have hafter : e.card.status = t := congrArg Card.status hcard
  have hresult : e.result = r.map .changed := hr
  rcases hout.of_masked hc with ⟨-, rfl, -⟩ | ⟨_, _, _, f, -, rfl, -, -⟩
  · rw [hafter, hmasked]
  · rw [hok] at hresult
    cases hresult

/-- A status that is kept already is not written again. -/
theorem Entry.stores_again {op : Operation} (hop : op.stores wanted = true) {c : Card}
    (hc : c.status = wanted.masked) (h : H) :
    let e := op.entry dev c h
    e.result = .ok (.changed false) ∧ Trace.steps e.events = [] ∧ e.card = c := by
  intro e
  obtain ⟨status, hstatus, hmasked⟩ := Operation.exists_of_stores hop
  obtain ⟨r, t, hout, hcard, hr⟩ := (Operation.ensures_stored hstatus c).run dev h
  have hnone : c.status.differing status = [] := by
    rw [ChannelStatus.differing_congr _ hmasked, hc, ChannelStatus.differing_masked]
  rw [hnone] at hout
  obtain ⟨rfl, rfl, hsteps⟩ := hout.of_nil
  exact ⟨hr, hsteps, hcard⟩

/-- Storing a status over another one writes the bytes that differ, in order. If none of the writes
fails, the masked status is kept, and the result says whether there were any; otherwise the first
one that fails is the last call, and the bytes below it have changed and the others have not.

If such a store fails, it may be tried again and again, with anything in between that does not
change what is kept. Once it succeeds, the masked status is kept, all the attempts together have
written each byte that differed once and in order, and to store the same again takes no call. -/
theorem Card.play_stores (c : Card) (hc : c.status.masked = c.status) (h : H)
    (wanted : ChannelStatus) :
    let differing := (List.finRange 4).filter fun i => c.status.byte i ≠ wanted.masked.byte i
    (∀ op : Operation, op.storedStatus? = some wanted →
      let e := op.entry dev c h
      (e.result = .ok (.changed (decide (differing ≠ []))) ∧
        Trace.steps e.events = differing.map (writeStep wanted none) ∧
        e.card = { c with status := wanted.masked }) ∨
      ∃ done i rest f, differing = done ++ i :: rest ∧
        e.result = .error (.hardware .writeStatus f) ∧
        Trace.steps e.events = done.map (writeStep wanted none) ++ [writeStep wanted (some f) i] ∧
        ∃ t, e.card = { c with status := t } ∧
          ∀ j, t.byte j = if j < i then wanted.masked.byte j else c.status.byte j) ∧
    ∀ (ops : List Operation) (last : Operation), OnlyStores dev wanted ops c h →
      last.stores wanted = true →
      let p := play dev ops c h
      let e := last.entry dev p.card p.hardware
      (∃ a, e.result = .ok a) →
        e.card.status = wanted.masked ∧
        (p.entries ++ [e]).flatMap (Entry.written wanted) = differing.map (statusWrite wanted) ∧
        ∀ again : Operation, again.stores wanted = true → ∀ h',
          let e' := again.entry dev e.card h'
          e'.result = .ok (.changed false) ∧ Trace.steps e'.events = [] ∧ e'.card = e.card := by
  intro differing
  have hdiffering : c.status.differing wanted = differing := ChannelStatus.differing_eq hc wanted
  rw [← hdiffering]
  constructor
  · intro op hop e
    obtain ⟨r, t, hout, hcard, hr⟩ := (Operation.ensures_stored hop c).run dev h
    rcases hout.of_masked hc with ⟨rfl, rfl, hsteps⟩ | ⟨done, i, rest, f, hcut, rfl, hsteps, hbyte⟩
    · exact .inl ⟨hr, hsteps, hcard⟩
    · exact .inr ⟨done, i, rest, f, hcut, hr, hsteps, t, hcard, hbyte⟩
  · intro ops last hops hlast p e hok
    have hmasked : p.card.status.masked = p.card.status := play_keeps dev.keepsMasked ops c h hc
    have hstatus : e.card.status = wanted.masked :=
      Entry.status_of_stores dev hlast hmasked p.hardware hok
    refine ⟨hstatus, ?_, fun again hagain h' => Entry.stores_again dev hagain hstatus h'⟩
    have hone : e.written wanted ++ (e.card.status.differing wanted).map (statusWrite wanted) =
        (p.card.status.differing wanted).map (statusWrite wanted) :=
      Entry.written_append dev last p.card p.hardware (.inl hlast)
    rw [hstatus, ChannelStatus.differing_masked, List.map_nil, List.append_nil] at hone
    rw [List.flatMap_append, List.flatMap_singleton, hone]
    exact written_append dev ops c h hops

end Attempts

/-- A store is cut at its second byte, and the next attempt at its last one, after the status was
loaded once more. The third attempt succeeds: three bytes were written, each of them once. -/
theorem Card.play_stores_retried :
    let dev := Scripted.device (.ofFaults
      [{ first := 1, failure := .bus }, { first := 7, failure := .rejected (-5) }])
    let wanted : ChannelStatus := ⟨#v[1, 2, 0, 0xC4]⟩
    let ops : List Operation :=
      [.storeStatus wanted, .loadStatus, .putControl .playbackStatus (.status ⟨#v[1, 2, 0, 4]⟩)]
    let p := play dev ops (initial {}) {}
    let e := (Operation.storeStatus wanted).entry dev p.card p.hardware
    (initial {}).status.masked = (initial {}).status ∧ OnlyStores dev wanted ops (initial {}) {} ∧
      (p.entries ++ [e]).map (·.result.isOk) = [false, true, false, true] ∧
      e.card.status = wanted.masked ∧
      (p.entries ++ [e]).flatMap (Entry.written wanted) =
        [.transceiver (.updateBits 18 0xFF 1), .transceiver (.updateBits 19 0xFF 2),
          .transceiver (.updateBits 21 0x3F 4)] := by
  intro dev wanted ops p e
  have hmasked : (initial {}).status.masked = (initial {}).status := by decide
  have honly : OnlyStores dev wanted ops (initial {}) {} :=
    ⟨.inl (by decide), .inr (by decide), .inl (by decide), trivial⟩
  have hresults : (p.entries ++ [e]).map (·.result.isOk) = [false, true, false, true] := by decide
  have hok : ∃ a, e.result = .ok a := by
    have hisOk : e.result.isOk = true := by decide
    rcases hresult : e.result with err | a
    · rw [hresult] at hisOk
      cases hisOk
    · exact ⟨a, rfl⟩
  obtain ⟨-, hretried⟩ := play_stores dev (initial {}) hmasked {} wanted
  obtain ⟨hstatus, hwritten, -⟩ := hretried ops (.storeStatus wanted) honly (by decide) hok
  exact ⟨hmasked, honly, hresults, hstatus, hwritten.trans (by decide)⟩

end SoundCard
