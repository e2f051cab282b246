import SoundCard.Proofs.FirstFailure
import SoundCard.Proofs.StatusWrites

/-!
# What the mixer stands at

Three controls can be written. What was put into one of them is what it stands at afterwards, up to
the items and the bits it does not have, and the others stand where they stood
(`Card.play_put_get`). The selectors of the rates never leave their tables, since nothing else moves
them.
-/

namespace SoundCard

open SoundCard.Action

/-- The value is of the given shape. -/
def ControlValue.hasShape : ControlValue → ValueShape → Bool
  | .enumerated _, .enumerated _ | .status _, .status | .boolean _, .boolean => true
  | _, _ => false

/-- The value a control takes on when it is given one of its shape: an item past the last one is
the last one, and the bits of a status that do not exist are cleared. -/
def Control.normalize (id : Control) (value : ControlValue) : ControlValue :=
  match id.kind, value with
  | .enumerated items, .enumerated item => .enumerated (min item (items - 1))
  | _, .status status => .status status.masked
  | _, value => value

/-- Both selectors stand at an entry of their table. -/
structure RateLimits.InRange (l : RateLimits) : Prop where
  min : l.min < RateMenu.lowest.size
  max : l.max < RateMenu.highest.size

namespace RateLimits

theorem inRange_initial : initial.InRange := ⟨by decide, by decide⟩

theorem InRange.selectMin {l : RateLimits} (h : l.InRange) (item : Nat) :
    (l.selectMin item).InRange :=
  ⟨RateMenu.lowest.clamp_lt item, h.max⟩

theorem InRange.selectMax {l : RateLimits} (h : l.InRange) (item : Nat) :
    (l.selectMax item).InRange :=
  ⟨h.min, RateMenu.highest.clamp_lt item⟩

theorem selectMin_bne_iff (l : RateLimits) (item : Nat) :
    (l.selectMin item != l) = true ↔ l.min ≠ RateMenu.lowest.clamp item := by
  rw [bne_iff_ne]
  refine not_congr ⟨fun h => (congrArg RateLimits.min h).symm, fun h => ?_⟩
  rw [selectMin, ← h]

theorem selectMax_bne_iff (l : RateLimits) (item : Nat) :
    (l.selectMax item != l) = true ↔ l.max ≠ RateMenu.highest.clamp item := by
  rw [bne_iff_ne]
  refine not_congr ⟨fun h => (congrArg RateLimits.max h).symm, fun h => ?_⟩
  rw [selectMax, ← h]

end RateLimits

namespace Card

/-- What a control that can be written stands at. -/
def setting? (c : Card) : Control → Option ControlValue
  | .minRate => some (.enumerated c.limits.min)
  | .maxRate => some (.enumerated c.limits.max)
  | .playbackStatus => some (.status c.status)
  | .captureStatus | .playbackMask | .recoveredRate | .flag _ => none

theorem exists_setting (c : Card) {id : Control} (h : id.isWritable = true) :
    ∃ value, c.setting? id = some value := by
  cases id with
  | minRate | maxRate | playbackStatus => exact ⟨_, rfl⟩
  | captureStatus | playbackMask | recoveredRate | flag _ => cases h

theorem ensures_selectLimits (f : RateLimits → RateLimits) (c : Card)
    {Q : Except CardError Bool → Card → List Event → Prop} :
    (selectLimits f).Ensures c Q ↔
      Q (.ok (f c.limits != c.limits)) { c with limits := f c.limits } [] := by
  simp [selectLimits]

/-- How writing a control may end. -/
inductive PutOutcome (c : Card) :
    Control → ControlValue → Except CardError Bool → Card → List Event → Prop
  | readOnly {id : Control} {value : ControlValue} (h : id.isWritable = false) :
    PutOutcome c id value (.error .readOnly) c []
  | invalid {id : Control} {value : ControlValue} (h : id.isWritable = true)
    (hvalue : value.hasShape id.kind = false) : PutOutcome c id value (.error .invalidValue) c []
  | minRate (item : Nat) :
    PutOutcome c .minRate (.enumerated item) (.ok (c.limits.selectMin item != c.limits))
      { c with limits := c.limits.selectMin item } []
  | maxRate (item : Nat) :
    PutOutcome c .maxRate (.enumerated item) (.ok (c.limits.selectMax item != c.limits))
      { c with limits := c.limits.selectMax item } []
  | status {status t : ChannelStatus} {r : Except CardError Bool} {es : List Event} :
    StoreOutcome status c.status (c.status.differing status) r t es →
    PutOutcome c .playbackStatus (.status status) r { c with status := t } es

theorem putControl_outcome (id : Control) (value : ControlValue) (c : Card) :
    (putControl id value).Ensures c (PutOutcome c id value) := by
  cases id with
  | minRate =>
    cases value with
    | enumerated item => exact (ensures_selectLimits (·.selectMin item) c).2 (.minRate item)
    | status _ | boolean _ => exact .invalid rfl rfl
  | maxRate =>
    cases value with
    | enumerated item => exact (ensures_selectLimits (·.selectMax item) c).2 (.maxRate item)
    | status _ | boolean _ => exact .invalid rfl rfl
  | playbackStatus =>
    cases value with
    | status status =>
      refine (ensures_store status c).mono ?_
      rintro r _ es ⟨t, h, rfl⟩
      exact .status h
    | enumerated _ | boolean _ => exact .invalid rfl rfl
  | captureStatus | playbackMask | recoveredRate | flag _ => exact .readOnly rfl

variable {c c' : Card} {id : Control} {value : ControlValue} {r : Except CardError Bool}
  {es : List Event}

namespace PutOutcome

/-- Nothing moves but what the control stands at. -/
theorem frame (h : PutOutcome c id value r c' es) :
    c'.board = c.board ∧ c'.clock = c.clock ∧
      ∀ other, other ≠ id → c'.setting? other = c.setting? other := by
  cases h with
  | readOnly _ | invalid _ _ => exact ⟨rfl, rfl, fun _ _ => rfl⟩
  | minRate item | maxRate item | status _ =>
    refine ⟨rfl, rfl, fun other hother => ?_⟩
    cases other <;> first | rfl | exact (hother rfl).elim

theorem inRange (h : PutOutcome c id value r c' es) (hc : c.limits.InRange) :
    c'.limits.InRange := by
  cases h with
  | readOnly _ | invalid _ _ | status _ => exact hc
  | minRate item => exact hc.selectMin item
  | maxRate item => exact hc.selectMax item

theorem calls (h : PutOutcome c id value r c' es) :
    ∀ call ∈ Trace.calls es, ∃ t, call = .transceiver t := by
  cases h with
  | readOnly _ | invalid _ _ | minRate _ | maxRate _ => simp [Trace.calls]
  | status h =>
    intro call hcall
    obtain ⟨e, he, hcall⟩ := List.mem_filterMap.1 hcall
    obtain ⟨f, i, rfl⟩ := h.mem he
    exact ⟨_, (Option.some.inj hcall).symm⟩

/-- The control stands at the value it was given, and has changed if it stood at another one. -/
theorem of_ok {changed : Bool} (h : PutOutcome c id value (.ok changed) c' es)
    (hc : c.status.masked = c.status) :
    c'.setting? id = some (id.normalize value) ∧
      (changed = true ↔ c.setting? id ≠ some (id.normalize value)) := by
  cases h with
  | minRate item =>
    refine ⟨rfl, (RateLimits.selectMin_bne_iff c.limits item).trans ?_⟩
    simp [setting?, Control.normalize, Control.kind, RateMenu.clamp]
  | maxRate item =>
    refine ⟨rfl, (RateLimits.selectMax_bne_iff c.limits item).trans ?_⟩
    simp [setting?, Control.normalize, Control.kind, RateMenu.clamp]
  | @status status t _ _ h =>
    obtain ⟨rfl, hchanged⟩ := h.of_ok hc
    exact ⟨rfl, by simpa [setting?, Control.normalize, Control.kind] using hchanged⟩

/-- A value of the control's shape is turned down by nothing but the hardware. -/
theorem ok_iff (h : PutOutcome c id value r c' es) (hid : id.isWritable = true)
    (hvalue : value.hasShape id.kind = true) :
    (∃ changed, r = .ok changed) ↔ Trace.failures es = [] := by
  cases h with
  | readOnly hnot =>
    rw [hid] at hnot
    cases hnot
  | invalid _ hnot =>
    rw [hvalue] at hnot
    cases hnot
  | minRate _ | maxRate _ => exact ⟨fun _ => rfl, fun _ => ⟨_, rfl⟩⟩
  | status h => exact h.ok_iff

theorem of_readOnly (h : PutOutcome c id value r c' es) (hid : id.isWritable = false) :
    r = .error .readOnly ∧ c' = c ∧ es = [] := by
  cases h with
  | readOnly _ => exact ⟨rfl, rfl, rfl⟩
  | invalid hnot _ =>
    rw [hid] at hnot
    cases hnot
  | minRate _ | maxRate _ | status _ => cases hid

theorem of_invalid (h : PutOutcome c id value r c' es) (hid : id.isWritable = true)
    (hvalue : value.hasShape id.kind = false) : r = .error .invalidValue ∧ c' = c ∧ es = [] := by
  cases h with
  | readOnly hnot =>
    rw [hid] at hnot
    cases hnot
  | invalid _ _ => exact ⟨rfl, rfl, rfl⟩
  | minRate _ | maxRate _ | status _ => cases hvalue

end PutOutcome

theorem getControl_of_setting {id : Control} {value : ControlValue}
    (h : c.setting? id = some value) :
    (getControl id).Ensures c fun r c' es => r = .ok value ∧ c' = c ∧ es = [] := by
  rw [getControl, ensures_bind, ensures_state, then_ok]
  cases id with
  | minRate | maxRate | playbackStatus =>
    cases h
    exact ⟨rfl, rfl, rfl⟩
  | captureStatus | playbackMask | recoveredRate | flag _ => cases h

end Card

section Limits

variable {H : Type} (dev : Device H)

/-- Only three operations may select other limits, and they select entries of the tables. -/
theorem Operation.ensures_inRange (op : Operation) {c : Card} (hc : c.limits.InRange) :
    op.perform.Ensures c fun _ c' _ => c'.limits.InRange := by
  rcases htask : op.clockTask? with _ | task
  · by_cases hlimit : op.mayLimit = true
    · cases op with
      | putControl id value =>
        rw [perform, ensures_return]
        exact (Card.putControl_outcome id value c).mono fun _ _ _ h => h.inRange hc
      | selectMinRate item =>
        rw [perform, ensures_return, Card.ensures_selectLimits]
        exact hc.selectMin item
      | selectMaxRate item =>
        rw [perform, ensures_return, Card.ensures_selectLimits]
        exact hc.selectMax item
      | _ => cases hlimit
    · have hkept : Quiet Card.limits op.perform :=
        quiet_view htask (fun _ _ => rfl) fun hlimits => (hlimit hlimits).elim
      exact (hkept c).mono fun _ _ _ h => h.1 ▸ hc
  · refine (ensures_task htask c).mono ?_
    rintro _ _ _ ⟨r, t, -, rfl, -⟩
    exact hc

theorem Card.play_inRange :
    ∀ (ops : List Operation) (c : Card) (h : H), c.limits.InRange →
      (play dev ops c h).card.limits.InRange
  | [], _, _, hc => hc
  | op :: ops, _, _, hc => play_inRange ops _ _ ((op.ensures_inRange hc).run dev _)

end Limits

namespace Card

variable {H : Type} (dev : Device H)

/-- What reading the control answers. -/
def read (id : Control) (c : Card) (h : H) : Except CardError Answer :=
  ((Operation.getControl id).entry dev c h).result

theorem read_of_setting {id : Control} {value : ControlValue} {c : Card}
    (h : c.setting? id = some value) (hw : H) : read dev id c hw = .ok (.control value) := by
  have hget : (Operation.getControl id).perform.Ensures c fun r _ _ => r = .ok (.control value) := by
    rw [Operation.perform, ensures_return]
    refine (getControl_of_setting h).mono ?_
    rintro _ _ _ ⟨rfl, -, -⟩
    rfl
  exact hget.run dev hw

/-- In every state that a history leads to, the selectors stand at entries of their tables, and
writing a control comes to one of three things. One that can only be read is refused, and so is a
value of another shape; neither takes a step or changes the card. Otherwise it succeeds just if no
call fails; then the control reads as what it was given, up to the items and the bits it does not
have, and it is said to have changed if it read otherwise before. In any case the other controls
that can be written read as before, the clocks are left alone, and only the transceiver is called. -/
theorem play_put_get (board : Board) (ops : List Operation) (h : H) (id : Control)
    (value : ControlValue) :
    let p := play dev ops (initial board) h
    let e := (Operation.putControl id value).entry dev p.card p.hardware
    p.card.limits.InRange ∧
    (id.isWritable = false →
      e.result = .error .readOnly ∧ e.card = p.card ∧ Trace.steps e.events = []) ∧
    (id.isWritable = true → value.hasShape id.kind = false →
      e.result = .error .invalidValue ∧ e.card = p.card ∧ Trace.steps e.events = []) ∧
    (id.isWritable = true → value.hasShape id.kind = true →
      ((∃ changed, e.result = .ok (.changed changed)) ↔ Trace.failures e.events = []) ∧
      ∀ changed, e.result = .ok (.changed changed) → ∀ h',
        read dev id e.card h' = .ok (.control (id.normalize value)) ∧
        (changed = true ↔ read dev id p.card h' ≠ .ok (.control (id.normalize value)))) ∧
    (∀ other, other.isWritable = true → other ≠ id → ∀ h',
      read dev other e.card h' = read dev other p.card h') ∧
    e.card.clock = p.card.clock ∧ e.card.board = p.card.board ∧
    ∀ call ∈ Trace.calls e.events, ∃ c, call = .transceiver c := by
  intro p e
  have hzero : ChannelStatus.zero.masked = ChannelStatus.zero := by decide
  have hmasked : p.card.status.masked = p.card.status :=
    play_keeps dev.keepsMasked ops (initial board) h hzero
  have hput : (Operation.putControl id value).perform.Ensures p.card fun r c' es =>
      ∃ r', PutOutcome p.card id value r' c' es ∧ r = r'.map .changed := by
    rw [Operation.perform, ensures_return]
    exact (putControl_outcome id value p.card).mono fun r _ _ hout => ⟨r, hout, rfl⟩
  obtain ⟨r, hout, hresult⟩ := hput.run dev p.hardware
  have hok : ∀ changed, e.result = .ok (.changed changed) ↔ r = .ok changed := by
    have hr : e.result = r.map .changed := hresult
    rw [hr]
    rcases r with err | b
    · simp [Except.map]
    · simp [Except.map]
  obtain ⟨hboard, hclock, hframe⟩ := hout.frame
  have hinRange : p.card.limits.InRange :=
    play_inRange dev ops (initial board) h RateLimits.inRange_initial
  refine ⟨hinRange, fun hid => ?_, fun hid hvalue => ?_, fun hid hvalue => ⟨?_, ?_⟩, ?_, hclock,
    hboard, ?_⟩
  · obtain ⟨rfl, hcard, hsteps⟩ := hout.of_readOnly hid
    exact ⟨hresult, hcard, hsteps⟩
  · obtain ⟨rfl, hcard, hsteps⟩ := hout.of_invalid hid hvalue
    exact ⟨hresult, hcard, hsteps⟩
  · rw [← Trace.failures_steps]
    exact (exists_congr hok).trans (hout.ok_iff hid hvalue)
  · intro changed hresult h'
    obtain rfl := (hok changed).1 hresult
    obtain ⟨hafter, hchanged⟩ := hout.of_ok hmasked
    obtain ⟨before, hbefore⟩ := exists_setting p.card hid
    refine ⟨read_of_setting dev hafter h', ?_⟩
    rw [read_of_setting dev hbefore h', hchanged, hbefore]
    simp
  · intro other hother hne h'
    obtain ⟨before, hbefore⟩ := exists_setting p.card hother
    have hafter : e.card.setting? other = some before := (hframe other hne).trans hbefore
    rw [read_of_setting dev hbefore h', read_of_setting dev hafter h']
  · rw [← Trace.calls_steps]
    exact hout.calls

/-- The upper rate is limited by an item past the last one, and then a status is stored over bits
that do not exist: it reads as its masked bytes, and the upper rate still reads as the last item. -/
theorem play_put_get_masked :
    let dev := Scripted.device fun _ => none
    let hw : Scripted := { registers := Registers.zero.write 0x15 0xFF }
    let p := play dev [.loadStatus, .putControl .maxRate (.enumerated 99)] (initial {}) hw
    let wanted : ChannelStatus := ⟨#v[4, 0, 0, 0xFE]⟩
    let e := (Operation.putControl .playbackStatus (.status wanted)).entry dev p.card p.hardware
    (∃ changed, e.result = .ok (.changed changed)) ∧
      Trace.calls e.events =
        [.transceiver (.updateBits 0x12 0xFF 4), .transceiver (.updateBits 0x15 0x3F 0x3E)] ∧
      read dev .playbackStatus e.card hw = .ok (.control (.status wanted.masked)) ∧
      read dev .maxRate e.card hw = .ok (.control (.enumerated 2)) := by
  intro dev hw p wanted e
  have hfailures : Trace.failures e.events = [] := by decide
  have hmax : p.card.limits.max = 2 := by decide
  obtain ⟨-, -, -, hput, hothers, -⟩ :=
    play_put_get dev {} [.loadStatus, .putControl .maxRate (.enumerated 99)] hw .playbackStatus
      (.status wanted)
  obtain ⟨hok, hread⟩ := hput rfl rfl
  obtain ⟨changed, hresult⟩ := hok.2 hfailures
  have hbefore : read dev .maxRate p.card hw = .ok (.control (.enumerated 2)) := by
    rw [← hmax]
    rfl
  exact ⟨⟨changed, hresult⟩, by decide, (hread changed hresult hw).1,
    (hothers .maxRate rfl (by decide) hw).trans hbefore⟩

end Card

end SoundCard
