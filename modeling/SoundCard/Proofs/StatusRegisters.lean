import Mathlib.Logic.Function.Basic
import SoundCard.Bench
import SoundCard.Proofs.Entries
import SoundCard.Proofs.RunsTo
import SoundCard.Proofs.Sides
import SoundCard.Scripted

/-!
# The transmitted status and its registers

The bits of the transmitted status that do not exist are never kept. Once the card has loaded the
status, what it keeps is what the transceiver's registers hold, bit by bit under the mask, after
every operation and whatever fails (`Card.play_status`): a byte is kept only after its write was
accepted, so a store that stops half-way has changed as many bytes on the one side as on the other.

Both are kept up by single calls and by loads (`Device.KeepsStatus`), and so by every operation
(`Operation.keeps`).
-/

namespace SoundCard

open SoundCard.Action Transceiver

section Bytes

variable {s : ChannelStatus} {regs : Fin 4 → UInt8}

theorem maskedByte_and_mask (old mask value : UInt8) :
    maskedByte old mask value &&& mask = value &&& mask := by
  apply UInt8.toBitVec_inj.1
  ext i
  simp only [maskedByte, UInt8.toBitVec_and, UInt8.toBitVec_or, UInt8.toBitVec_not,
    BitVec.getElem_and, BitVec.getElem_or, BitVec.getElem_not]
  cases old.toBitVec[i] <;> cases mask.toBitVec[i] <;> simp

namespace ChannelStatus

/-- The status is what the registers hold of one. -/
def Mirrors (s : ChannelStatus) (regs : Fin 4 → UInt8) : Prop :=
  ∀ i, s.byte i = regs i &&& mask.byte i

theorem byte_mk (f : Fin 4 → UInt8) (i : Fin 4) : byte ⟨#v[f 0, f 1, f 2, f 3]⟩ i = f i :=
  match i with
  | 0 | 1 | 2 | 3 => rfl

theorem Mirrors.setByte (h : s.Mirrors regs) (i : Fin 4) (value : UInt8) :
    (s.setByte i (value &&& mask.byte i)).Mirrors
      (Function.update regs i (maskedByte (regs i) (mask.byte i) (value &&& mask.byte i))) := by
  intro j
  by_cases hj : j = i
  · subst hj
    rw [byte_setByte_self, Function.update_self, maskedByte_and_mask, UInt8.and_assoc,
      UInt8.and_self]
  · rw [byte_setByte_of_ne s _ hj, Function.update_of_ne hj]
    exact h j

theorem masked_setByte (h : s.masked = s) (i : Fin 4) (value : UInt8) :
    (s.setByte i (value &&& mask.byte i)).masked = s.setByte i (value &&& mask.byte i) := by
  ext j
  rw [byte_masked]
  by_cases hj : j = i
  · subst hj
    rw [byte_setByte_self, UInt8.and_assoc, UInt8.and_self]
  · rw [byte_setByte_of_ne s _ hj, ← byte_masked, h]

theorem top_bits_clear (h : s.masked = s) : s.byte 3 &&& 0xC0 = 0 := by
  rw [← h, byte_masked, UInt8.and_assoc]
  exact UInt8.and_zero

end ChannelStatus

end Bytes

variable {H ρ : Type}

/-- Hardware with plain transmit registers, which are read off its state: a read that succeeds
answers the register, a masked write that succeeds replaces the bits of its mask, and nothing else
changes them, least of all a call that fails. -/
structure Device.HoldsStatus (dev : Device H) (regs : H → Fin 4 → UInt8) : Prop where
  read : ∀ i h b, (dev.perform (.transceiver (.readRegister (transmitRegister i))) h).1 = .ok b →
    b = regs h i
  write : ∀ i mask value h,
    (dev.perform (.transceiver (.updateBits (transmitRegister i) mask value)) h).1 = .ok () →
    regs (dev.perform (.transceiver (.updateBits (transmitRegister i) mask value)) h).2 =
      Function.update (regs h) i (maskedByte (regs h i) mask value)
  failed : ∀ c h f, (dev.perform c h).1 = .error f → regs (dev.perform c h).2 = regs h
  other : ∀ c h, (∀ i mask value, c ≠ .transceiver (.updateBits (transmitRegister i) mask value)) →
    regs (dev.perform c h).2 = regs h
  wait : ∀ us h, regs (dev.wait us h) = regs h

/-- What `I` says of the status kept, and of what is viewed of the hardware, is kept up by each call
on its own and by a load. -/
structure Device.KeepsStatus (dev : Device H) (view : H → ρ) (I : ChannelStatus → ρ → Prop) :
    Prop where
  write : ∀ (status s : ChannelStatus) i h, I s (view h) →
    match dev.perform (.transceiver (.updateBits (transmitRegister i)
      (ChannelStatus.mask.byte i) (status.masked.byte i))) h with
    | (.ok (), h') => I (s.setByte i (status.masked.byte i)) (view h')
    | (.error _, h') => I s (view h')
  load : ∀ s h, I s (view h) → TransmitStatus.load.RunsTo dev s h fun _ t h' _ => I t (view h')
  other : ∀ c h, (∀ i mask value, c ≠ .transceiver (.updateBits (transmitRegister i) mask value)) →
    view (dev.perform c h).2 = view h
  wait : ∀ us h, view (dev.wait us h) = view h

section Masked

variable {σ : Type}

theorem ensures_read_bind (register : UInt8) (s : σ) {f : UInt8 → Action σ ChannelStatus}
    (hf : ∀ b, (f b).Ensures s fun r t _ =>
      t = s ∧ ∀ status, r = .ok status → status.masked = status) :
    (Action.transceiver .readStatus (.readRegister register) >>= f).Ensures s fun r t _ =>
      t = s ∧ ∀ status, r = .ok status → status.masked = status :=
  (ensures_bind _).2 ((ensures_perform _ _).2 ⟨hf, fun _ => ⟨rfl, nofun⟩⟩)

theorem readStatus_masked (first : UInt8) (s : σ) :
    (readStatus first).Ensures s fun r t _ =>
      t = s ∧ ∀ status, r = .ok status → status.masked = status := by
  refine ensures_read_bind _ s fun b0 => ensures_read_bind _ s fun b1 =>
    ensures_read_bind _ s fun b2 => ensures_read_bind _ s fun b3 => ⟨rfl, ?_⟩
  rintro status ⟨⟩
  exact ChannelStatus.masked_masked _

/-- Whatever the hardware answers, no bit is kept that does not exist. -/
theorem Device.keepsMasked (dev : Device H) :
    dev.KeepsStatus (fun _ => ()) fun s _ => s.masked = s where
  write status s i _ hs := by
    split
    · rw [ChannelStatus.byte_masked]
      exact ChannelStatus.masked_setByte hs i _
    · exact hs
  load s h hs := by
    rw [TransmitStatus.load, runsTo_bind]
    refine ((readStatus_masked _ s).runsTo dev h).mono ?_
    rintro (e | status) t h' es ⟨rfl, hstatus⟩
    · exact hs
    · exact hstatus status rfl
  other _ _ _ := rfl
  wait _ _ := rfl

end Masked

def Trace.FailedRead (es : List Event) : Prop :=
  ∃ register f, .call (.transceiver (.readRegister register)) (some f) ∈ es

theorem Trace.FailedRead.append_right {es : List Event} (h : FailedRead es) (fs : List Event) :
    FailedRead (es ++ fs) := by
  obtain ⟨register, f, hmem⟩ := h
  exact ⟨register, f, List.mem_append_left fs hmem⟩

theorem Trace.FailedRead.append_left {es : List Event} (h : FailedRead es) {fs : List Event} :
    FailedRead (fs ++ es) := by
  obtain ⟨register, f, hmem⟩ := h
  exact ⟨register, f, List.mem_append_right fs hmem⟩

namespace Device.HoldsStatus

variable {dev : Device H} {regs : H → Fin 4 → UInt8} (hdev : dev.HoldsStatus regs)
  {σ α : Type} {s : σ} {h : H}
include hdev

/-- One register is read, and what comes next sees its byte. -/
theorem runsTo_read_bind (i : Fin 4) {f : UInt8 → Action σ α}
    {Q : Except CardError α → σ → H → List Event → Prop}
    (hok : ∀ h' es, regs h' = regs h →
      (f (regs h i)).RunsTo dev s h' fun r t h'' fs => Q r t h'' (es ++ fs))
    (herror : ∀ e h' es, regs h' = regs h → Trace.FailedRead es → Q (.error e) s h' es) :
    (Action.transceiver .readStatus (.readRegister (transmitRegister i)) >>= f).RunsTo dev s h
      Q := by
  have hkept := hdev.other (.transceiver (.readRegister (transmitRegister i))) h nofun
  have hread := hdev.read i h
  rw [runsTo_bind, Action.transceiver, runsTo_perform]
  rcases hp : dev.perform (.transceiver (.readRegister (transmitRegister i))) h with ⟨f | b, h'⟩
  · rw [hp] at hkept
    exact herror _ h' _ hkept ⟨_, f, List.mem_singleton_self _⟩
  · rw [hp] at hkept hread
    obtain rfl := hread b rfl
    exact hok h' _ hkept

theorem readStatus_runsTo :
    (readStatus transmittedStatus : Action σ ChannelStatus).RunsTo dev s h fun r t h' es =>
      t = s ∧ regs h' = regs h ∧
        match r with
        | .ok status => status.Mirrors (regs h)
        | .error _ => Trace.FailedRead es := by
  refine hdev.runsTo_read_bind 0 (fun h₀ es₀ hk₀ => ?_) fun e h' es hk hes => ⟨rfl, hk, hes⟩
  refine hdev.runsTo_read_bind 1 (fun h₁ es₁ hk₁ => ?_) fun e h' es hk hes =>
    ⟨rfl, hk.trans hk₀, hes.append_left⟩
  refine hdev.runsTo_read_bind 2 (fun h₂ es₂ hk₂ => ?_) fun e h' es hk hes =>
    ⟨rfl, hk.trans (hk₁.trans hk₀), hes.append_left.append_left⟩
  refine hdev.runsTo_read_bind 3 (fun h₃ es₃ hk₃ => ?_) fun e h' es hk hes =>
    ⟨rfl, hk.trans (hk₂.trans (hk₁.trans hk₀)), hes.append_left.append_left.append_left⟩
  refine ⟨rfl, hk₃.trans (hk₂.trans (hk₁.trans hk₀)), fun i => ?_⟩
  rw [hk₂, hk₁, hk₀, ChannelStatus.byte_masked, ChannelStatus.byte_mk]

/-- The load replaces the status, or a read of it fails and all is as it was. -/
theorem load_runsTo (s : ChannelStatus) :
    TransmitStatus.load.RunsTo dev s h fun r t h' es =>
      t.Mirrors (regs h') ∨
        (∃ e, r = .error e) ∧ (t = s ∧ regs h' = regs h) ∧ Trace.FailedRead es := by
  rw [TransmitStatus.load, runsTo_bind]
  refine hdev.readStatus_runsTo.mono ?_
  rintro (e | status) t h' es ⟨rfl, hregs, hr⟩
  · exact .inr ⟨⟨e, rfl⟩, ⟨rfl, hregs⟩, hr⟩
  · have hmirrors : status.Mirrors (regs h') := by rwa [hregs]
    exact .inl hmirrors

theorem keepsMirrors : dev.KeepsStatus regs ChannelStatus.Mirrors where
  write status s i h hs := by
    have hwrite := hdev.write i (ChannelStatus.mask.byte i) (status.masked.byte i) h
    have hfailed := hdev.failed (.transceiver (.updateBits (transmitRegister i)
      (ChannelStatus.mask.byte i) (status.masked.byte i))) h
    generalize dev.perform (.transceiver (.updateBits (transmitRegister i)
      (ChannelStatus.mask.byte i) (status.masked.byte i))) h = p at hwrite hfailed ⊢
    rcases p with ⟨f | ⟨⟩, h'⟩
    · have hregs : regs h' = regs h := hfailed f rfl
      rwa [← hregs] at hs
    · have hmirrors := hs.setByte i (status.byte i)
      rw [← ChannelStatus.byte_masked, ← hwrite rfl] at hmirrors
      exact hmirrors
  load s h hs := by
    refine (hdev.load_runsTo s).mono ?_
    rintro r t h' es (hmirrors | ⟨-, ⟨rfl, hregs⟩, -⟩)
    · exact hmirrors
    · rw [hregs]
      exact hs
  other := hdev.other
  wait := hdev.wait

end Device.HoldsStatus

section Views

variable {υ υ' ρ' σ α β : Type} {dev : Device H}

def viewCut (view : H → ρ) : Cut H H ρ := ⟨id, view⟩

def Card.statusCut : Cut Card Card ChannelStatus := ⟨id, status⟩

theorem Card.holdsLimits_statusCut : HoldsLimits statusCut where
  limits _ _ := congrArg Card.limits
  status _ _ := congrArg Card.status
  update l _ _ := congrArg fun c : Card => { c with limits := l }
  rest _ _ := rfl

theorem Action.Confined.runsTo {side : Cut H υ' ρ'} {cut : Cut σ υ ρ} {x : Action σ α}
    (hx : Confined dev side cut x) (s : σ) (h : H) :
    x.RunsTo dev s h fun _ t h' _ => cut.rest t = cut.rest s ∧ side.rest h' = side.rest h :=
  (hx s s h h rfl rfl).2.2

theorem Action.RunsTo.answer {P : σ → H → List Event → Prop} {x : Action σ α} {s : σ} {h : H}
    (hx : x.RunsTo dev s h fun _ t h' es => P t h' es) (f : α → β) :
    (do return f (← x)).RunsTo dev s h fun _ t h' es => P t h' es := by
  rw [runsTo_bind]
  refine hx.mono ?_
  rintro (e | a) t h' es ht
  · exact ht
  · rw [runsThen_ok, runsTo_pure, List.append_nil]
    exact ht

end Views

section Keeping

variable {dev : Device H} {view : H → ρ} {I : ChannelStatus → ρ → Prop} {α β : Type}

/-- What holds of the card's status and the view before the action, holds after it. -/
def Action.Keeps (dev : Device H) (view : H → ρ) (I : ChannelStatus → ρ → Prop)
    (x : Action Card α) : Prop :=
  ∀ c h, I c.status (view h) → x.RunsTo dev c h fun _ c' h' _ => I c'.status (view h')

theorem Action.Confined.keeps {x : Action Card α}
    (hx : Confined dev (viewCut view) Card.statusCut x) : Keeps dev view I x := by
  intro c h hI
  refine (hx.runsTo c h).mono fun _ c' h' _ hkept => ?_
  have hstatus : c'.status = c.status := hkept.1
  have hview : view h' = view h := hkept.2
  rwa [hstatus, hview]

theorem Action.Keeps.answer {x : Action Card α} (hx : Keeps dev view I x) (f : α → β) :
    Keeps dev view I (do return f (← x)) :=
  fun c h hI => (hx c h hI).answer f

theorem Card.keeps_onStatus {x : Action ChannelStatus α}
    (hx : ∀ s h, I s (view h) → x.RunsTo dev s h fun _ t h' _ => I t (view h')) :
    Keeps dev view I (onStatus x) :=
  fun c h hI => (runsTo_within _ _ _ _).2 (hx c.status h hI)

variable (hdev : dev.KeepsStatus view I)
include hdev

namespace Device.KeepsStatus

theorem confines {c : Call}
    (hc : ∀ i mask value, c ≠ .transceiver (.updateBits (transmitRegister i) mask value)) :
    dev.Confines (viewCut view) c := by
  rintro h _ rfl
  exact ⟨rfl, rfl, hdev.other c h hc⟩

theorem hasClockSide : dev.HasClockSide (viewCut view) where
  call c hc := hdev.confines (by rintro i mask value rfl; cases hc)
  wait us h _ heq := ⟨congrArg (dev.wait us) heq, hdev.wait us h⟩

end Device.KeepsStatus

theorem TransmitStatus.write_runsTo (status s : ChannelStatus) (i : Fin 4) (line : LogLine) (h : H)
    (hI : I s (view h)) :
    (Action.orLog (.transceiver .writeStatus (.updateBits (transmitRegister i)
      (ChannelStatus.mask.byte i) (status.masked.byte i))) line).RunsTo dev s h
        fun r t h' _ => t = s ∧
          match r with
          | .ok () => I (s.setByte i (status.masked.byte i)) (view h')
          | .error _ => I s (view h') := by
  have hwrite := hdev.write status s i h hI
  rw [runsTo_orLog, Action.transceiver, runsTo_perform]
  generalize dev.perform (.transceiver (.updateBits (transmitRegister i)
    (ChannelStatus.mask.byte i) (status.masked.byte i))) h = p at hwrite ⊢
  rcases p with ⟨f | ⟨⟩, h'⟩
  · exact ⟨rfl, hwrite⟩
  · exact ⟨rfl, hwrite⟩

/-- A byte is kept just if it was written, so it does not matter where the store stops. -/
theorem TransmitStatus.storeAt_runsTo (status : ChannelStatus) :
    ∀ (places : List (Fin 4)) (s : ChannelStatus) (h : H), I s (view h) →
      (storeAt status places).RunsTo dev s h fun _ t h' _ => I t (view h')
  | [], _, _, hI => hI
  | i :: rest, s, h, hI => by
    rw [storeAt, runsTo_bind, runsTo_state, runsThen_ok]
    split
    · exact storeAt_runsTo status rest s h hI
    · rw [runsTo_bind]
      refine (write_runsTo hdev status s i _ h hI).mono ?_
      rintro (e | ⟨⟩) t h' es ⟨rfl, hwrite⟩
      · exact hwrite
      · rw [runsThen_ok, runsTo_bind, runsTo_update, runsThen_ok, runsTo_bind]
        refine (storeAt_runsTo status rest _ h' hwrite).mono ?_
        rintro (e | _) u h'' fs hu
        · exact hu
        · exact hu

/-- The load comes first, and nothing after it concerns the status. -/
theorem Card.setUpTransceiver_runsTo {Q : ChannelStatus → ρ → List Event → Prop}
    (hQ : ∀ s v es fs, Q s v es → Q s v (es ++ fs)) (c : Card) (h : H)
    (hload : TransmitStatus.load.RunsTo dev c.status h fun _ s h' es => Q s (view h') es) :
    setUpTransceiver.RunsTo dev c h fun _ c' h' es => Q c'.status (view h') es := by
  have htail : ∀ loaded : Except CardError Unit, Confined dev (viewCut view) statusCut (do
      Action.logFailure .statusLoadFailed loaded
      Action.orLog (.transceiver .mclkDivider (.setMclkDivider mclkDivider256)) .mclkDividerFailed
      let routed ← Action.attempt (.transceiver .clkout (.setClock .clkoutOscillator clkoutHz))
      Action.logFailure .clkoutFailed routed
      Action.orLog (programPll c.board.defaultRate) (.setupPllFailed c.board.defaultRate)) :=
    fun loaded => (confined_logFailure _ loaded).bind fun _ =>
      ((confined_perform (hdev.hasClockSide.call _ rfl) _).orLog _).bind fun _ =>
        (confined_perform (hdev.hasClockSide.call _ rfl) _).attempt.bind fun routed =>
          (confined_logFailure _ routed).bind fun _ =>
            (confined_programPll hdev.hasClockSide (fun _ _ => congrArg Card.board) _).orLog _
  rw [setUpTransceiver, runsTo_bind, runsTo_state, runsThen_ok, runsTo_bind, runsTo_attempt,
    onStatus, runsTo_within]
  refine hload.mono fun r s h' es hs => ?_
  rw [runsThen_ok]
  refine ((htail r).runsTo { c with status := s } h').mono fun _ c' h'' fs hkept => ?_
  have hstatus : c'.status = s := hkept.1
  have hview : view h'' = view h' := hkept.2
  rw [hstatus, hview]
  exact hQ s _ es fs hs

theorem Operation.keeps (op : Operation) : Keeps dev view I op.perform := by
  have hread : ∀ register,
      dev.Confines (viewCut view) (.transceiver (.readRegister register)) :=
    fun _ => hdev.confines nofun
  have hlimits := Card.holdsLimits_statusCut
  have hstore : ∀ status, Keeps dev view I (Card.onStatus (TransmitStatus.store status)) :=
    fun status => Card.keeps_onStatus (TransmitStatus.storeAt_runsTo hdev status _)
  by_cases hclock : op.side? = some .clock
  · intro c h hI
    refine ((op.confined_clock hdev.hasClockSide hclock).runsTo c h).mono fun _ c' h' _ hkept => ?_
    have hstatus : c'.status = c.status := congrArg Prod.snd hkept.1
    have hview : view h' = view h := hkept.2
    rwa [hstatus, hview]
  cases op with
  | setUpTransceiver =>
    refine Keeps.answer (fun c h hI => ?_) _
    exact Card.setUpTransceiver_runsTo hdev (Q := fun s v _ => I s v) (fun _ _ _ _ => id) c h
      (hdev.load _ h hI)
  | finishSetup =>
    refine Confined.keeps (Confined.bind ?_ fun _ => confined_pure _)
    refine confined_state_bind (fun c c' heq => ?_) fun c => (confined_log _).bind fun _ =>
      ((confined_codec hdev.hasClockSide _ _).orLog _).bind fun _ =>
        (confined_codec hdev.hasClockSide _ _).orLog _
    obtain rfl : c = c' := heq
    rfl
  | openStream d constraint =>
    exact ((Card.confined_openStream hlimits d constraint).keeps).answer _
  | controlInfo id item => exact (confined_pure _).keeps
  | getControl id => exact ((Card.confined_getControl hlimits hread id).keeps).answer _
  | putControl id value =>
    refine Keeps.answer ?_ _
    unfold Card.putControl
    split
    · split
      · exact (Card.confined_selectLimits hlimits _).keeps
      · exact (Card.confined_selectLimits hlimits _).keeps
      · exact hstore _
      · exact (confined_ofExcept _).keeps
    · exact (confined_ofExcept _).keeps
  | selectMinRate item | selectMaxRate item =>
    exact ((Card.confined_selectLimits hlimits _).keeps).answer _
  | loadStatus => exact (Card.keeps_onStatus hdev.load).answer _
  | storeStatus status => exact (hstore status).answer _
  | readFlag flag => exact ((flag.confined_read hread).keeps).answer _
  | readRecoveredRate => exact ((RecoveredRate.confined_read hread).keeps).answer _
  | readReceivedStatus => exact ((confined_readStatus hread _).keeps).answer _
  | _ => exact (hclock rfl).elim

theorem Card.play_keeps :
    ∀ (ops : List Operation) (c : Card) (h : H), I c.status (view h) →
      I (play dev ops c h).card.status (view (play dev ops c h).hardware)
  | [], _, _, hI => hI
  | op :: ops, c, h, hI => play_keeps ops _ _ (op.keeps hdev c h hI)

end Keeping

section Loading

variable {dev : Device H} {regs : H → Fin 4 → UInt8} (hdev : dev.HoldsStatus regs)

/-- The status was loaded from the transceiver. Setting up the link to it loads the status too, and
goes on where that fails. -/
def Entry.LoadsStatus (e : Entry) : Prop :=
  (e.operation = .loadStatus ∧ e.result = .ok .unit) ∨
    (e.operation = .setUpTransceiver ∧ ¬ Trace.FailedRead e.events)

include hdev

theorem Operation.loadStatus_runsTo (c : Card) (h : H) :
    loadStatus.perform.RunsTo dev c h fun r c' h' _ =>
      r = .ok .unit → c'.status.Mirrors (regs h') := by
  rw [perform, runsTo_bind, Card.onStatus, runsTo_within]
  refine (hdev.load_runsTo c.status).mono ?_
  rintro (e | ⟨⟩) s h' es (hmirrors | ⟨⟨e, heq⟩, -, -⟩)
  · exact fun _ => hmirrors
  · rintro ⟨⟩
  · exact fun _ => hmirrors
  · cases heq

theorem Operation.setUpTransceiver_runsTo (c : Card) (h : H) :
    setUpTransceiver.perform.RunsTo dev c h fun _ c' h' es =>
      c'.status.Mirrors (regs h') ∨ Trace.FailedRead es := by
  have hload : TransmitStatus.load.RunsTo dev c.status h fun _ s h' es =>
      s.Mirrors (regs h') ∨ Trace.FailedRead es :=
    (hdev.load_runsTo c.status).mono fun _ _ _ _ => Or.imp_right fun hfailed => hfailed.2.2
  have hsetUp := Card.setUpTransceiver_runsTo hdev.keepsMirrors
    (Q := fun s v es => s.Mirrors v ∨ Trace.FailedRead es)
    (fun _ _ _ fs => Or.imp_right fun hfailed => hfailed.append_right fs) c h hload
  exact hsetUp.answer _

theorem Entry.mirrors_of_loadsStatus (op : Operation) (c : Card) (h : H)
    (hload : (op.entry dev c h).LoadsStatus) :
    (op.entry dev c h).card.status.Mirrors (regs ((op.perform c).run dev h).hardware) := by
  rcases hload with ⟨hop, hok⟩ | ⟨hop, hreads⟩
  · obtain rfl : op = .loadStatus := hop
    exact Operation.loadStatus_runsTo hdev c h hok
  · obtain rfl : op = .setUpTransceiver := hop
    rcases Operation.setUpTransceiver_runsTo hdev c h with hmirrors | ⟨register, f, hmem⟩
    · exact hmirrors
    · exact (hreads ⟨register, f, Trace.mem_of_mem_steps hmem⟩).elim

theorem Card.play_mirrors :
    ∀ (ops : List Operation) (c : Card) (h : H),
      (∃ e ∈ (play dev ops c h).entries, e.LoadsStatus) →
      (play dev ops c h).card.status.Mirrors (regs (play dev ops c h).hardware)
  | [], c, h, hloaded => by
    obtain ⟨e, he, -⟩ := hloaded
    cases he
  | op :: ops, c, h, hloaded => by
    obtain ⟨e, he, hload⟩ := hloaded
    rcases List.mem_cons.1 he with rfl | he
    · exact play_keeps hdev.keepsMirrors ops _ _ (Entry.mirrors_of_loadsStatus hdev op c h hload)
    · exact play_mirrors ops _ _ ⟨e, he, hload⟩

end Loading

section Simulated

def Registers.transmitted (r : Registers) (i : Fin 4) : UInt8 := r.read (transmitRegister i)

theorem Registers.transmitted_update (r : Registers) (i : Fin 4) (mask value : UInt8) :
    (r.update (transmitRegister i) mask value).transmitted =
      Function.update r.transmitted i (maskedByte (r.transmitted i) mask value) := by
  have hinj : ∀ i j, transmitRegister j = transmitRegister i → j = i := by decide
  funext j
  by_cases hj : j = i
  · subst hj
    rw [Function.update_self, transmitted, update, read_write_self]
    rfl
  · rw [Function.update_of_ne hj, transmitted, update, read_write_of_ne _ _ (hj ∘ hinj i j)]
    rfl

theorem Registers.transmitted_accept (r : Registers) {c : TransceiverCall}
    (hc : ∀ i mask value, c ≠ .updateBits (transmitRegister i) mask value) :
    (r.accept c).2.transmitted = r.transmitted := by
  cases c with
  | updateBits register mask value =>
    funext i
    have hne : transmitRegister i ≠ register := by
      rintro rfl
      exact hc i mask value rfl
    exact read_write_of_ne r _ hne
  | readRegister _ | setPll _ _ | setClock _ _ | setMclkDivider _ => rfl

/-- Hardware with a register file: a call fails and leaves the file, or it is carried out on it. -/
structure Device.Works (dev : Device H) (file : H → Registers) : Prop where
  call : ∀ c h,
    (∃ f, (dev.perform c h).1 = .error f ∧ file (dev.perform c h).2 = file h) ∨
      ((dev.perform c h).1 = .ok (Scripted.accept (file h) c).1 ∧
        file (dev.perform c h).2 = (Scripted.accept (file h) c).2)
  wait : ∀ us h, file (dev.wait us h) = file h

theorem Scripted.works (schedule : Schedule) : (Scripted.device schedule).Works registers where
  call c h := by
    rcases hf : schedule h.number with _ | f
    · exact .inr (by simp only [device, hf, and_self])
    · exact .inl ⟨f, by simp only [device, hf, and_self]⟩
  wait _ _ := rfl

theorem Bench.works : Bench.device.Works fun b => b.transceiver.registers where
  call c b := by
    cases c with
    | codec c =>
      simp only [device, codecCall, BenchCodec.call]
      split
      · exact .inl ⟨_, rfl, trivial⟩
      · exact .inr ⟨rfl, rfl⟩
    | transceiver c =>
      simp only [device, transceiverCall, BenchTransceiver.call, BenchTransceiver.carryOut]
      split
      · exact .inl ⟨_, rfl, rfl⟩
      · split
        · exact .inr ⟨rfl, rfl⟩
        · exact .inl ⟨_, rfl, rfl⟩
    | bitClockRatio ratio =>
      simp only [device, setBitClockRatio]
      split
      · exact .inl ⟨_, rfl, rfl⟩
      · exact .inr ⟨rfl, rfl⟩
  wait _ _ := rfl

theorem Device.Works.holdsStatus {dev : Device H} {file : H → Registers} (hdev : dev.Works file) :
    dev.HoldsStatus fun h => (file h).transmitted where
  read i h b hb := by
    rcases hdev.call (.transceiver (.readRegister (transmitRegister i))) h with
      ⟨f, hf, -⟩ | ⟨hok, -⟩
    · rw [hf] at hb
      cases hb
    · rw [hok] at hb
      exact (Except.ok.inj hb).symm
  write i mask value h hok := by
    rcases hdev.call (.transceiver (.updateBits (transmitRegister i) mask value)) h with
      ⟨f, hf, -⟩ | ⟨-, hfile⟩
    · rw [hf] at hok
      cases hok
    · rw [hfile]
      exact Registers.transmitted_update (file h) i mask value
  failed c h f herror := by
    rcases hdev.call c h with ⟨_, -, hfile⟩ | ⟨hok, -⟩
    · rw [hfile]
    · rw [hok] at herror
      cases herror
  other c h hc := by
    rcases hdev.call c h with ⟨_, -, hfile⟩ | ⟨-, hfile⟩
    · rw [hfile]
    · rw [hfile]
      cases c with
      | transceiver c =>
        refine Registers.transmitted_accept (file h) fun i mask value heq => ?_
        exact hc i mask value (congrArg Call.transceiver heq)
      | codec _ | bitClockRatio _ => rfl
  wait us h := by rw [hdev.wait us h]

end Simulated

namespace Card

/-- The bits that do not exist are clear in every state reached. On hardware with plain transmit
registers, once the status was loaded, every byte kept is the byte in its register, under the
mask. -/
theorem play_status (dev : Device H) (board : Board) (ops : List Operation) (h : H) :
    let p := play dev ops (initial board) h
    p.card.status.byte 3 &&& 0xC0 = 0 ∧
      ∀ regs, dev.HoldsStatus regs → (∃ e ∈ p.entries, e.LoadsStatus) →
        ∀ i, p.card.status.byte i = regs p.hardware i &&& ChannelStatus.mask.byte i := by
  intro p
  have hzero : ChannelStatus.zero.masked = ChannelStatus.zero := by decide
  have hmasked := play_keeps dev.keepsMasked ops (initial board) h hzero
  exact ⟨ChannelStatus.top_bits_clear hmasked, fun regs hdev => play_mirrors hdev ops _ h⟩

/-- The status is loaded from registers that hold some bits that do not exist, and a store of
another one fails at its second byte: the first byte has changed on both sides, and the others on
neither. -/
theorem play_status_half_stored :
    let dev := Scripted.device (.ofFaults [{ first := 5, failure := .bus }])
    let ops : List Operation := [.loadStatus, .storeStatus ⟨#v[1, 2, 3, 4]⟩]
    let h : Scripted := { registers := (Registers.zero.write 0x13 0x20).write 0x15 0xFF }
    let p := play dev ops (initial {}) h
    (∃ e ∈ p.entries, e.LoadsStatus) ∧ p.card.status = ⟨#v[1, 0x20, 0, 0x3F]⟩ ∧
      ∀ i, p.card.status.byte i =
        p.hardware.registers.transmitted i &&& ChannelStatus.mask.byte i := by
  intro dev ops h
  have hloaded : ∃ e ∈ (play dev ops (initial {}) h).entries, e.LoadsStatus :=
    ⟨_, List.mem_cons_self, .inl ⟨rfl, rfl⟩⟩
  have hmirrors := (play_status dev {} ops h).2 _ (Scripted.works _).holdsStatus hloaded
  exact ⟨hloaded, by decide, hmirrors⟩

end Card

end SoundCard
