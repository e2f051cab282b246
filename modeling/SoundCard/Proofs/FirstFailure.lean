import SoundCard.Proofs.Compositional
import SoundCard.Proofs.Entries
import SoundCard.Scripted

/-!
# The first failure

Where an operation reports failures at all, the first call that fails decides what it reports: the
step that issued the call, and the failure the call met. After it nothing else is called, but for
the second of the two disables, which are always tried together (`Operation.first_failure`). Only
the set-up of the two links and what is announced after the fact go on past a failure.
-/

namespace SoundCard

open Clock SoundCard.Action

/-- The step that issues a call. A stream that negotiates sets SYSCLK under another name than the
rest of the card, which only gates it. -/
def Call.step (atSysclk : CardStep) : Call → CardStep
  | .codec (.setFll .main none _ _) => .clearMain
  | .codec (.setFll .reference none _ _) => .clearReference
  | .codec (.setFll .main (some .mclk1) _ _) => .lockMaster
  | .codec (.setFll .main (some .aif2BitClock) _ _) => .lockRecovered
  | .codec (.setFll .reference (some _) _ _) => .primeReference
  | .codec (.setSysclk _) => atSysclk
  | .codec (.updateBits _ _ _) => .clock32k
  | .codec (.setTdmSlots _ _ _ _) => .tdmSlots
  | .codec (.joinSysclk .aif1) => .aif1Domain
  | .codec (.joinSysclk .aif2) => .aif2Domain
  | .transceiver (.readRegister _) => .readStatus
  | .transceiver (.updateBits _ _ _) => .writeStatus
  | .transceiver (.setPll _ _) => .transceiverPll
  | .transceiver (.setClock .transmitPll _) => .transmitClock
  | .transceiver (.setClock .clkoutOscillator _) => .clkout
  | .transceiver (.setMclkDivider _) => .mclkDivider
  | .bitClockRatio _ => .bitClockRatio

/-- The calls that still follow where the given one was the first to fail. -/
def Call.tail (c : Call) : List Call :=
  if c = .codec (.disable .main) then [.codec (.disable .reference)] else []

namespace Trace

/-- What comes after the first failed call. -/
def afterFailure : List Event → List Event
  | [] => []
  | .call _ (some _) :: es => es
  | .call _ none :: es | .wait _ :: es | .log _ :: es => afterFailure es

theorem failures_steps (es : List Event) : failures (steps es) = failures es :=
  filterMap_steps (fun _ => rfl) es

theorem calls_steps (es : List Event) : calls (steps es) = calls es :=
  filterMap_steps (fun _ => rfl) es

theorem afterFailure_steps (es : List Event) :
    afterFailure (steps es) = steps (afterFailure es) := by
  induction es with
  | nil => rfl
  | cons e es ih =>
    rcases e with ⟨c, _ | f⟩ | us | line
    · exact ih
    · rfl
    · exact ih
    · exact ih

theorem afterFailure_append {es : List Event} (h : failures es = []) (fs : List Event) :
    afterFailure (es ++ fs) = afterFailure fs := by
  induction es with
  | nil => rfl
  | cons e es ih =>
    rcases e with ⟨c, _ | f⟩ | us | line
    · exact ih h
    · cases h
    · exact ih h
    · exact ih h

end Trace

/-- The first failure decides the result, and there is little after it. -/
inductive Decided {α : Type} (atSysclk : CardStep) : Except CardError α → List Event → Prop
  | ok {es : List Event} (a : α) (h : Trace.failures es = []) : Decided atSysclk (.ok a) es
  | failed {es fs : List Event} (c : Call) (f : Failure) (h : Trace.failures es = [])
    (htail : Trace.calls fs = c.tail) :
    Decided atSysclk (.error (.hardware (c.step atSysclk) f)) (es ++ .call c (some f) :: fs)

namespace Decided

variable {α β : Type} {atSysclk : CardStep} {r : Except CardError α} {es fs : List Event}

theorem failures_of_ok {a : α} (h : Decided atSysclk (.ok a) es) : Trace.failures es = [] := by
  cases h with
  | ok _ h => exact h

theorem head {step : CardStep} {c : Call} (f : Failure) (hstep : c.step atSysclk = step)
    (htail : Trace.calls fs = c.tail) :
    Decided atSysclk (.error (.hardware step f) : Except CardError α) (.call c (some f) :: fs) :=
  hstep ▸ @failed α atSysclk [] fs c f rfl htail

theorem append_left (h : Decided atSysclk r fs) (hes : Trace.failures es = []) :
    Decided atSysclk r (es ++ fs) := by
  cases h with
  | ok a hfs => exact .ok a (by rw [Trace.failures_append, hes, hfs]; rfl)
  | failed c f hfs htail =>
    rw [← List.append_assoc]
    exact .failed c f (by rw [Trace.failures_append, hes, hfs]; rfl) htail

theorem next (c : Call) (h : Decided atSysclk r es) : Decided atSysclk r (.call c none :: es) :=
  h.append_left (rfl : Trace.failures [.call c none] = [])

theorem map (h : Decided atSysclk r es) (f : α → β) : Decided atSysclk (r.map f) es := by
  cases h with
  | ok a h => exact .ok (f a) h
  | failed c g h htail => exact .failed c g h htail

theorem error {e : CardError} (h : Decided atSysclk (.error e : Except CardError α) es) :
    Decided atSysclk (.error e : Except CardError β) es := by
  cases h with
  | failed c f h htail => exact .failed c f h htail

theorem ok_iff (h : Decided atSysclk r es) : (∃ a, r = .ok a) ↔ Trace.failures es = [] := by
  cases h with
  | ok a h => exact ⟨fun _ => h, fun _ => ⟨a, rfl⟩⟩
  | failed c f h _ => simp [Trace.failures, Event.failed?]

theorem failures_of_error {e : CardError}
    (h : Decided atSysclk (.error e : Except CardError α) es) : Trace.failures es ≠ [] := by
  intro hnone
  obtain ⟨_, hok⟩ := h.ok_iff.2 hnone
  cases hok

theorem of_failures_cons {c : Call} {f : Failure} {rest : List (Call × Failure)}
    (h : Decided atSysclk r es) (hes : Trace.failures es = (c, f) :: rest) :
    r = .error (.hardware (c.step atSysclk) f) ∧
      Trace.calls (Trace.afterFailure es) = c.tail := by
  cases h with
  | ok a h =>
    rw [h] at hes
    cases hes
  | failed d g h htail =>
    rw [Trace.failures_append, h] at hes
    obtain ⟨hhead, -⟩ := List.cons.inj hes
    obtain ⟨rfl, rfl⟩ := Prod.mk.inj hhead
    rw [Trace.afterFailure_append h]
    exact ⟨rfl, htail⟩

end Decided

section Outcomes

variable {α : Type} {atSysclk : CardStep} {board : Board} {rate : Hz} {s t : ClockDomain}
  {r : Except CardError Unit} {es : List Event}

namespace Clock

theorem DisableOutcome.decided (h : DisableOutcome s r t es) : Decided atSysclk r es := by
  cases h with
  | disabled => exact .ok () rfl
  | mainFailed f reference => exact .head f rfl rfl
  | referenceFailed f => exact .next _ (.head f rfl rfl)

theorem MasterLockOutcome.decided (h : MasterLockOutcome board rate s r t es) :
    Decided atSysclk r es := by
  cases h with
  | locked => exact .ok () rfl
  | refused f => exact .head f rfl rfl

theorem RecoveredLockOutcome.decided (h : RecoveredLockOutcome board rate s r t es) :
    Decided atSysclk r es := by
  cases h with
  | locked => exact .ok () rfl
  | primeFailed f => exact .head f rfl rfl
  | refused f => exact .next _ (.head f rfl rfl)

theorem RelockOutcome.decided (h : RelockOutcome board rate s r t es) :
    Decided atSysclk r es := by
  cases h with
  | stuck h => exact h.decided
  | tried h => exact h.decided.append_left rfl

theorem FollowOutcome.decided (h : FollowOutcome board rate s r t es) :
    Decided atSysclk r es := by
  cases h with
  | idle _ => exact .ok () rfl
  | tried _ _ h => exact h.decided

theorem StartOutcome.decided (h : StartOutcome board s r t es) : Decided atSysclk r es := by
  cases h with
  | owned _ | running _ => exact .ok () rfl
  | tried _ _ h => exact h.decided

theorem StopOutcome.decided (h : StopOutcome s r t es) : Decided atSysclk r es := by
  cases h with
  | stopped h => exact h.decided

theorem RaiseOutcome.decided (h : RaiseOutcome board s r t es) : Decided atSysclk r es := by
  cases h with
  | stuck h => exact h.decided
  | failed h | raised h => exact h.decided.append_left rfl

theorem DropOutcome.decided {d : Direction} (h : DropOutcome d s r t es) :
    Decided .gateSysclk r es := by
  cases h with
  | silent _ | gated _ _ => exact .ok () rfl
  | gateFailed _ _ f => exact .head f rfl rfl

end Clock

theorem CallsInTurn.decided {plan : List (CardStep × Call)} {r : Except CardError α}
    (h : CallsInTurn plan r es)
    (hplan : ∀ p ∈ plan, p.2.step atSysclk = p.1 ∧ p.2.tail = []) : Decided atSysclk r es := by
  induction h with
  | done a => exact .ok a rfl
  | failed step c rest f =>
    obtain ⟨hstep, htail⟩ := hplan _ List.mem_cons_self
    exact .head f hstep htail.symm
  | next _ ih => exact .next _ (ih fun p hp => hplan p (List.mem_cons_of_mem _ hp))

theorem negotiationPlan_steps (board : Board) (params : StreamParams) :
    ∀ p ∈ negotiationPlan board params, p.2.step .sysclk = p.1 ∧ p.2.tail = [] := by
  refine forall_negotiationPlan board ?_ ?_ ?_
  all_goals simp [interfacePlan, pllPlan, sysclkPlan, Call.step, Call.tail, CodecCall.disable]

theorem NegotiateOutcome.decided {d : Direction} {params : StreamParams}
    (h : NegotiateOutcome board d params s r t es) : Decided .sysclk r es := by
  have hplan := negotiationPlan_steps board params
  cases h with
  | refused h => exact h.decided hplan
  | stuck hok h | settled hok h =>
    exact h.decided.append_left (hok.decided hplan).failures_of_ok

end Outcomes

namespace Action

variable {σ τ α β : Type} {atSysclk : CardStep}

/-- The action stops at the first failure and reports it. -/
def Stops (atSysclk : CardStep) (x : Action σ α) : Prop :=
  ∀ s, x.Ensures s fun r _ es => Decided atSysclk r es

theorem stops_perform {step : CardStep} {c : Call} (hstep : c.step atSysclk = step)
    (htail : c.tail = []) : Stops atSysclk (perform step c : Action σ c.Answer) := by
  intro s
  rw [ensures_perform]
  exact ⟨fun a => .ok a rfl, fun f => .head f hstep htail.symm⟩

theorem Stops.bind {x : Action σ α} {f : α → Action σ β} (hx : Stops atSysclk x)
    (hf : ∀ a, Stops atSysclk (f a)) : Stops atSysclk (x >>= f) := by
  intro s
  rw [ensures_bind]
  refine (hx s).mono ?_
  rintro (e | a) t es h
  · exact h.error
  · rw [then_ok]
    exact (hf a t).mono fun _ _ _ h' => h'.append_left h.failures_of_ok

theorem Stops.orLog {x : Action σ α} (hx : Stops atSysclk x) (line : LogLine) :
    Stops atSysclk (x.orLog line) :=
  fun s => (ensures_orLog x line).2 (hx s)

theorem compositional_stops (atSysclk : CardStep) : Compositional fun _ _ => Stops atSysclk where
  pure a _ := .ok a rfl
  state s := .ok s rfl
  update _ _ := .ok () rfl
  log _ _ _ := .ok () rfl
  bind := Stops.bind
  within hx t := (ensures_within _ _ _ t).2 (hx _)

end Action

theorem Clock.stops_start {atSysclk : CardStep} (board : Board) : Stops atSysclk (start board) :=
  fun s => (start_ensures board s).mono fun _ _ _ h => h.decided

theorem TransmitStatus.stops_store {atSysclk : CardStep} (status : ChannelStatus) :
    Stops atSysclk (store status) :=
  storeAt_of (compositional_stops atSysclk) (fun _ _ => (Action.stops_perform rfl rfl).orLog _)
    status _

namespace Operation

variable {op : Operation}

/-- The operation goes on past some of its failures, or keeps them to itself. -/
def tolerates : Operation → Bool
  | .setUpCodec | .setUpTransceiver | .biasChanged _ _ | .widgetPower _ _ => true
  | _ => false

/-- Why an operation is turned down for what it asks, if it is: it puts a value into a control that
can only be read, or one of the wrong shape into one of the three others. -/
def rejection? : Operation → Option CardError
  | .putControl .minRate (.enumerated _) | .putControl .maxRate (.enumerated _)
  | .putControl .playbackStatus (.status _) => none
  | .putControl .minRate _ | .putControl .maxRate _ | .putControl .playbackStatus _ =>
    some .invalidValue
  | .putControl _ _ => some .readOnly
  | _ => none

def sysclkStep : Operation → CardStep
  | .negotiate _ _ => .sysclk
  | _ => .gateSysclk

theorem sysclkStep_of_ne (h : ∀ d params, op ≠ .negotiate d params) :
    op.sysclkStep = .gateSysclk := by
  cases op with
  | negotiate d params => exact (h d params rfl).elim
  | _ => rfl

theorem report_of_reports (hop : op.tolerates = false) (r : Except CardError Unit) :
    op.report r = r.map fun _ => .unit := by
  cases op with
  | setUpCodec | setUpTransceiver | biasChanged _ _ | widgetPower _ _ => cases hop
  | _ => rfl

theorem decided_of_task {task : ClockTask} (hop : op.tolerates = false)
    (htask : op.clockTask? = some task) {board : Board} {s t : ClockDomain}
    {r : Except CardError Unit} {es : List Event} (h : task.Outcome board s r t es) :
    Decided op.sysclkStep r es := by
  cases task with
  | setUp =>
    obtain rfl := eq_setUpCodec_of_clockTask? htask
    cases hop
  | negotiate d params =>
    obtain rfl := eq_negotiate_of_clockTask? htask
    exact NegotiateOutcome.decided h
  | drop d =>
    rw [sysclkStep_of_ne (by rintro _ _ rfl; cases htask)]
    exact DropOutcome.decided h
  | start => exact StartOutcome.decided h
  | stop => exact StopOutcome.decided h
  | raise => exact RaiseOutcome.decided h
  | lower =>
    obtain ⟨rfl, -, rfl⟩ := h
    exact .ok () rfl

theorem stops_perform (hop : op.tolerates = false) (htask : op.clockTask? = none)
    (hput : ∀ id value, op ≠ .putControl id value) : Stops op.sysclkStep op.perform := by
  have hJ := compositional_stops op.sysclkStep
  by_cases hread : op.readsOnly = true
  · exact perform_of_readsOnly hJ (fun _ => Action.stops_perform rfl rfl) hread
  by_cases hlocal : op.isLocal = true
  · exact perform_of_isLocal hJ hlocal
  cases op with
  | finishSetup =>
    exact (Card.finishSetup_of hJ ((Action.stops_perform rfl rfl).orLog _)
      ((Action.stops_perform rfl rfl).orLog _)).bind fun _ => hJ.pure _
  | storeStatus status =>
    exact (hJ.within (TransmitStatus.stops_store status)).bind fun _ => hJ.pure _
  | changeBias domain current target =>
    exact (Card.changeBias_of hJ fun _ => Clock.stops_start).bind fun _ => hJ.pure _
  | putControl id value => exact (hput id value rfl).elim
  | setUpTransceiver | biasChanged _ _ | widgetPower _ _ => cases hop
  | loadStatus | getControl _ | readFlag _ | readRecoveredRate | readReceivedStatus =>
    exact (hread rfl).elim
  | openStream _ _ | controlInfo _ _ | selectMinRate _ | selectMaxRate _ | linkParams | board =>
    exact (hlocal rfl).elim
  | _ => cases htask

theorem rejection?_of_ne (h : ∀ id value, op ≠ .putControl id value) : op.rejection? = none := by
  cases op with
  | putControl id value => exact (h id value rfl).elim
  | _ => rfl

/-- How an operation ends that reports its failures: it is turned down without a step, or the first
failure decides. -/
def Reports (op : Operation) (r : Except CardError Answer) (es : List Event) : Prop :=
  match op.rejection? with
  | some error => r = .error error ∧ es = []
  | none => Decided op.sysclkStep r es

theorem reports_of_ne (hput : ∀ id value, op ≠ .putControl id value)
    {r : Except CardError Answer} {es : List Event} (h : Decided op.sysclkStep r es) :
    op.Reports r es := by
  rw [Reports, rejection?_of_ne hput]
  exact h

theorem putControl_ensures (id : Control) (value : ControlValue) (c : Card) :
    (putControl id value).perform.Ensures c fun r _ es => (putControl id value).Reports r es := by
  have hJ := compositional_stops .gateSysclk
  have hstops : ∀ {x : Action Card Bool}, Stops .gateSysclk x →
      (do return Answer.changed (← x)).Ensures c fun r _ es => Decided .gateSysclk r es :=
    fun hx => hx.bind (fun _ => hJ.pure _) c
  cases id with
  | minRate =>
    cases value with
    | enumerated item => exact hstops (Card.selectLimits_of hJ (·.selectMin item))
    | status _ | boolean _ => exact ⟨rfl, rfl⟩
  | maxRate =>
    cases value with
    | enumerated item => exact hstops (Card.selectLimits_of hJ (·.selectMax item))
    | status _ | boolean _ => exact ⟨rfl, rfl⟩
  | playbackStatus =>
    cases value with
    | status status =>
      have hstore : Stops .gateSysclk (Card.onStatus (TransmitStatus.store status)) :=
        hJ.within (TransmitStatus.stops_store status)
      exact hstops hstore
    | enumerated _ | boolean _ => exact ⟨rfl, rfl⟩
  | captureStatus | playbackMask | recoveredRate | flag _ => exact ⟨rfl, rfl⟩

theorem ensures_reports (hop : op.tolerates = false) (c : Card) :
    op.perform.Ensures c fun r _ es => op.Reports r es := by
  by_cases hput : ∃ id value, op = .putControl id value
  · obtain ⟨id, value, rfl⟩ := hput
    exact putControl_ensures id value c
  have hne : ∀ id value, op ≠ .putControl id value := fun id value heq => hput ⟨id, value, heq⟩
  rcases htask : op.clockTask? with _ | task
  · exact (stops_perform hop htask hne c).mono fun _ _ _ h => reports_of_ne hne h
  · refine (ensures_task htask c).mono ?_
    rintro _ _ es ⟨r, t, hout, -, rfl⟩
    rw [report_of_reports hop]
    exact reports_of_ne hne ((decided_of_task hop htask hout).map _)

/-- A negotiation none of whose calls failed has succeeded. -/
theorem negotiateOutcome_of_accepted {H : Type} (dev : Device H) (c : Card) (h : H) {d : Direction}
    {params : StreamParams} :
    let e := (negotiate d params).entry dev c h
    Trace.failures e.events = [] →
      NegotiateOutcome c.board d params c.clock (.ok ()) e.card.clock (Trace.steps e.events) := by
  intro e hfailures
  obtain ⟨r, t, hout, hcard, -⟩ := (performs_negotiate d params c).run dev h
  rw [← Trace.failures_steps] at hfailures
  obtain ⟨⟨⟩, rfl⟩ := (NegotiateOutcome.decided hout).ok_iff.2 hfailures
  have hclock : e.card.clock = t := congrArg Card.clock hcard
  rw [hclock]
  exact hout

/-- An operation that puts a value where it cannot go is turned down without a call, and no other
is turned down. Any other one that reports its failures succeeds just if no call failed; otherwise
it reports the first failure, under the name of the step that met it, and issues no more calls,
unless it was disabling FLL1, whose reference path is still disabled. -/
theorem first_failure {H : Type} (dev : Device H) (op : Operation) (hop : op.tolerates = false)
    (c : Card) (h : H) :
    let e := op.entry dev c h
    (∀ error, op.rejection? = some error →
      e.result = .error error ∧ Trace.calls e.events = []) ∧
      (op.rejection? = none →
        ((∃ a, e.result = .ok a) ↔ Trace.failures e.events = []) ∧
          ∀ call f rest, Trace.failures e.events = (call, f) :: rest →
            e.result = .error (.hardware (call.step op.sysclkStep) f) ∧
              Trace.calls (Trace.afterFailure e.events) =
                if call = .codec (.disable .main) then [.codec (.disable .reference)] else []) := by
  intro e
  have hreports : op.Reports e.result (Trace.steps e.events) := (ensures_reports hop c).run dev h
  rw [← Trace.calls_steps, ← Trace.calls_steps (Trace.afterFailure _), ← Trace.afterFailure_steps,
    ← Trace.failures_steps]
  refine ⟨fun error herror => ?_, fun hnone => ?_⟩
  · rw [Reports, herror] at hreports
    obtain ⟨hresult, hsteps⟩ := hreports
    exact ⟨hresult, congrArg Trace.calls hsteps⟩
  · rw [Reports, hnone] at hreports
    exact ⟨hreports.ok_iff, fun call f rest hfailures => hreports.of_failures_cons hfailures⟩

/-- The receive path comes up, the main path of FLL1 cannot be disabled, and neither can the
reference path, in another way: the first failure is reported. -/
theorem first_failure_raise :
    let dev := Scripted.device (.ofFaults
      [{ first := 0, failure := .bus }, { first := 1, failure := .unsupported }])
    let e := Operation.raiseSyncPath.entry dev (Card.initial {}) {}
    Trace.failures e.events =
        [(.codec (.disable .main), .bus), (.codec (.disable .reference), .unsupported)] ∧
      e.result = .error (.hardware .clearMain .bus) ∧
      Trace.calls (Trace.afterFailure e.events) = [.codec (.disable .reference)] := by
  intro dev e
  have hfailures : Trace.failures e.events =
      [(.codec (.disable .main), .bus), (.codec (.disable .reference), .unsupported)] := by decide
  obtain ⟨-, hdecides⟩ := first_failure dev .raiseSyncPath rfl (Card.initial {}) {}
  obtain ⟨hreported, hafter⟩ := (hdecides rfl).2 _ _ _ hfailures
  exact ⟨hfailures, hreported, hafter⟩

end Operation

end SoundCard
