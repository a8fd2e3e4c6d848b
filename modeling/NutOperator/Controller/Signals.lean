import NutOperator.Controller.Reconcile
import NutOperator.Kubeactions.Handoff

/-! Which of the projected signals may stay, over runs of the executions that write
them and of the statuses that record those executions. -/
namespace NutOperator.Controller

open Data Execution Kubeactions Nodeagent List

/-- A signal stays while nothing proves that its episode is over. -/
def signalStillAuthorized (times : Codec Time String) (payload : ShutdownSignal)
    (flow : Option ShutdownFlow) (ttl : Duration) (now : Time) : Bool :=
  match times.decode payload.timestamp with
  | none => false
  | some written =>
    if payload.executionID = "" ∨ payload.nodeName = "" ∨ payload.shutdownFlow = "" then false
    else
      match flow with
      | none => timeSub now written ≤ ttl
      | some flow =>
        match flow.status.lastExecution with
        | none => true
        | some last =>
          match last.completedAt with
          | none => true
          | some completedAt =>
            completedAt < written ||
              (last.executionID = payload.executionID && last.triggerActive)

/-- An execution between the claim of its resources and its record. -/
structure InFlight where
  begunAt : Time
  input : Input

structure WrittenSignal where
  begunAt : Time
  payload : ShutdownSignal
deriving Repr, DecidableEq

/-- One flow: the copy its worker holds, every status it was ever stored with, the
execution in flight, and the signals in the Secrets. -/
structure FlowWorld where
  flow : ShutdownFlow
  stored : List ShutdownFlowStatus
  inFlight : Option InFlight := none
  signals : List WrittenSignal := []
  /-- The executions that have ended, by identifier, and when. -/
  completions : List (String × Time) := []

inductive FlowEvent where
  /-- A pass without a worker stores the status it derives from the newest one. -/
  | accept (pass : Pass) (compiled : CompiledFlow)
  | reject (pass : Pass)
  /-- A pass finds the worker of a flow that has changed since. -/
  | superseded
  /-- A worker takes over the newest status. -/
  | submit
  /-- The worker finds no trigger eligible. -/
  | idle
  /-- The worker finds its key on record. -/
  | recorded (rehearsalRun : Bool)
  | begin (input : Input) (evaluation : ShutdownTriggerEvaluationStatus)
  | sign (action : Action) (release : NodeRelease)
  | finish (worker : Worker) (observedAt : Time) (configHash dedupeKey : String)
      (evaluation : ShutdownTriggerEvaluationStatus) (rehearsalRun : Bool) (result : Result)
      (error : Option String)
  /-- The worker's copy is stored. -/
  | publish
  /-- The manager restarts, and what was in flight is gone. -/
  | restart

def FlowWorld.newest (world : FlowWorld) : ShutdownFlowStatus := world.stored.headD {}

def FlowWorld.store (world : FlowWorld) (status : ShutdownFlowStatus) : FlowWorld :=
  { world with stored := persist status :: world.stored }

def FlowWorld.step (times : Codec Time String) (world : FlowWorld) (now : Time) :
    FlowEvent → FlowWorld
  | .accept pass compiled => world.store (acceptFlow pass world.newest compiled).status
  | .reject pass => world.store (rejectFlow pass world.newest).status
  | .superseded =>
    world.store (setExecutionReadyCondition { world.flow with status := world.newest } false
      "ExecutionStopping"
      "waiting for the superseded execution to release its resources").status
  | .submit =>
    if world.inFlight.isSome then world
    else { world with flow := { world.flow with status := world.newest } }
  | .idle =>
    if world.inFlight.isSome then world
    else
      { world with
        flow := setExecutionReadyCondition (withLastExecution world.flow
          (deactivateLastExecution world.flow.status.lastExecution)) false
            triggerNotEligibleReason triggerNotEligibleMessage }
  | .recorded rehearsalRun =>
    if world.inFlight.isSome then world
    else { world with flow := markExecutionAlreadyRecorded world.flow rehearsalRun }
  | .begin input evaluation =>
    if world.inFlight.isSome then world
    else
      { world with
        flow := startExecutionProgress world.flow input evaluation
        inFlight := some ⟨now, input⟩ }
  | .sign action release =>
    match world.inFlight with
    | none => world
    | some execution =>
      if action.executionID = execution.input.executionID ∧ identified action ∧
          addressed release then
        { world with
          signals := ⟨execution.begunAt, shutdownSignal times action release now⟩ ::
            world.signals }
      else world
  | .finish worker observedAt configHash dedupeKey evaluation rehearsalRun result error =>
    match world.inFlight with
    | none => world
    | some _ =>
      { world with
        flow := recordExecution { worker with completedAt := now } world.flow observedAt
          configHash dedupeKey evaluation rehearsalRun result error
        inFlight := none, completions := (result.executionID, now) :: world.completions }
  | .publish => world.store world.flow.status
  | .restart => { world with inFlight := none }

def FlowWorld.run (times : Codec Time String) (world : FlowWorld)
    (events : List (Time × FlowEvent)) : FlowWorld :=
  events.foldl (fun world event => world.step times event.1 event.2) world

def FlowWorld.initial (flow : ShutdownFlow) : FlowWorld :=
  { flow := { flow with status := {} }, stored := [] }

def completedRecord (status : ShutdownFlowStatus) : Option (String × Time) :=
  status.lastExecution.bind fun last =>
    last.completedAt.map fun completedAt => (last.executionID, completedAt)

theorem completedRecord_persist (status : ShutdownFlowStatus) : completedRecord (persist status) =
      (completedRecord status).map fun record => (record.1, wholeSecond record.2) := by
  cases hlast : status.lastExecution with
  | none => simp [completedRecord, persist, hlast]
  | some last =>
    cases hc : last.completedAt <;>
      simp [completedRecord, persist, persistExecution, hlast, hc]

theorem completedRecord_of_lastExecution_eq {first second : ShutdownFlowStatus}
    (h : first.lastExecution = second.lastExecution) :
    completedRecord first = completedRecord second := by
  rw [completedRecord, h, completedRecord]

theorem completedRecord_acceptFlow (pass : Pass) (status : ShutdownFlowStatus)
    (compiled : CompiledFlow) :
    completedRecord (acceptFlow pass status compiled).status = completedRecord status :=
  completedRecord_of_lastExecution_eq (lastExecution_publish _ _ _)

theorem bind_deactivateLastExecution (last : Option ShutdownExecutionStatus) :
    ((deactivateLastExecution last).bind fun last =>
      last.completedAt.map fun completedAt => (last.executionID, completedAt)) =
      last.bind fun last => last.completedAt.map fun completedAt =>
        (last.executionID, completedAt) := by
  cases last with
  | none => rfl
  | some last =>
    simp only [deactivateLastExecution, Option.map_some, Option.bind_some]
    split <;> rfl

theorem completedRecord_rejectFlow (pass : Pass) (status : ShutdownFlowStatus) :
    completedRecord (rejectFlow pass status).status = completedRecord status := by
  rw [completedRecord, rejectFlow, lastExecution_publish]
  exact bind_deactivateLastExecution status.lastExecution

theorem completedRecord_markExecutionAlreadyRecorded (flow : ShutdownFlow) (rehearsalRun : Bool) :
    completedRecord (markExecutionAlreadyRecorded flow rehearsalRun).status =
      completedRecord flow.status := by
  cases hlast : flow.status.lastExecution <;>
    simp [completedRecord, markExecutionAlreadyRecorded, setExecutionReadyCondition,
      withLastExecution, hlast]

theorem completedRecord_recordExecution (worker : Worker) (flow : ShutdownFlow)
    (observedAt : Time) (configHash dedupeKey : String)
    (evaluation : ShutdownTriggerEvaluationStatus) (rehearsalRun : Bool) (result : Result)
    (err : Option String) :
    completedRecord (recordExecution worker flow observedAt configHash dedupeKey evaluation
      rehearsalRun result err).status = some (result.executionID, worker.completedAt) := by
  simp [completedRecord, recordExecution, withLastExecution]

theorem wholeSecond_le (time : Time) : wholeSecond time ≤ time :=
  sub_le_self time (Int.emod_nonneg time (by decide))

def RecordsCompletion (completions : List (String × Time)) (status : ShutdownFlowStatus) : Prop :=
  ∀ record ∈ completedRecord status, ∃ completedAt, (record.1, completedAt) ∈ completions ∧
    wholeSecond record.2 = wholeSecond completedAt

/-- Ends come before the execution in flight, and its signals after its begin. -/
structure FlowWorld.InOrder (times : Codec Time String) (world : FlowWorld) (now : Time) :
    Prop where
  flow : RecordsCompletion world.completions world.flow.status
  stored : ∀ status ∈ world.stored, RecordsCompletion world.completions status ∧
    ∀ record ∈ completedRecord status, wholeSecond record.2 = record.2
  completions : ∀ completion ∈ world.completions,
    completion.2 ≤ now ∧ ∀ execution ∈ world.inFlight, completion.2 < execution.begunAt
  inFlight : ∀ execution ∈ world.inFlight, execution.begunAt ≤ now
  signals : ∀ signal ∈ world.signals, signal.payload.executionID ≠ "" ∧
    signal.payload.nodeName ≠ "" ∧ signal.payload.shutdownFlow ≠ "" ∧
    ∃ written, times.decode signal.payload.timestamp = some written ∧ signal.begunAt < written

section

variable {times : Codec Time String} {world : FlowWorld} {last now : Time}
  {completions : List (String × Time)} {status : ShutdownFlowStatus}

section

variable (h : RecordsCompletion completions status)

include h

theorem RecordsCompletion.of_eq {other : ShutdownFlowStatus}
    (heq : completedRecord other = completedRecord status) :
    RecordsCompletion completions other := by
  rw [RecordsCompletion, heq]
  exact h

theorem RecordsCompletion.mono {more : List (String × Time)} (hsub : completions ⊆ more) :
    RecordsCompletion more status := by
  intro record hr
  obtain ⟨completedAt, hmem, heq⟩ := h record hr
  exact ⟨completedAt, hsub hmem, heq⟩

theorem RecordsCompletion.persist : RecordsCompletion completions (persist status) ∧
      ∀ record ∈ completedRecord (Controller.persist status), wholeSecond record.2 = record.2 := by
  rw [RecordsCompletion, completedRecord_persist]
  constructor
  · intro record hr
    obtain ⟨original, ho, rfl⟩ := Option.mem_map.mp hr
    rw [wholeSecond_wholeSecond]
    exact h original ho
  · intro record hr
    obtain ⟨original, -, rfl⟩ := Option.mem_map.mp hr
    exact wholeSecond_wholeSecond _

end

section

variable (h : world.InOrder times last)

include h

theorem FlowWorld.InOrder.newest : RecordsCompletion world.completions world.newest := by
  rw [FlowWorld.newest]
  cases hs : world.stored with
  | nil => simp [RecordsCompletion, completedRecord]
  | cons status rest => exact (h.stored status (by simp [hs])).1

theorem FlowWorld.InOrder.later (hlater : last ≤ now) : world.InOrder times now :=
  { h with
    completions := fun completion hmem => (h.completions completion hmem).imp_left (·.trans hlater)
    inFlight := fun execution hmem => (h.inFlight execution hmem).trans hlater }

theorem FlowWorld.InOrder.withFlow {flow : ShutdownFlow}
    (hflow : RecordsCompletion world.completions flow.status) :
    ({ world with flow := flow } : FlowWorld).InOrder times last :=
  { h with flow := hflow }

theorem FlowWorld.InOrder.store (hstatus : RecordsCompletion world.completions status) :
    (world.store status).InOrder times last :=
  { h with stored := forall_mem_cons.mpr ⟨hstatus.persist, h.stored⟩ }

/-- One event keeps the order, when it happens later than those before it. -/
theorem FlowWorld.InOrder.step (hlater : last < now)
    (event : FlowEvent) : (world.step times now event).InOrder times now := by
  have hnow := h.later hlater.le
  cases event with
  | accept pass compiled =>
    exact hnow.store (h.newest.of_eq (completedRecord_acceptFlow pass world.newest compiled))
  | reject pass =>
    exact hnow.store (h.newest.of_eq (completedRecord_rejectFlow pass world.newest))
  | superseded =>
    exact hnow.store (h.newest.of_eq (completedRecord_of_lastExecution_eq rfl))
  | submit =>
    rw [FlowWorld.step]
    split
    · exact hnow
    · exact hnow.withFlow h.newest
  | idle =>
    rw [FlowWorld.step]
    split
    · exact hnow
    · exact hnow.withFlow (h.flow.of_eq
        (bind_deactivateLastExecution world.flow.status.lastExecution))
  | recorded rehearsalRun =>
    rw [FlowWorld.step]
    split
    · exact hnow
    · exact hnow.withFlow (h.flow.of_eq
        (completedRecord_markExecutionAlreadyRecorded world.flow rehearsalRun))
  | begin input evaluation =>
    rw [FlowWorld.step]
    split
    · exact hnow
    · exact
        { flow := by simp [RecordsCompletion, completedRecord, startExecutionProgress,
            setExecutionReadyCondition, withLastExecution]
          stored := h.stored
          completions := by
            refine fun completion hmem => ⟨(hnow.completions completion hmem).1, ?_⟩
            rintro _ ⟨⟩
            exact (h.completions completion hmem).1.trans_lt hlater
          inFlight := by
            rintro _ ⟨⟩
            exact le_rfl
          signals := h.signals }
  | sign action release =>
    rw [FlowWorld.step]
    split
    · exact hnow
    · rename_i execution he
      split
      · rename_i hguard
        obtain ⟨-, hi, ha⟩ := hguard
        simp only [identified, addressed, Bool.and_eq_true, decide_eq_true_eq] at hi ha
        refine { hnow with signals := forall_mem_cons.mpr ⟨?_, h.signals⟩ }
        exact ⟨hi.1.1, ha.1.1.1, hi.1.2, now,
          times.decode_encode now, (h.inFlight execution he).trans_lt hlater⟩
      · exact hnow
  | finish worker observedAt configHash dedupeKey evaluation rehearsalRun result err =>
    rw [FlowWorld.step]
    split
    · exact hnow
    · refine ⟨?_, ?_, ?_, by simp, h.signals⟩
      · intro record hr
        rw [completedRecord_recordExecution] at hr
        cases hr
        exact ⟨now, mem_cons_self, rfl⟩
      · intro status hs
        exact ⟨(h.stored status hs).1.mono (subset_cons_self _ _), (h.stored status hs).2⟩
      · refine forall_mem_cons.mpr ⟨⟨le_rfl, by simp⟩, fun completion hmem => ?_⟩
        exact ⟨(hnow.completions completion hmem).1, by simp⟩
  | publish => exact hnow.store h.flow
  | restart =>
    exact
      { hnow with
        completions := fun completion hmem =>
          ⟨(hnow.completions completion hmem).1, by simp [FlowWorld.step]⟩
        inFlight := by simp [FlowWorld.step] }

theorem FlowWorld.InOrder.run {events : List (Time × FlowEvent)}
    (hlater : ∀ event ∈ events, last < event.1)
    (hclock : events.Pairwise fun first second => first.1 < second.1) :
    ∃ final, (world.run times events).InOrder times final := by
  induction events generalizing world last with
  | nil => exact ⟨last, h⟩
  | cons event rest ih =>
    have hnext := h.step (hlater event mem_cons_self) event.2
    exact ih hnext (pairwise_cons.mp hclock).1 (pairwise_cons.mp hclock).2

end

theorem inOrder_initial (times : Codec Time String) (flow : ShutdownFlow) (now : Time) :
    (FlowWorld.initial flow).InOrder times now := by
  constructor <;> simp [RecordsCompletion, completedRecord, FlowWorld.initial]

theorem inOrder_run_initial (times : Codec Time String) (flow : ShutdownFlow)
    {events : List (Time × FlowEvent)}
    (hclock : events.Pairwise fun first second => first.1 < second.1) :
    ∃ final, ((FlowWorld.initial flow).run times events).InOrder times final := by
  cases events with
  | nil => exact ⟨0, inOrder_initial times flow 0⟩
  | cons event rest =>
    have hb : event.1 - 1 < event.1 := sub_one_lt event.1
    exact (inOrder_initial times flow (event.1 - 1)).run (forall_mem_cons.mpr
      ⟨hb, fun other hmem => hb.trans ((pairwise_cons.mp hclock).1 other hmem)⟩) hclock

theorem signalStillAuthorized_eq {payload : ShutdownSignal} {written : Time}
    (hwritten : times.decode payload.timestamp = some written)
    (hexecutes : payload.executionID ≠ "")
    (hnode : payload.nodeName ≠ "") (hflow : payload.shutdownFlow ≠ "")
    (flow : Option ShutdownFlow) (ttl : Duration) (now : Time) :
    signalStillAuthorized times payload flow ttl now =
      match flow with
      | none => decide (timeSub now written ≤ ttl)
      | some flow =>
        match completedRecord flow.status with
        | none => true
        | some record => decide (record.2 < written) || (record.1 = payload.executionID &&
              flow.status.lastExecution.any (·.triggerActive)) := by
  simp only [signalStillAuthorized, hwritten, hexecutes, hnode, hflow, or_self, if_false]
  cases flow with
  | none => rfl
  | some flow =>
    cases hlast : flow.status.lastExecution with
    | none => simp [completedRecord, hlast]
    | some last => cases hc : last.completedAt <;> simp [completedRecord, hlast, hc]

/-- A signal of the execution in flight stays, whichever status of its flow is read. -/
theorem live_signal_stays {flow : ShutdownFlow} {events : List (Time × FlowEvent)}
    (hclock : events.Pairwise fun first second => first.1 < second.1) {execution : InFlight}
    (hexecution : ((FlowWorld.initial flow).run times events).inFlight = some execution)
    {signal : WrittenSignal}
    (hsignal : signal ∈ ((FlowWorld.initial flow).run times events).signals)
    (hlive : signal.begunAt = execution.begunAt) {reading : Option ShutdownFlow}
    (hreading : ∀ found ∈ reading, found.status = {} ∨
      found.status ∈ ((FlowWorld.initial flow).run times events).stored)
    {ttl : Duration} (hfound : reading = none → ∀ written,
      times.decode signal.payload.timestamp = some written → timeSub now written ≤ ttl) :
    signalStillAuthorized times signal.payload reading ttl now = true := by
  obtain ⟨final, horder⟩ := inOrder_run_initial times flow hclock
  obtain ⟨hid, hnode, hname, written, hw, hafter⟩ := horder.signals signal hsignal
  rw [signalStillAuthorized_eq hw hid hnode hname]
  cases reading with
  | none => exact decide_eq_true (hfound rfl written hw)
  | some found =>
    cases hrecord : completedRecord found.status with
    | none => simp [hrecord]
    | some record =>
      obtain hnever | hs := hreading found rfl
      · simp [hnever, completedRecord] at hrecord
      · -- the recorded end lies before the begin of the execution in flight
        obtain ⟨hr, hwhole⟩ := horder.stored _ hs
        obtain ⟨completedAt, hmem, heq⟩ := hr record hrecord
        have hb : record.2 < written := by
          calc record.2 = wholeSecond completedAt := (hwhole record hrecord).symm.trans heq
            _ ≤ completedAt := wholeSecond_le completedAt
            _ < execution.begunAt := (horder.completions _ hmem).2 execution hexecution
            _ = signal.begunAt := hlive.symm
            _ < written := hafter
        simp [hrecord, hb]

/-- A signal whose episode is over is withdrawn unless it was written in the second in
which the execution on record ended, after the part of it that the record keeps. -/
theorem spent_signal_withdrawn_iff {flow : ShutdownFlow} {events : List (Time × FlowEvent)}
    (hclock : events.Pairwise fun first second => first.1 < second.1) {signal : WrittenSignal}
    (hsignal : signal ∈ ((FlowWorld.initial flow).run times events).signals) {written : Time}
    (hwritten : times.decode signal.payload.timestamp = some written) {found : ShutdownFlow}
    (hstored : found.status ∈ ((FlowWorld.initial flow).run times events).stored)
    {record : ShutdownExecutionStatus} (hlast : found.status.lastExecution = some record)
    (hcompleted : record.completedAt.isSome = true)
    (hover : record.triggerActive = false ∨ record.executionID ≠ signal.payload.executionID)
    (ttl : Duration) (now : Time) :
    ∃ completedAt, (record.executionID, completedAt) ∈
        ((FlowWorld.initial flow).run times events).completions ∧
      (signalStillAuthorized times signal.payload (some found) ttl now = false ↔
        written ≤ wholeSecond completedAt) := by
  obtain ⟨final, ho⟩ := inOrder_run_initial times flow hclock
  obtain ⟨hid, hnode, hname, -⟩ := ho.signals signal hsignal
  obtain ⟨completedAt, hat⟩ := Option.isSome_iff_exists.mp hcompleted
  have hr : completedRecord found.status = some (record.executionID, completedAt) := by
    simp [completedRecord, hlast, hat]
  obtain ⟨hrecords, hw⟩ := ho.stored _ hstored
  obtain ⟨ended, hmem, heq⟩ := hrecords _ hr
  refine ⟨ended, hmem, ?_⟩
  rw [← heq, hw _ hr, signalStillAuthorized_eq hwritten hid hnode hname]
  simp only [hr, hlast, Option.any_some, Bool.or_eq_false_iff, decide_eq_false_iff_not, not_lt]
  rw [and_iff_left]
  obtain hi | hother := hover
  · simp [hi]
  · simp [hother]

end

def outageEvaluation : ShutdownTriggerEvaluationStatus where
  observedAt := none
  mode := .enforce
  eligible := true
  reason := "TriggerEligible"
  matchedTriggerCount := 1
  selectedUPSDevices := ["ups-a"]
  planConfigHash := "plan"
  decisions := []
  diagnostics := []

def signAction : Action where
  executionID := "run-1"
  shutdownFlow := "rack"
  triggerReason := "TriggerEligible"
  planConfigHash := "plan"
  selectedUPSDevices := ["ups-a"]
  waveIndex := 0
  group := {}
  dryRun := false
  powerObservation := {}
  tierOverrunning := false

def signRelease : NodeRelease :=
  { nodeName := "node-a", signalSecretNamespace := "power", signalSecretName := "signals"
    signalSecretKey := "node-a.json" }

/-- An execution that signs at a given time and ends 0.9 s after the tenth second; then
the outage is over. -/
def outageRun (written : Time) : List (Time × FlowEvent) :=
  [(9000000000, .begin { executionID := "run-1" } outageEvaluation),
    (written, .sign signAction signRelease),
    (10900000000, .finish idleWorker 9000000000 "plan" "key" outageEvaluation false
      { executionID := "run-1", phase := some .completed } none),
    (11000000000, .publish), (12000000000, .submit), (13000000000, .idle),
    (14000000000, .publish)]

def outageWorld (written : Time) : FlowWorld :=
  (FlowWorld.initial {}).run signedDecimals (outageRun written)

/-- A signal of an earlier second is withdrawn when the outage is over. -/
theorem earlier_second_is_withdrawn :
    let world := outageWorld 9500000000
    signalStillAuthorized signedDecimals
      (shutdownSignal signedDecimals signAction signRelease 9500000000)
      (some { world.flow with status := world.newest }) 0 15000000000 = false := by
  intro world
  have hsign : (⟨9000000000, shutdownSignal signedDecimals signAction signRelease 9500000000⟩ :
      WrittenSignal) ∈ world.signals := mem_singleton.mpr rfl
  have hs : world.newest ∈ world.stored := mem_cons_self
  obtain ⟨completedAt, hmem, hiff⟩ := @spent_signal_withdrawn_iff signedDecimals {}
    (outageRun 9500000000) (by decide) _ hsign _ (signedDecimals.decode_encode 9500000000)
    { world.flow with status := world.newest } hs _ rfl rfl (.inl rfl) 0 15000000000
  obtain rfl : completedAt = 10900000000 := (Prod.mk.inj (mem_singleton.mp hmem)).2
  exact hiff.mpr (by decide)

/-- A signal of the last second of its execution stays when the outage is over. -/
theorem last_second_stays :
    let world := outageWorld 10700000000
    world.newest.lastExecution.map (fun last =>
        (last.executionID, last.completedAt, last.triggerActive)) =
          some ("run-1", some 10000000000, false) ∧
      world.completions = [("run-1", 10900000000)] ∧
      (world.signals.map fun signal => (signal.payload.executionID, signal.payload.timestamp,
        signalStillAuthorized signedDecimals signal.payload
          (some { world.flow with status := world.newest }) 0 15000000000)) =
            [("run-1", "+10700000000", true)] := by
  decide

def secondOutageRun : List (Time × FlowEvent) := outageRun 9500000000 ++
    [(20000000000, .begin { executionID := "run-2" } outageEvaluation),
      (20500000000, .sign { signAction with executionID := "run-2" } signRelease)]

def secondOutageSignal : WrittenSignal :=
  ⟨20000000000, shutdownSignal signedDecimals { signAction with executionID := "run-2" } signRelease
    20500000000⟩

/-- Its signal stays while the status is still about the execution before. -/
theorem lagging_status_keeps_signal :
    let world := (FlowWorld.initial {}).run signedDecimals secondOutageRun
    signalStillAuthorized signedDecimals secondOutageSignal.payload
      (some { world.flow with status := world.newest }) 1000000000 22000000000 = true := by
  intro world
  have hsign : secondOutageSignal ∈ world.signals := mem_cons_self
  refine @live_signal_stays signedDecimals 22000000000 {} secondOutageRun (by decide) _ rfl _
    hsign rfl _ ?_ _ (by simp)
  intro found hf
  cases hf
  exact .inr mem_cons_self

/-- It goes when the flow is not found and the signal is older than its time to live. -/
theorem unknown_flow_withdraws_old_signal :
    let world := (FlowWorld.initial {}).run signedDecimals secondOutageRun
    secondOutageSignal ∈ world.signals ∧
      world.inFlight.map (·.begunAt) = some secondOutageSignal.begunAt ∧
      signalStillAuthorized signedDecimals secondOutageSignal.payload none 1000000000
        22000000000 = false := by
  decide

end NutOperator.Controller
