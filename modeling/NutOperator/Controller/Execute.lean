import NutOperator.Controller.Groups
import NutOperator.Data.Latch

/-! When a flow is executed. A started execution leaves its deduplication key in the
status, and the key is what keeps it from being started again. -/
namespace NutOperator.Controller

open Data
open Execution (Input Phase Result Time)

structure EligibleTriggerEpisode where
  triggerID : String
  holdStartedAt : Option Time
deriving Repr, DecidableEq

/-- What a deduplication key is made from. Times stand for their texts. -/
inductive KeyPayload where
  | episode (flow : String) (generation : Int) (mode planConfigHash : String)
      (eligibleTriggers : List EligibleTriggerEpisode) (selectedUPSDevices : List String)
  | rehearsal (flow : String) (generation : Int) (mode planConfigHash rehearsalRequest : String)
      (selectedUPSDevices : List String)
deriving Repr, DecidableEq

/-- Keys and execution identifiers. A key is the hexadecimal SHA-256 digest of the
encoded payload, and an identifier is derived from a key. -/
structure Identities where
  digest : KeyPayload → String
  identity : String → String
  digest_ne_empty : ∀ payload, digest payload ≠ ""

def triggerNotEligibleReason : String := "TriggerNotEligible"

def triggerNotEligibleMessage : String :=
  "shutdown flow execution has not started because no trigger is eligible"

def rehearsalRequestAnnotation : String := "power.zalud.io/rehearsal-request"

def rehearsalReasonAnnotation : String := "power.zalud.io/rehearsal-reason"

structure RehearsalRequest where
  requested : Bool := false
  (token reason : String := "")
deriving Repr, DecidableEq

def shutdownFlowRehearsalRequest (flow : ShutdownFlow) : RehearsalRequest :=
  let token := trimSpace (flow.annotation rehearsalRequestAnnotation)
  if token = "" then {}
  else
    { requested := true, token := token
      reason := trimSpace (flow.annotation rehearsalReasonAnnotation) }

def rehearsalExecutionEvaluation (evaluation : ShutdownTriggerEvaluationStatus)
    (selected : List String) (configHash : String) : ShutdownTriggerEvaluationStatus :=
  { evaluation with
    eligible := true, reason := "RehearsalRequested", selectedUPSDevices := selected
    planConfigHash := configHash }

def allBundleUPSDevices (bundle : StructuralBundle) : List String :=
  ((bundle.capabilityMatches.map (·.deviceID)) ++ bundle.domains.flatMap (·.upsDevices)).filter
    (· ≠ "")

/-- The devices of a domain; of two domains with one name the later one counts. -/
def bundleUPSDevicesByDomain (bundle : StructuralBundle) (name : String) : List String :=
  if name = "" then []
  else
    (((bundle.domains.filter fun domain => domain.name = name).getLast?).map (·.upsDevices)).getD []

def rehearsalSelectedUPSDevices (flow : ShutdownFlow) (bundle : StructuralBundle) : List String :=
  sortedUnique (flow.spec.triggers.flatMap fun trigger =>
    if trigger.upsDeviceRefs ≠ [] then trigger.upsDeviceRefs.filter (· ≠ "")
    else if trigger.powerDomains ≠ [] then
      trigger.powerDomains.flatMap (bundleUPSDevicesByDomain bundle)
    else allBundleUPSDevices bundle)

def triggerEpisodeBoundary (decision : ShutdownTriggerDecisionStatus)
    (evaluation : ShutdownTriggerEvaluationStatus) : Option Time :=
  decision.holdStartedAt.or evaluation.observedAt

def episodeLess (left right : EligibleTriggerEpisode) : Bool :=
  if left.triggerID ≠ right.triggerID then decide (left.triggerID < right.triggerID)
  else decide (left.holdStartedAt.getD 0 < right.holdStartedAt.getD 0)

def eligibleTriggerEpisodes (evaluation : ShutdownTriggerEvaluationStatus) :
    List EligibleTriggerEpisode :=
  sortStable episodeLess ((evaluation.decisions.filter (·.eligible)).map fun decision =>
    ⟨decision.triggerID, triggerEpisodeBoundary decision evaluation⟩)

def shutdownExecutionDeduplicationKey (identities : Identities) (flow : ShutdownFlow)
    (evaluation : ShutdownTriggerEvaluationStatus) (configHash : String) : String :=
  identities.digest (.episode flow.name flow.generation
    (effectiveShutdownFlowMode flow.spec.mode).text configHash
    (eligibleTriggerEpisodes evaluation) (sortStrings evaluation.selectedUPSDevices))

def shutdownRehearsalDeduplicationKey (identities : Identities) (flow : ShutdownFlow)
    (request : RehearsalRequest) (configHash : String) (selectedUPSDevices : List String) :
    String :=
  identities.digest (.rehearsal flow.name flow.generation
    (effectiveShutdownFlowMode flow.spec.mode).text configHash request.token
    (sortStrings selectedUPSDevices))

def executionAlreadyRecorded (status : Option ShutdownExecutionStatus) (dedupeKey : String) :
    Bool :=
  match status with
  | none => false
  | some status =>
    dedupeKey ≠ "" && status.triggerActive && status.deduplicationKey = dedupeKey

/-- The episode is over, and so is any reason that only its life explained. -/
def deactivateLastExecution (status : Option ShutdownExecutionStatus) :
    Option ShutdownExecutionStatus :=
  status.map fun status =>
    if status.reason = "AlreadyExecuted" ∨ status.reason = "RehearsalAlreadyExecuted" then
      { status with
        triggerActive := false, reason := triggerNotEligibleReason
        message := triggerNotEligibleMessage }
    else { status with triggerActive := false }

def applyLastExecutionPhase (flow : ShutdownFlow) : ShutdownFlow :=
  match flow.status.lastExecution with
  | none => flow
  | some status =>
    match status.phase with
    | .completed => { flow with status.phase := some .completed }
    | .aborted | .failed => { flow with status.phase := some .aborted }
    | .running => flow

def withLastExecution (flow : ShutdownFlow) (status : Option ShutdownExecutionStatus) :
    ShutdownFlow :=
  { flow with status.lastExecution := status }

def markExecutionAlreadyRecorded (flow : ShutdownFlow) (rehearsalRun : Bool) : ShutdownFlow :=
  let reason := if rehearsalRun then "RehearsalAlreadyExecuted" else "AlreadyExecuted"
  let message :=
    if rehearsalRun then "rehearsal request already has execution evidence"
    else "eligible trigger episode already has execution evidence"
  let marked := withLastExecution flow (flow.status.lastExecution.map fun status =>
    { status with triggerActive := true, reason := reason, message := message })
  setExecutionReadyCondition (applyLastExecutionPhase marked) true reason message

def shutdownExecutionPhase (phase : Option Phase) (error : Option String) : Phase :=
  match error, phase with
  | some _, some .aborted => .aborted
  | some _, _ => .failed
  | none, some .completed => .completed
  | none, some .aborted => .aborted
  | none, some .running => .running
  | none, _ => .failed

structure Worker where
  reads : ClusterReads
  /-- The refusal when another flow holds a resource of the execution. -/
  claim : Input → Option String
  /-- The result of the executor and its error; nothing when the manager stops
  while the execution runs. -/
  execute : Input → Option (Result × Option String)
  completedAt : Time

def startExecutionProgress (flow : ShutdownFlow) (input : Input)
    (evaluation : ShutdownTriggerEvaluationStatus) : ShutdownFlow :=
  let running := withLastExecution flow (some
    { executionID := input.executionID, deduplicationKey := input.deduplicationKey
      triggerActive := true, phase := .running, mode := effectiveShutdownFlowMode flow.spec.mode
      dryRun := input.dryRun, rehearsal := input.rehearsal, planConfigHash := input.planConfigHash
      selectedUPSDevices := input.selectedUPSDevices, startedAt := some input.observedAt
      waveCount := input.waves.length, reason := evaluation.reason })
  setExecutionReadyCondition { running with status.phase := some .running } true
    "ExecutionRunning" "shutdown flow execution is running"

def reportExecution (flow : ShutdownFlow) (result : Result) (error : Option String)
    (rehearsalRun : Bool) : ShutdownFlow × String :=
  match error with
  | some message => (setExecutionReadyCondition flow false "ExecutionFailed" message, message)
  | none =>
    if result.degraded then
      (setExecutionReadyCondition
        (setDegradedCondition flow true result.degradedReason result.degradedMessage) true
        "ExecutionRecordedWithDegradation"
        "shutdown flow execution evidence recorded with advisory hook degradation",
        result.degradedMessage)
    else if rehearsalRun then
      (setExecutionReadyCondition flow true "RehearsalRecorded"
        "shutdown flow rehearsal evidence recorded",
        "shutdown flow rehearsal evidence recorded")
    else
      (setExecutionReadyCondition flow true "ExecutionRecorded"
        "shutdown flow execution evidence recorded",
        "shutdown flow execution evidence recorded")

def reportRecordError (flow : ShutdownFlow) (message : String) :
    Option String → ShutdownFlow × String
  | none => (flow, message)
  | some recordError =>
    let report :=
      "shutdown flow execution ran but its audit evidence was not recorded: " ++ recordError
    (setDegradedCondition flow true "ExecutionAuditRecordFailed" report,
      if message = "" then report else message)

def recordExecution (worker : Worker) (flow : ShutdownFlow) (observedAt : Time)
    (configHash dedupeKey : String) (evaluation : ShutdownTriggerEvaluationStatus)
    (rehearsalRun : Bool) (result : Result) (error : Option String) : ShutdownFlow :=
  let report := reportExecution flow result error rehearsalRun
  let recorded := reportRecordError report.1 report.2 result.recordError
  applyLastExecutionPhase (withLastExecution recorded.1 (some
    { executionID := result.executionID, deduplicationKey := dedupeKey, triggerActive := true
      phase := shutdownExecutionPhase result.phase error
      mode := effectiveShutdownFlowMode flow.spec.mode, dryRun := result.dryRun
      rehearsal := rehearsalRun, planConfigHash := configHash
      selectedUPSDevices := evaluation.selectedUPSDevices, startedAt := some observedAt
      completedAt := some worker.completedAt, waveCount := result.waves, groupCount := result.groups
      actionAttemptCount := result.actionAttempts, nodeReleaseCount := result.nodeReleases
      reason := evaluation.reason, message := recorded.2 }))

inductive Occasion where
  | idle
  /-- A rehearsal was asked for and cannot be held. -/
  | refused (reason message : String)
  | episode
  | rehearsal (evaluation : ShutdownTriggerEvaluationStatus)

def occasion (flow : ShutdownFlow) (evaluation : ShutdownTriggerEvaluationStatus)
    (configHash : String) (bundle : StructuralBundle) : Occasion :=
  if evaluation.eligible then .episode
  else if (shutdownFlowRehearsalRequest flow).requested then
    if effectiveShutdownFlowMode flow.spec.mode ≠ .enforce then
      .refused "RehearsalRequiresEnforce" ("rehearsal execution requires spec.mode Enforce " ++
        "because dry-run does not produce honest action durations")
    else
      let selected := rehearsalSelectedUPSDevices flow bundle
      if selected = [] then
        .refused "RehearsalSelectionEmpty" ("rehearsal execution could not select any UPS " ++
          "devices from the flow trigger scopes")
      else .rehearsal (rehearsalExecutionEvaluation evaluation selected configHash)
  else .idle

/-- The input of the execution that a key stands for, with the resources it needs
claimed, or the reason and the message of the refusal. -/
def prepareExecution (identities : Identities) (worker : Worker) (flow : ShutdownFlow)
    (observedAt : Time) (inputHash configHash dedupeKey : String)
    (evaluation : ShutdownTriggerEvaluationStatus) (bundle : StructuralBundle)
    (rehearsalRun : Bool) : Except (String × String) Input :=
  match shutdownExecutionInput identities.identity worker.reads flow observedAt inputHash
      configHash evaluation dedupeKey bundle rehearsalRun with
  | .error message => .error ("ExecutionInputInvalid", message)
  | .ok read =>
    let rehearsal := shutdownFlowRehearsalRequest flow
    let input :=
      if rehearsalRun then
        { read with rehearsalRequest := rehearsal.token, rehearsalReason := rehearsal.reason }
      else read
    match worker.claim input with
    | some conflict => .error ("ExecutionConflict", conflict)
    | none => .ok input

def runPrepared (worker : Worker) (flow : ShutdownFlow) (observedAt : Time)
    (configHash dedupeKey : String) (evaluation : ShutdownTriggerEvaluationStatus)
    (rehearsalRun : Bool) : Except (String × String) Input → ShutdownFlow × Option Input
  | .error refusal => (setExecutionReadyCondition flow false refusal.1 refusal.2, none)
  | .ok input =>
    let running := startExecutionProgress flow input evaluation
    match worker.execute input with
    | none => (running, some input)
    | some outcome =>
      (recordExecution worker running observedAt configHash dedupeKey evaluation rehearsalRun
        outcome.1 outcome.2, some input)

/-- Start the execution that a key stands for, unless it is on record. The input
handed to the executor is what was started. -/
def startExecution (identities : Identities) (worker : Worker) (flow : ShutdownFlow)
    (observedAt : Time) (inputHash configHash dedupeKey : String)
    (evaluation : ShutdownTriggerEvaluationStatus) (bundle : StructuralBundle)
    (rehearsalRun : Bool) : ShutdownFlow × Option Input :=
  if executionAlreadyRecorded flow.status.lastExecution dedupeKey then
    (markExecutionAlreadyRecorded flow rehearsalRun, none)
  else
    runPrepared worker flow observedAt configHash dedupeKey evaluation rehearsalRun
      (prepareExecution identities worker flow observedAt inputHash configHash dedupeKey evaluation
        bundle rehearsalRun)

def executeShutdownFlow (identities : Identities) (worker : Worker) (flow : ShutdownFlow)
    (observedAt : Time) (inputHash configHash : String)
    (evaluation : ShutdownTriggerEvaluationStatus) (bundle : StructuralBundle) :
    ShutdownFlow × Option Input :=
  match occasion flow evaluation configHash bundle with
  | .idle =>
    (setExecutionReadyCondition
      (withLastExecution flow (deactivateLastExecution flow.status.lastExecution)) false
      triggerNotEligibleReason triggerNotEligibleMessage, none)
  | .refused reason message => (setExecutionReadyCondition flow false reason message, none)
  | .episode =>
    startExecution identities worker flow observedAt inputHash configHash
      (shutdownExecutionDeduplicationKey identities flow evaluation configHash) evaluation bundle
      false
  | .rehearsal rehearsal =>
    startExecution identities worker flow observedAt inputHash configHash
      (shutdownRehearsalDeduplicationKey identities flow (shutdownFlowRehearsalRequest flow)
        configHash rehearsal.selectedUPSDevices) rehearsal bundle true

def activeKey (status : Option ShutdownExecutionStatus) : Option String :=
  status.bind fun status => if status.triggerActive then some status.deduplicationKey else none

theorem executionAlreadyRecorded_iff {status : Option ShutdownExecutionStatus} {key : String}
    (hkey : key ≠ "") : executionAlreadyRecorded status key = true ↔ activeKey status =
    some key := by
  cases status with
  | none => simp [executionAlreadyRecorded, activeKey]
  | some status => simp [executionAlreadyRecorded, activeKey, hkey]

@[simp] theorem activeKey_deactivateLastExecution (status : Option ShutdownExecutionStatus) :
    activeKey (deactivateLastExecution status) = none := by
  cases status with
  | none => rfl
  | some status =>
    simp only [deactivateLastExecution, Option.map_some, activeKey, Option.bind_some]
    split <;> simp

/-- What a worker may write: the last execution, the phase and the conditions. -/
structure KeepsPlan (before after : ShutdownFlowStatus) : Prop where
  configHash : after.configHash = before.configHash
  triggerEvaluation : after.triggerEvaluation = before.triggerEvaluation
  triggerHoldStates : after.triggerHoldStates = before.triggerHoldStates

section

variable {identities : Identities} {worker : Worker} {flow : ShutdownFlow} {observedAt : Time}
  {inputHash configHash dedupeKey : String} {evaluation : ShutdownTriggerEvaluationStatus}
  {bundle : StructuralBundle} {rehearsalRun : Bool} {input : Input}

@[simp] theorem lastExecution_applyLastExecutionPhase (flow : ShutdownFlow) :
    (applyLastExecutionPhase flow).status.lastExecution = flow.status.lastExecution := by
  unfold applyLastExecutionPhase
  split
  · rfl
  · split <;> rfl

theorem KeepsPlan.trans {first second third : ShutdownFlowStatus} (h : KeepsPlan first second)
    (hrest : KeepsPlan second third) : KeepsPlan first third :=
  ⟨hrest.configHash.trans h.configHash, hrest.triggerEvaluation.trans h.triggerEvaluation,
    hrest.triggerHoldStates.trans h.triggerHoldStates⟩

theorem keepsPlan_withLastExecution (flow : ShutdownFlow)
    (status : Option ShutdownExecutionStatus) :
    KeepsPlan flow.status (withLastExecution flow status).status :=
  ⟨rfl, rfl, rfl⟩

theorem keepsPlan_setExecutionReadyCondition (flow : ShutdownFlow) (ready : Bool)
    (reason msg : String) :
    KeepsPlan flow.status (setExecutionReadyCondition flow ready reason msg).status :=
  ⟨rfl, rfl, rfl⟩

theorem keepsPlan_applyLastExecutionPhase (flow : ShutdownFlow) :
    KeepsPlan flow.status (applyLastExecutionPhase flow).status := by
  unfold applyLastExecutionPhase
  split
  · exact ⟨rfl, rfl, rfl⟩
  · split <;> exact ⟨rfl, rfl, rfl⟩

theorem deduplicationKey_of_prepareExecution
    (h : prepareExecution identities worker flow observedAt inputHash configHash dedupeKey
      evaluation bundle rehearsalRun = .ok input) : input.deduplicationKey = dedupeKey := by
  unfold prepareExecution at h
  split at h
  · cases h
  · rename_i read hread
    obtain ⟨groups, -, hi⟩ := exists_ok_of_bind hread
    have hkey : read.deduplicationKey = dedupeKey := by
      rw [← Except.ok.inj hi]
    simp only at h
    split at h
    · cases h
    · rw [← Except.ok.inj h, ← hkey]
      split <;> rfl

def ableToStart (identities : Identities) (worker : Worker) (flow : ShutdownFlow)
    (observedAt : Time) (inputHash configHash dedupeKey : String)
    (evaluation : ShutdownTriggerEvaluationStatus) (bundle : StructuralBundle)
    (rehearsalRun : Bool) : Bool :=
  (prepareExecution identities worker flow observedAt inputHash configHash dedupeKey evaluation
    bundle rehearsalRun).isOk

theorem keepsPlan_reportExecution (result : Result) (err : Option String) :
    KeepsPlan flow.status (reportExecution flow result err rehearsalRun).1.status := by
  unfold reportExecution
  split
  · exact ⟨rfl, rfl, rfl⟩
  · split
    · exact ⟨rfl, rfl, rfl⟩
    · split <;> exact ⟨rfl, rfl, rfl⟩

theorem keepsPlan_reportRecordError (msg : String) (recordError : Option String) :
    KeepsPlan flow.status (reportRecordError flow msg recordError).1.status := by
  cases recordError <;> exact ⟨rfl, rfl, rfl⟩

theorem keepsPlan_recordExecution (result : Result) (err : Option String) :
    KeepsPlan flow.status (recordExecution worker flow observedAt configHash dedupeKey evaluation
      rehearsalRun result err).status :=
  (keepsPlan_reportExecution result err).trans <| (keepsPlan_reportRecordError _ _).trans <|
      (keepsPlan_withLastExecution _ _).trans (keepsPlan_applyLastExecutionPhase _)

theorem activeKey_recordExecution (result : Result) (err : Option String) :
    activeKey (recordExecution worker flow observedAt configHash dedupeKey evaluation rehearsalRun
      result err).status.lastExecution = some dedupeKey := by
  rw [recordExecution, lastExecution_applyLastExecutionPhase]
  rfl

theorem keepsPlan_markExecutionAlreadyRecorded :
    KeepsPlan flow.status (markExecutionAlreadyRecorded flow rehearsalRun).status :=
  (keepsPlan_withLastExecution _ _).trans <|
    (keepsPlan_applyLastExecutionPhase _).trans (keepsPlan_setExecutionReadyCondition _ _ _ _)

theorem activeKey_markExecutionAlreadyRecorded
    (h : activeKey flow.status.lastExecution = some dedupeKey) :
    activeKey (markExecutionAlreadyRecorded flow rehearsalRun).status.lastExecution =
      some dedupeKey := by
  have hlast : (markExecutionAlreadyRecorded flow rehearsalRun).status.lastExecution =
      (withLastExecution flow _).status.lastExecution :=
    lastExecution_applyLastExecutionPhase _
  rw [hlast]
  obtain ⟨status, hs, ha⟩ := Option.bind_eq_some_iff.mp h
  split at ha
  · simpa [withLastExecution, hs, activeKey] using ha
  · cases ha

theorem keepsPlan_startExecutionProgress :
    KeepsPlan flow.status (startExecutionProgress flow input evaluation).status :=
  ⟨rfl, rfl, rfl⟩

theorem keepsPlan_startExecution :
    KeepsPlan flow.status (startExecution identities worker flow observedAt inputHash configHash
      dedupeKey evaluation bundle rehearsalRun).1.status := by
  unfold startExecution
  split
  · exact keepsPlan_markExecutionAlreadyRecorded
  · unfold runPrepared
    split
    · exact ⟨rfl, rfl, rfl⟩
    · simp only
      split
      · exact ⟨rfl, rfl, rfl⟩
      · exact keepsPlan_startExecutionProgress.trans (keepsPlan_recordExecution _ _)

theorem runPrepared_started {prepared : Except (String × String) Input}
    (hkey : ∀ input, prepared = .ok input → input.deduplicationKey = dedupeKey) :
    activeKey (runPrepared worker flow observedAt configHash dedupeKey evaluation rehearsalRun
        prepared).1.status.lastExecution =
        (if prepared.isOk then some dedupeKey else activeKey flow.status.lastExecution) ∧
      (runPrepared worker flow observedAt configHash dedupeKey evaluation rehearsalRun
        prepared).2.map (·.deduplicationKey) =
        if prepared.isOk then some dedupeKey else none := by
  cases prepared with
  | error refusal => exact ⟨rfl, rfl⟩
  | ok input =>
    have hi := hkey input rfl
    simp only [runPrepared]
    cases worker.execute input with
    | none => exact ⟨congrArg some hi, congrArg some hi⟩
    | some out => exact ⟨activeKey_recordExecution _ _, congrArg some hi⟩

theorem startExecution_turns (hkey : dedupeKey ≠ "") :
    let ran := startExecution identities worker flow observedAt inputHash configHash dedupeKey
      evaluation bundle rehearsalRun
    let turn := Turn.want dedupeKey (ableToStart identities worker flow observedAt inputHash
      configHash dedupeKey evaluation bundle rehearsalRun)
    activeKey ran.1.status.lastExecution = turn.next (activeKey flow.status.lastExecution) ∧
      ran.2.map (·.deduplicationKey) = turn.start (activeKey flow.status.lastExecution) := by
  simp only [startExecution, Turn.next, Turn.start]
  by_cases hr : executionAlreadyRecorded flow.status.lastExecution dedupeKey = true
  · have ha := (executionAlreadyRecorded_iff hkey).mp hr
    rw [if_pos hr, activeKey_markExecutionAlreadyRecorded ha, ha, ite_self]
    exact ⟨rfl, by simp⟩
  · have hi := mt (executionAlreadyRecorded_iff hkey).mpr hr
    rw [if_neg hr]
    refine ⟨(runPrepared_started fun _ => deduplicationKey_of_prepareExecution).1,
      (runPrepared_started fun _ => deduplicationKey_of_prepareExecution).2.trans ?_⟩
    simp [ableToStart, hi]

theorem keepsPlan_executeShutdownFlow :
    KeepsPlan flow.status (executeShutdownFlow identities worker flow observedAt inputHash
      configHash evaluation bundle).1.status := by
  unfold executeShutdownFlow
  split
  · exact ⟨rfl, rfl, rfl⟩
  · exact ⟨rfl, rfl, rfl⟩
  all_goals exact keepsPlan_startExecution

def executionTurn (identities : Identities) (worker : Worker) (flow : ShutdownFlow)
    (observedAt : Time) (inputHash configHash : String)
    (evaluation : ShutdownTriggerEvaluationStatus) (bundle : StructuralBundle) : Turn String :=
  match occasion flow evaluation configHash bundle with
  | .idle => .clear
  | .refused _ _ => .skip
  | .episode =>
    let key := shutdownExecutionDeduplicationKey identities flow evaluation configHash
    .want key (ableToStart identities worker flow observedAt inputHash configHash key evaluation
      bundle false)
  | .rehearsal rehearsal =>
    let key := shutdownRehearsalDeduplicationKey identities flow
      (shutdownFlowRehearsalRequest flow) configHash rehearsal.selectedUPSDevices
    .want key (ableToStart identities worker flow observedAt inputHash configHash key rehearsal
      bundle true)

theorem executeShutdownFlow_turns :
    let ran := executeShutdownFlow identities worker flow observedAt inputHash configHash
      evaluation bundle
    let turn := executionTurn identities worker flow observedAt inputHash configHash evaluation
      bundle
    activeKey ran.1.status.lastExecution = turn.next (activeKey flow.status.lastExecution) ∧
      ran.2.map (·.deduplicationKey) = turn.start (activeKey flow.status.lastExecution) := by
  simp only [executeShutdownFlow, executionTurn]
  cases occasion flow evaluation configHash bundle with
  | idle => exact ⟨activeKey_deactivateLastExecution _, rfl⟩
  | refused reason msg => exact ⟨rfl, rfl⟩
  | _ => exact startExecution_turns (identities.digest_ne_empty _)

end

end NutOperator.Controller
