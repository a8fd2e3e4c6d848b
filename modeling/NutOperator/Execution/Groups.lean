import NutOperator.Execution.Releases

/-! Running one group. An attempt passes through the stages of the source in
order: evidence for a handoff, the pause of a `Wait`, the context, the action
runner and the group's own timeout. -/
namespace NutOperator.Execution

open Data Adaptive Effects
open Planner (quote)

structure GroupRunConfig where
  (recordContext actionContext : Context)
  input : Input
  executionID : String
  dryRun : Bool
  waveIndex : Int
  state : WaveAdaptiveState
  tierOverrunning : Bool

def GroupRunConfig.effectiveTimeout (config : GroupRunConfig) (group : Group) : Duration :=
  scaleDuration group.timeout config.state.budget

def GroupRunConfig.effectiveWait (config : GroupRunConfig) (group : Group) : Duration :=
  scaleDuration group.waitDuration config.state.budget

def GroupRunConfig.groupContext (config : GroupRunConfig) (group : Group) : Context :=
  let timeout := config.effectiveTimeout group
  if 0 < timeout then .group config.actionContext group.name timeout else config.actionContext

structure GroupAttempt where
  group : Group
  outcome : ActionOutcome
  actionErr : Option String

def GroupAttempt.block (attempt : GroupAttempt) (error : String) : GroupAttempt :=
  { attempt with
    outcome := { outcome := outcomeBlocked, error := error }, actionErr := some error }

def simulatedOutcome : ActionOutcome :=
  { outcome := outcomeSimulated, details := [("dryRun", .flag true)] }

def Executor.confirmReleases (executor : Executor) (context : Context) (dryRun : Bool)
    (group : Group) : Run GroupAttempt :=
  if group.action = actionAgentShutdown then do
    let (refreshed, refreshErr) ← executor.refreshReleaseEvidence context group
    let attempt : GroupAttempt :=
      { group := refreshed, outcome := simulatedOutcome, actionErr := none }
    match refreshErr with
    | some error => pure (attempt.block error)
    | none =>
      match agentShutdownReadinessError dryRun refreshed with
      | some error =>
        let blocked := attempt.block error
        pure { blocked with
          outcome := { blocked.outcome with
            details :=
              [("blockedNodeReleases", blockedNodeReleaseDetails refreshed.nodeReleases)] } }
      | none => pure attempt
  else pure { group := group, outcome := simulatedOutcome, actionErr := none }

def waitOutcome (dryRun : Bool) : String :=
  if dryRun then outcomeSimulated else outcomeSucceeded

/-- A rehearsal waits as well, so that it takes as long as the real run. -/
def holdWait (context : Context) (dryRun : Bool) (effectiveWait : Duration)
    (attempt : GroupAttempt) : Run GroupAttempt :=
  if attempt.group.action = actionWait ∧ attempt.actionErr = none ∧ 0 < effectiveWait then do
    match ← ask (.sleep context effectiveWait) with
    | some error =>
      pure (attempt.block s!"wait group {quote attempt.group.name} interrupted: {error}")
    | none =>
      pure { attempt with
        outcome := { outcome := waitOutcome dryRun, details := [("action", .text actionWait)] } }
  else pure attempt

def checkContext (context : Context) (attempt : GroupAttempt) : Run GroupAttempt :=
  if attempt.actionErr = none then do
    match ← contextErr context with
    | some error => pure (attempt.block error.text)
    | none => pure attempt
  else pure attempt

/-- Fills in what the runner left out of its outcome. -/
def settleOutcome (outcome : ActionOutcome) : Option String → ActionOutcome
  | none => { outcome with outcome := orReason outcome.outcome outcomeSucceeded }
  | some error =>
    { outcome with
      outcome := orReason outcome.outcome Phase.failed.text
      error := orReason outcome.error error }

def GroupRunConfig.actionFor (config : GroupRunConfig) (group : Group) : Action :=
  { executionID := config.executionID, shutdownFlow := config.input.shutdownFlow
    triggerReason := config.input.reason, planConfigHash := config.input.planConfigHash
    selectedUPSDevices := config.input.selectedUPSDevices, waveIndex := config.waveIndex
    group := group, dryRun := config.dryRun, powerObservation := config.state.observation
    tierOverrunning := config.tierOverrunning }

/-- Hooks run in a rehearsal too; every other action only with effect. -/
def Executor.dispatchAction (executor : Executor) (config : GroupRunConfig) (context : Context)
    (attempt : GroupAttempt) : Run GroupAttempt :=
  if (config.dryRun = false ∨ attempt.group.action = actionRunHook) ∧ attempt.actionErr = none then
    if executor.runner then do
      let (outcome, actionErr) ← ask (.runAction context (config.actionFor attempt.group))
      pure { attempt with outcome := settleOutcome outcome actionErr, actionErr := actionErr }
    else pure (attempt.block "enforce execution requires an action runner")
  else pure attempt

/-- An expired group has failed even when its action reported success. -/
def checkTimeout (actionContext groupContext : Context) (effectiveTimeout : Duration)
    (attempt : GroupAttempt) : Run GroupAttempt :=
  if 0 < effectiveTimeout then do
    match ← contextErr groupContext with
    | none => pure attempt
    | some _ =>
      match ← contextErr actionContext with
      | some _ => pure attempt
      | none =>
        let message := attempt.actionErr.getD
          (s!"group {quote attempt.group.name} exceeded its " ++
            s!"{formatDuration effectiveTimeout} timeout")
        pure { attempt with
          outcome := { attempt.outcome with outcome := outcomeTimedOut, error := message }
          actionErr := some message }
  else pure attempt

def Executor.attemptGroup (executor : Executor) (config : GroupRunConfig) (group : Group) :
    Run GroupAttempt := do
  let context := config.groupContext group
  let confirmed ← executor.confirmReleases context config.dryRun group
  let held ← holdWait context config.dryRun (config.effectiveWait group) confirmed
  let checked ← checkContext context held
  let dispatched ← executor.dispatchAction config context checked
  checkTimeout config.actionContext context (config.effectiveTimeout group) dispatched

def auditTargets (targets : List Target) : List (List (String × String)) :=
  targets.map fun target =>
    [("kind", target.kind), ("name", target.name)] ++
      (if target.apiVersion = "" then [] else [("apiVersion", target.apiVersion)]) ++
      (if target.namespace = "" then [] else [("namespace", target.namespace)])

def GroupRunConfig.groupRecord (config : GroupRunConfig) (group : Group) (attempt : GroupAttempt)
    (startedAt completedAt : Time) (groupRecordID : String) : ShutdownFlowExecutionGroup :=
  { groupRecordID := groupRecordID, executionID := config.executionID, observedAt := completedAt
    waveIndex := config.waveIndex, groupName := attempt.group.name, action := attempt.group.action
    phase := if attempt.actionErr = none then .completed else .failed
    startedAt := some startedAt, completedAt := some completedAt
    selectedTargets := auditTargets attempt.group.selectedTargets
    details := mergeDetails attempt.group.details
      [("dryRun", .flag config.dryRun), ("outcome", .text attempt.outcome.outcome),
        ("params", .labels attempt.group.params),
        ("timingMode", timingModeText config.state.mode),
        ("compression", .fraction config.state.budget.compression),
        ("planFits", .flag config.state.budget.fits),
        ("rehearsal", .flag config.input.rehearsal),
        ("declaredTimeout", durationSeconds attempt.group.timeout),
        ("effectiveTimeout", durationSeconds (config.effectiveTimeout group)),
        ("declaredWait", durationSeconds attempt.group.waitDuration),
        ("effectiveWait", durationSeconds (config.effectiveWait group))] }

def GroupRunConfig.actionAttempt (config : GroupRunConfig) (attempt : GroupAttempt)
    (startedAt completedAt : Time) (attemptID : String) : ShutdownFlowActionAttempt :=
  { attemptID := attemptID, executionID := config.executionID, observedAt := completedAt
    waveIndex := some config.waveIndex, groupName := attempt.group.name
    action := attempt.group.action, startedAt := some startedAt, completedAt := some completedAt
    outcome := attempt.outcome.outcome, error := attempt.outcome.error, dryRun := config.dryRun
    details := mergeDetails attempt.outcome.details
      [("selectedTargetCount", .number attempt.group.selectedTargets.length),
        ("rehearsal", .flag config.input.rehearsal)] }

def GroupRunConfig.recordReleasesOf (config : GroupRunConfig) (attempt : GroupAttempt)
    (completedAt : Time) : Run (Nat × Option String) :=
  if attempt.group.action = actionAgentShutdown then
    recordNodeReleases config.recordContext config.input config.executionID config.dryRun
      attempt.group attempt.outcome completedAt
  else pure (0, none)

def groupVerdict (attempt : GroupAttempt) (nodeReleases : Nat) (recordErr : Option String) :
    GroupExecutionResult × Option String :=
  let result : GroupExecutionResult :=
    { actionAttempts := 1, nodeReleases := nodeReleases, recordError := recordErr }
  match attempt.actionErr with
  | none => (result, none)
  | some error =>
    if attempt.group.action = actionRunHook then
      ({ result with
          degraded := true, degradedReason := "ShutdownHookFailed"
          degradedMessage := error }, none)
    else (result, some error)

def GroupRunConfig.concludeGroup (config : GroupRunConfig) (attempt : GroupAttempt)
    (startedAt completedAt : Time) (groupErr : Option String) :
    Run (GroupExecutionResult × Option String) := do
  let attemptID ← newID
  let attemptErr ← record config.recordContext
    (.actionAttempt (config.actionAttempt attempt startedAt completedAt attemptID))
  let releases ← config.recordReleasesOf attempt completedAt
  pure (groupVerdict attempt releases.1 (joinErrors (joinErrors groupErr attemptErr) releases.2))

def Executor.executeGroup (executor : Executor) (config : GroupRunConfig) (group : Group) :
    Run (GroupExecutionResult × Option String) := do
  let startedAt ← now
  let attempt ← executor.attemptGroup config group
  let completedAt ← now
  let groupRecordID ← newID
  let groupErr ← record config.recordContext
    (.group (config.groupRecord group attempt startedAt completedAt groupRecordID))
  config.concludeGroup attempt startedAt completedAt groupErr

end NutOperator.Execution
