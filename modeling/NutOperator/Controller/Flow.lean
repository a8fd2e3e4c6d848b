import NutOperator.Execution.Types
import NutOperator.Planner.Types

/-! The ShutdownFlow resource: what the controller reads of its metadata and spec,
and the status that is its only memory between two passes. -/
namespace NutOperator.Controller

open Data
open Execution (Phase Result Time)
open Planner (BlockedNode CompiledStep Diagnostic Graph)

inductive ShutdownFlowMode where
  | dryRun
  | enforce
deriving Repr, DecidableEq

def ShutdownFlowMode.text : ShutdownFlowMode → String
  | .dryRun => "DryRun"
  | .enforce => "Enforce"

inductive ShutdownTriggerType where
  | onBattery
  | lowBattery
  | runtimeBelow
  | chargeBelow
  | telemetryStale
deriving Repr, DecidableEq

def ShutdownTriggerType.text : ShutdownTriggerType → String
  | .onBattery => "OnBattery"
  | .lowBattery => "LowBattery"
  | .runtimeBelow => "RuntimeBelow"
  | .chargeBelow => "ChargeBelow"
  | .telemetryStale => "TelemetryStale"

structure ShutdownTrigger where
  type : ShutdownTriggerType
  fallbackType : Option ShutdownTriggerType := none
  (upsDeviceRefs powerDomains : List String := [])
  holdFor : Option Duration := none
  (runtimeBelowSeconds chargeBelowPercent : Option Int := none)
deriving Repr, DecidableEq

inductive ShutdownStepType where
  | notify
  | wait
  | cordonNodes
  | drainNodes
  | scaleWorkload
  | runHook
  | agentShutdown
deriving Repr, DecidableEq

def ShutdownStepType.text : ShutdownStepType → String
  | .notify => "Notify"
  | .wait => "Wait"
  | .cordonNodes => "CordonNodes"
  | .drainNodes => "DrainNodes"
  | .scaleWorkload => "ScaleWorkload"
  | .runHook => "RunHook"
  | .agentShutdown => "AgentShutdown"

structure SelectorRequirement where
  (key operator : String)
  values : List String := []
deriving Repr, DecidableEq

structure LabelSelector where
  matchLabels : List (String × String) := []
  matchExpressions : List SelectorRequirement := []
deriving Repr, DecidableEq

/-- The agents and the nodes a target names. What its other selectors select is read
from the cluster. -/
structure ShutdownStepTarget where
  agentRefs : List String := []
  nodeSelector : Option LabelSelector := none
  nodeSelectorRequirements : List SelectorRequirement := []
deriving Repr, DecidableEq

structure ShutdownGroup where
  name : String
  description : String := ""
  target : ShutdownStepTarget := {}
  hookRef : Option Execution.HookReference := none
  action : ShutdownStepType
  timeout : Option Duration := none
  params : List (String × String) := []
deriving Repr, DecidableEq

structure ShutdownStep where
  id : String
  type : ShutdownStepType
  description : String := ""
  target : ShutdownStepTarget := {}
  hookRef : Option Execution.HookReference := none
  (duration timeout : Option Duration := none)
  params : List (String × String) := []
deriving Repr, DecidableEq

structure FlowSafetySpec where
  requireManualApproval : Option Bool := none
  approvalAnnotation : String := ""
  maxEstimatedDuration : Option Duration := none
deriving Repr, DecidableEq

structure ShutdownFlowSpec where
  mode : Option ShutdownFlowMode := none
  triggers : List ShutdownTrigger := []
  groups : List ShutdownGroup := []
  steps : List ShutdownStep := []
  tierOverrunPolicy : Option Execution.TierOverrunPolicy := none
  safety : FlowSafetySpec := {}
deriving Repr, DecidableEq

structure ShutdownTriggerDecisionStatus where
  (triggerID type : String)
  (matched eligible : Bool)
  reason : String
  selectedUPSDevices : List String
  (holdStartedAt eligibleAt : Option Time)
deriving Repr, DecidableEq

structure ShutdownTriggerEvaluationStatus where
  observedAt : Option Time
  mode : ShutdownFlowMode
  eligible : Bool
  reason : String
  matchedTriggerCount : Nat
  selectedUPSDevices : List String
  planConfigHash : String
  decisions : List ShutdownTriggerDecisionStatus
  diagnostics : List Diagnostic
deriving Repr, DecidableEq

structure ShutdownTriggerHoldStateStatus where
  (triggerID upsDevice : String)
  startedAt : Time
deriving Repr, DecidableEq

structure ShutdownExecutionStatus where
  (executionID deduplicationKey : String)
  triggerActive : Bool
  phase : Phase
  mode : ShutdownFlowMode
  (dryRun rehearsal : Bool)
  planConfigHash : String
  selectedUPSDevices : List String
  startedAt : Option Time
  completedAt : Option Time := none
  (waveCount groupCount actionAttemptCount nodeReleaseCount : Nat := 0)
  reason : String
  message : String := ""
deriving Repr, DecidableEq

inductive ShutdownFlowPhase where
  | pending
  | compiled
  | blocked
  | running
  | aborted
  | completed
  | error
deriving Repr, DecidableEq

inductive ConditionType where
  | degraded
  | executionReady
deriving Repr, DecidableEq

structure Condition where
  type : ConditionType
  status : Bool
  observedGeneration : Int
  (reason message : String)
deriving Repr, DecidableEq

structure ShutdownFlowStatus where
  observedGeneration : Int := 0
  phase : Option ShutdownFlowPhase := none
  compiledSteps : List CompiledStep := []
  compiledWaves : List Planner.Wave := []
  publishedArtifact : Option Graph := none
  blockedNodeReleases : List BlockedNode := []
  (configHash resolvedInputHash : String := "")
  (lastEvaluationTime lastPublishTime : Option Time := none)
  triggerEvaluation : Option ShutdownTriggerEvaluationStatus := none
  triggerHoldStates : List ShutdownTriggerHoldStateStatus := []
  lastExecution : Option ShutdownExecutionStatus := none
  conditions : List Condition := []
deriving Repr, DecidableEq

structure ShutdownFlow where
  (name uid : String := "")
  generation : Int := 0
  deletionTimestamp : Option Time := none
  annotations : List (String × String) := []
  spec : ShutdownFlowSpec := {}
  status : ShutdownFlowStatus := {}
deriving Repr, DecidableEq

/-- A missing annotation reads as the empty text. -/
def ShutdownFlow.annotation (flow : ShutdownFlow) (key : String) : String :=
  (flow.annotations.lookup key).getD ""

def effectiveShutdownFlowMode (mode : Option ShutdownFlowMode) : ShutdownFlowMode :=
  mode.getD .dryRun

def setStatusCondition (conditions : List Condition) (condition : Condition) : List Condition :=
  if conditions.any fun existing => existing.type = condition.type then
    conditions.map fun existing => if existing.type = condition.type then condition else existing
  else conditions ++ [condition]

def setExecutionReadyCondition (flow : ShutdownFlow) (ready : Bool) (reason message : String) :
    ShutdownFlow :=
  { flow with
    status.conditions := setStatusCondition flow.status.conditions
        ⟨.executionReady, ready, flow.generation, reason, message⟩ }

def setDegradedCondition (flow : ShutdownFlow) (degraded : Bool) (reason message : String) :
    ShutdownFlow :=
  { flow with
    status.conditions := setStatusCondition flow.status.conditions
        ⟨.degraded, degraded, flow.generation, reason, message⟩ }

def wholeSecond (time : Time) : Time := time - time % nanosPerSecond

@[simp] theorem wholeSecond_wholeSecond (time : Time) :
    wholeSecond (wholeSecond time) = wholeSecond time := by
  have hw : wholeSecond time % nanosPerSecond = 0 := Int.emod_eq_zero_of_dvd Int.dvd_self_sub_emod
  rw [wholeSecond, hw, sub_zero]

def persistDecision (decision : ShutdownTriggerDecisionStatus) : ShutdownTriggerDecisionStatus :=
  { decision with
    holdStartedAt := decision.holdStartedAt.map wholeSecond
    eligibleAt := decision.eligibleAt.map wholeSecond }

def persistEvaluation (evaluation : ShutdownTriggerEvaluationStatus) :
    ShutdownTriggerEvaluationStatus :=
  { evaluation with
    observedAt := evaluation.observedAt.map wholeSecond
    decisions := evaluation.decisions.map persistDecision }

def persistHold (hold : ShutdownTriggerHoldStateStatus) : ShutdownTriggerHoldStateStatus :=
  { hold with startedAt := wholeSecond hold.startedAt }

def persistExecution (execution : ShutdownExecutionStatus) : ShutdownExecutionStatus :=
  { execution with
    startedAt := execution.startedAt.map wholeSecond
    completedAt := execution.completedAt.map wholeSecond }

def persist (status : ShutdownFlowStatus) : ShutdownFlowStatus :=
  { status with
    lastEvaluationTime := status.lastEvaluationTime.map wholeSecond
    lastPublishTime := status.lastPublishTime.map wholeSecond
    triggerEvaluation := status.triggerEvaluation.map persistEvaluation
    triggerHoldStates := status.triggerHoldStates.map persistHold
    lastExecution := status.lastExecution.map persistExecution }

end NutOperator.Controller
