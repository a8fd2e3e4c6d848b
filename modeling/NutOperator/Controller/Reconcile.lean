import NutOperator.Controller.Execute

/-! Passes over a flow. A pass reads the flow, compiles it, evaluates its triggers
and writes the status; then its worker decides whether to execute, and what the
worker leaves in the status is written too. -/
namespace NutOperator.Controller

open Data Triggers
open Execution (Input Time)

structure CompiledFlow where
  steps : List Planner.CompiledStep := []
  waves : List Planner.Wave := []
  artifact : Option Planner.Graph := none
  blockedNodeReleases : List Planner.BlockedNode := []
  /-- Empty when the planner rejects the flow. -/
  configHash : String
deriving Repr, DecidableEq

inductive Compilation where
  /-- A read failed, and the pass ends without writing. -/
  | failed
  /-- Refused by validation, by the resolver or for a missing reference. -/
  | rejected
  | compiled (flow : CompiledFlow)

inductive WorkerStart where
  | notSubmitted
  | storeNotReady
  | storeFailed
  | ready
deriving Repr, DecidableEq

structure Pass where
  /-- The metadata and the spec, as they are read. -/
  flow : ShutdownFlow
  now : Time
  devices : List UPSDevice := []
  bundle : StructuralBundle := {}
  compilation : Compilation
  publishedAt : Time := 0
  workerStart : WorkerStart := .ready
  workerNow : Time := 0
  worker : Worker

/-- A pass that writes nothing: the flow is being deleted, or a read failed. -/
def Pass.skips (pass : Pass) : Bool := pass.flow.deletionTimestamp.isSome ||
    match pass.compilation with
    | .failed => true
    | _ => false

def Pass.accepted (pass : Pass) : Option CompiledFlow :=
  if pass.skips then none
  else
    match pass.compilation with
    | .compiled compiled => if compiled.configHash = "" then none else some compiled
    | _ => none

def Pass.observedAt (pass : Pass) : Time := wholeSecond pass.now

def Pass.read (pass : Pass) (status : ShutdownFlowStatus) : ShutdownFlow :=
  { pass.flow with status := status }

def markExecutionPending (flow : ShutdownFlow) (accepted : Bool)
    (evaluation : Option ShutdownTriggerEvaluationStatus) : ShutdownFlow :=
  if accepted && evaluation.any fun evaluation =>
      evaluation.eligible || (shutdownFlowRehearsalRequest flow).requested then
    setExecutionReadyCondition flow false "ExecutionPending"
      "waiting for an execution worker and execution-time checks"
  else flow

def publish (pass : Pass) (flow : ShutdownFlow) (accepted : Bool) : ShutdownFlow :=
  let idle := setExecutionReadyCondition flow false triggerNotEligibleReason
    triggerNotEligibleMessage
  let marked := markExecutionPending idle accepted flow.status.triggerEvaluation
  { marked with
    status.observedGeneration := flow.generation, status.lastEvaluationTime := some pass.observedAt
    status.lastPublishTime := some pass.publishedAt }

def Pass.evaluation (pass : Pass) (status : ShutdownFlowStatus) (compiled : CompiledFlow) :
    ShutdownTriggerEvaluationStatus :=
  { (evaluateShutdownFlowTriggers pass.devices pass.bundle (pass.read status) pass.observedAt
      "").1 with planConfigHash := compiled.configHash }

def acceptFlow (pass : Pass) (status : ShutdownFlowStatus) (compiled : CompiledFlow) :
    ShutdownFlow :=
  let holds := (evaluateShutdownFlowTriggers pass.devices pass.bundle (pass.read status)
    pass.observedAt "").2
  publish pass
    { pass.read status with
      status.phase := some .compiled, status.compiledSteps := compiled.steps
      status.compiledWaves := compiled.waves, status.publishedArtifact := compiled.artifact
      status.blockedNodeReleases := compiled.blockedNodeReleases
      status.configHash := compiled.configHash, status.resolvedInputHash := pass.bundle.hash
      status.triggerEvaluation := some (pass.evaluation status compiled)
      status.triggerHoldStates := holds } true

/-- Everything that was derived from the spec is cleared. -/
def rejectFlow (pass : Pass) (status : ShutdownFlowStatus) : ShutdownFlow := publish pass
    { pass.read status with
      status.phase := some .error, status.compiledSteps := [], status.compiledWaves := []
      status.publishedArtifact := none, status.blockedNodeReleases := [], status.configHash := ""
      status.resolvedInputHash := "", status.triggerEvaluation := none
      status.triggerHoldStates := []
      status.lastExecution := deactivateLastExecution status.lastExecution } false

def Pass.stored (pass : Pass) (status : ShutdownFlowStatus) (compiled : CompiledFlow) :
    ShutdownFlow :=
  { pass.flow with status := persist (acceptFlow pass status compiled).status }

def runShutdownFlow (identities : Identities) (pass : Pass) (flow : ShutdownFlow)
    (compiled : CompiledFlow) (evaluation : ShutdownTriggerEvaluationStatus) :
    ShutdownFlow × Option Input :=
  match pass.workerStart with
  | .notSubmitted | .storeFailed => (flow, none)
  | .storeNotReady =>
    (if evaluation.eligible then
      setExecutionReadyCondition flow false "AuditStoreUnavailable"
        "shutdown flow execution requires a ready PostgreSQL audit store"
    else flow, none)
  | .ready =>
    executeShutdownFlow identities pass.worker flow pass.workerNow pass.bundle.hash
      compiled.configHash evaluation pass.bundle

def runPass (identities : Identities) (status : ShutdownFlowStatus) (pass : Pass) :
    ShutdownFlowStatus × Option Input :=
  if pass.skips then (status, none)
  else
    match pass.accepted with
    | none => (persist (rejectFlow pass status).status, none)
    | some compiled =>
      let ran := runShutdownFlow identities pass (pass.stored status compiled) compiled
        (pass.evaluation status compiled)
      (persist ran.1.status, ran.2)

def started (identities : Identities) : ShutdownFlowStatus → List Pass → List Input
  | _, [] => []
  | status, pass :: rest =>
    let ran := runPass identities status pass
    ran.2.toList ++ started identities ran.1 rest

def Along (identities : Identities) (holds : ShutdownFlowStatus → Pass → Prop) :
    ShutdownFlowStatus → List Pass → Prop
  | _, [] => True
  | status, pass :: rest => holds status pass ∧ Along identities holds (runPass identities status
      pass).1 rest

@[simp] theorem activeKey_persist (status : ShutdownFlowStatus) :
    activeKey (persist status).lastExecution = activeKey status.lastExecution := by
  cases hlast : status.lastExecution <;> simp [persist, activeKey, persistExecution, hlast]

section

variable (flow : ShutdownFlow) (accepted : Bool)
  (evaluation : Option ShutdownTriggerEvaluationStatus)

theorem lastExecution_markExecutionPending :
    (markExecutionPending flow accepted evaluation).status.lastExecution =
      flow.status.lastExecution := by
  unfold markExecutionPending
  split <;> rfl

theorem keepsPlan_markExecutionPending :
    KeepsPlan flow.status (markExecutionPending flow accepted evaluation).status := by
  unfold markExecutionPending
  split
  · exact keepsPlan_setExecutionReadyCondition _ _ _ _
  · exact ⟨rfl, rfl, rfl⟩

end

theorem lastExecution_publish (pass : Pass) (flow : ShutdownFlow) (accepted : Bool) :
    (publish pass flow accepted).status.lastExecution = flow.status.lastExecution :=
  lastExecution_markExecutionPending _ _ _

theorem keepsPlan_publish (pass : Pass) (flow : ShutdownFlow) (accepted : Bool) :
    KeepsPlan flow.status (publish pass flow accepted).status :=
  (keepsPlan_setExecutionReadyCondition _ _ _ _).trans <|
    (keepsPlan_markExecutionPending _ _ _).trans ⟨rfl, rfl, rfl⟩

/-- What a pass asks of the latch that holds the active key. -/
def passTurn (identities : Identities) (status : ShutdownFlowStatus) (pass : Pass) : Turn String :=
  if pass.skips then .skip
  else
    match pass.accepted with
    | none => .clear
    | some compiled =>
      if pass.workerStart = .ready then
        executionTurn identities pass.worker (pass.stored status compiled) pass.workerNow
          pass.bundle.hash compiled.configHash (pass.evaluation status compiled) pass.bundle
      else .skip

theorem not_skips_of_accepted {pass : Pass} {compiled : CompiledFlow}
    (h : pass.accepted = some compiled) : pass.skips = false := by
  cases hskips : pass.skips with
  | false => rfl
  | true => simp [Pass.accepted, hskips] at h

def trail (identities : Identities) : ShutdownFlowStatus → List Pass →
    List (ShutdownFlowStatus × Pass)
  | _, [] => []
  | status, pass :: rest =>
    (status, pass) :: trail identities (runPass identities status pass).1 rest

def passTurns (identities : Identities) (status : ShutdownFlowStatus) (passes : List Pass) :
    List (Turn String) :=
  (trail identities status passes).map fun step => passTurn identities step.1 step.2

section

variable (ids : Identities) (status : ShutdownFlowStatus)

theorem passTurns_cons (pass : Pass) (rest : List Pass) :
    passTurns ids status (pass :: rest) = passTurn ids status pass ::
      passTurns ids (runPass ids status pass).1 rest :=
  rfl

theorem runPass_turns (pass : Pass) :
    activeKey (runPass ids status pass).1.lastExecution =
        (passTurn ids status pass).next (activeKey status.lastExecution) ∧
      (runPass ids status pass).2.map (·.deduplicationKey) =
        (passTurn ids status pass).start (activeKey status.lastExecution) := by
  unfold runPass passTurn
  split
  · exact ⟨rfl, rfl⟩
  · cases pass.accepted with
    | none =>
      refine ⟨?_, rfl⟩
      simp only [activeKey_persist, rejectFlow, lastExecution_publish, Turn.next]
      exact activeKey_deactivateLastExecution _
    | some compiled =>
      have hs : activeKey (pass.stored status compiled).status.lastExecution =
          activeKey status.lastExecution := by
        rw [Pass.stored, activeKey_persist, acceptFlow, lastExecution_publish]
        rfl
      simp only [runShutdownFlow, activeKey_persist]
      rw [← hs]
      cases pass.workerStart with
      | storeNotReady =>
        cases (pass.evaluation status compiled).eligible <;> exact ⟨rfl, rfl⟩
      | ready => exact executeShutdownFlow_turns
      | _ => exact ⟨rfl, rfl⟩

theorem started_eq_latchRun (passes : List Pass) :
    (started ids status passes).map (·.deduplicationKey) =
      latchRun (activeKey status.lastExecution) (passTurns ids status passes) := by
  induction passes generalizing status with
  | nil => rfl
  | cons pass rest ih =>
    obtain ⟨hnext, hs⟩ := runPass_turns ids status pass
    rw [started, passTurns_cons, latchRun, List.map_append, ih, hnext, ← hs, Option.toList_map]

end

def plainDigest : KeyPayload → String
  | .episode _ _ _ planConfigHash eligibleTriggers _ =>
    "episode " ++ planConfigHash ++ String.join (eligibleTriggers.map fun episode =>
      " " ++ episode.triggerID ++ " " ++ toString (episode.holdStartedAt.getD 0))
  | .rehearsal _ _ _ planConfigHash rehearsalRequest _ =>
    "rehearsal " ++ planConfigHash ++ " " ++ rehearsalRequest

def plainIdentities : Identities where
  digest := plainDigest
  identity := fun key => key
  digest_ne_empty := by
    intro payload
    cases payload <;> simp [plainDigest]

def idleWorker : Worker where
  reads :=
    { targets := fun _ _ => .ok []
      hookTimeout := fun _ _ => .ok 0
      nodeReleases := fun _ => .ok []
      powerObservation := fun _ => {} }
  claim := fun _ => none
  execute := fun input =>
    some ({ executionID := input.executionID, phase := some .completed }, none)
  completedAt := 0

end NutOperator.Controller
