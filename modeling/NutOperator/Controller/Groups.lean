import NutOperator.Controller.Barriers
import NutOperator.Controller.Triggers

/-! From a compiled flow to the input of an execution. Nodes that the plan blocked
are withheld from the groups that would power them off. -/
namespace NutOperator.Controller

open Data
open Adaptive (PowerObservation defaultParameters)
open Execution (AdaptiveInput Group HookReference Input NodeRelease Target
  TierOverrunPolicy Time)
open Planner (BlockedNode waitDurationFromParams)

/-- What an execution reads of the cluster before it starts. A failed read is its
error. -/
structure ClusterReads where
  managementCluster : Option String := none
  targets : ShutdownStepType → ShutdownStepTarget → Except String (List Target)
  hookTimeout : Option HookReference → Bool → Except String Duration
  /-- The nodes that the agents of a target have selected. -/
  nodeReleases : List String → Except String (List NodeRelease)
  powerObservation : List String → PowerObservation

def blockedNodeNames (blocked : List BlockedNode) : List String := blocked.map (·.name)

/-- The flow still runs; it powers off fewer nodes. -/
def withholdBlockedNodeReleases (releases : List NodeRelease) (blocked : List String) :
    List NodeRelease :=
  releases.filter fun release => release.nodeName ∉ blocked

def nodeReleasesForTarget (reads : ClusterReads) (target : ShutdownStepTarget) :
    Except String (List NodeRelease) :=
  if target.agentRefs = [] then .ok [] else reads.nodeReleases target.agentRefs

def initialExecutionTargets (reads : ClusterReads) (action : ShutdownStepType)
    (target : ShutdownStepTarget) (resolve : Bool) : Except String (List Target) :=
  if resolve then reads.targets action target else .ok []

/-- A hook without a time limit of its own takes the limit of its resource. -/
def actionTimeout (reads : ClusterReads) (action : ShutdownStepType)
    (hookRef : Option HookReference) (timeout : Option Duration) (dryRun : Bool) :
    Except String Duration :=
  if timeout.getD 0 = 0 ∧ action = .runHook then reads.hookTimeout hookRef dryRun
  else .ok (timeout.getD 0)

def executorGroup (reads : ClusterReads) (blocked : List String) (dryRun resolveTargets : Bool)
    (name description : String) (action : ShutdownStepType) (target : ShutdownStepTarget)
    (hookRef : Option HookReference) (timeout : Option Duration) (params : List (String × String))
    (waitDuration : Duration) : Except String Group := do
  let targets ← initialExecutionTargets reads action target resolveTargets
  let limit ← actionTimeout reads action hookRef timeout dryRun
  let releases ← nodeReleasesForTarget reads target
  pure
    { name := name, action := action.text, params := params, hookRef := hookRef
      selectedTargets := targets, nodeReleases := withholdBlockedNodeReleases releases blocked
      timeout := limit, waitDuration := waitDuration
      details := [("description", .text description)] }

def executorGroups (reads : ClusterReads) (flow : ShutdownFlow) (resolveTargets : Bool) :
    Except String (List Group) :=
  let blocked := blockedNodeNames flow.status.blockedNodeReleases
  let dryRun : Bool := effectiveShutdownFlowMode flow.spec.mode ≠ .enforce
  match reads.managementCluster with
  | some message => .error message
  | none =>
    if flow.spec.groups ≠ [] then
      flow.spec.groups.mapM fun group =>
        executorGroup reads blocked dryRun resolveTargets group.name group.description
          group.action group.target group.hookRef group.timeout group.params
          (waitDurationFromParams group.params)
    else
      flow.spec.steps.mapM fun step =>
        executorGroup reads blocked dryRun resolveTargets step.id step.description step.type
          step.target step.hookRef step.timeout step.params (step.duration.getD 0)

def flowForCompiledExecution (flow : ShutdownFlow) : ShutdownFlow :=
  let selected := flow.status.compiledSteps.map (·.id)
  { flow with
    spec.groups := flow.spec.groups.filter fun group => group.name ∈ selected
    spec.steps :=
      if flow.spec.groups ≠ [] then []
      else flow.spec.steps.filter fun step => step.id ∈ selected }

def attachControlPlane (nodes : List Planner.ControlPlaneNode) (group : Group) : Group :=
  { group with
    nodeReleases := group.nodeReleases.map fun release =>
      { release with
        controlPlaneNodes := release.controlPlaneNodes ++ nodes.map (·.name)
        quorumMembers := release.quorumMembers ++ (nodes.filter (·.quorumMember)).map (·.name) } }

def compiledTierRange (waves : List Planner.Wave) : Int × Int :=
  let tiers := waves.filterMap fun wave => wave.shutdownTier.map (max 1)
  let last := (tiers.min?).getD 1
  (last, max last ((tiers.max?).getD 0))

def adaptiveInputForFlow (flow : ShutdownFlow) (observation : PowerObservation) : AdaptiveInput :=
  let (final, start) := compiledTierRange flow.status.compiledWaves
  { parameters := defaultParameters, observation := observation, finalTier := final
    startTier := start }

def runtimeIsTrustedForFlow (capabilities : List CapabilityMatch) (devices : List String) :
    Bool :=
  let wanted := capabilities.filter fun capability => capability.deviceID ∈ devices
  devices ≠ [] && capabilities ≠ [] && wanted.all (·.supportsTimingAdaptation) &&
    wanted.length = devices.dedup.length

def effectiveShutdownTierOverrunPolicy (policy : Option TierOverrunPolicy) : TierOverrunPolicy :=
  policy.getD .wait

def eligibleTriggerDecisionID (evaluation : ShutdownTriggerEvaluationStatus) : String :=
  ((evaluation.decisions.find? (·.eligible)).map (·.triggerID)).getD ""

def shutdownExecutionInput (identity : String → String) (reads : ClusterReads)
    (flow : ShutdownFlow) (observedAt : Time) (inputHash configHash : String)
    (evaluation : ShutdownTriggerEvaluationStatus) (dedupeKey : String)
    (bundle : StructuralBundle) (rehearsal : Bool) : Except String Input := do
  let waves := applyCommunicationBarriers
    (executorWavesFromFlow flow.status.compiledWaves flow.status.compiledSteps)
    flow.status.publishedArtifact
  let groups ← executorGroups reads (flowForCompiledExecution flow) false
  let enforce : Bool := effectiveShutdownFlowMode flow.spec.mode = .enforce
  let trusted := runtimeIsTrustedForFlow bundle.capabilityMatches evaluation.selectedUPSDevices
  -- without an observer a real outage must not look like mains present
  let observation : PowerObservation :=
    if rehearsal then
      { reads.powerObservation evaluation.selectedUPSDevices with runtimeTrusted := trusted }
    else { runtimeTrusted := trusted, onBattery := true }
  pure
    { executionID := identity dedupeKey, deduplicationKey := dedupeKey, observedAt := observedAt
      shutdownFlow := flow.name, triggerDecisionID := eligibleTriggerDecisionID evaluation
      mode := (effectiveShutdownFlowMode flow.spec.mode).text, reason := evaluation.reason
      planConfigHash := configHash, inputHash := inputHash, approved := enforce, dryRun := !enforce
      rehearsal := rehearsal, selectedUPSDevices := evaluation.selectedUPSDevices
      tierOverrunPolicy := some (effectiveShutdownTierOverrunPolicy flow.spec.tierOverrunPolicy)
      waves := waves, groups := groups.map (attachControlPlane bundle.controlPlaneNodes)
      adaptive := adaptiveInputForFlow flow observation }

end NutOperator.Controller
