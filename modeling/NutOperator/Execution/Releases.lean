import NutOperator.Execution.Adaptive
import NutOperator.Planner.Text

/-! Node releases: refreshing their evidence, the readiness check in front of the
handoff, and the records of each release. -/
namespace NutOperator.Execution

open Data Effects
open Planner (quote)

def sameReleaseIdentity (fresh selected : NodeRelease) : Bool :=
  fresh.nodeName = selected.nodeName && fresh.nodePowerAgent = selected.nodePowerAgent &&
    fresh.agentUID = selected.agentUID && fresh.agentGeneration = selected.agentGeneration &&
    fresh.actuatorPolicy = selected.actuatorPolicy && fresh.signalPath = selected.signalPath &&
    fresh.signalSecretNamespace = selected.signalSecretNamespace &&
    fresh.signalSecretName = selected.signalSecretName &&
    fresh.signalSecretKey = selected.signalSecretKey

/-- The refresh loop. The handoff role and the quorum stay as selected. -/
def refreshReleases (context : Context) : List NodeRelease → Run (Except String (List NodeRelease))
  | [] => pure (.ok [])
  | selected :: rest => do
    match ← contextErr context with
    | some error => pure (.error error.text)
    | none =>
      match ← ask (.refreshNodeRelease context selected) with
      | .error error =>
        pure (.error s!"refresh node {quote selected.nodeName} evidence: {error}")
      | .ok read =>
        let fresh : NodeRelease :=
          { read with
            terminalHandoff := selected.terminalHandoff
            controlPlaneNodes := selected.controlPlaneNodes
            quorumMembers := selected.quorumMembers }
        if sameReleaseIdentity fresh selected then do
          match ← refreshReleases context rest with
          | .error error => pure (.error error)
          | .ok releases => pure (.ok (fresh :: releases))
        else
          pure (.error (s!"node {quote selected.nodeName} release identity changed " ++
              "during evidence refresh"))

def Executor.refreshReleaseEvidence (executor : Executor) (context : Context) (group : Group) :
    Run (Group × Option String) :=
  if executor.refreshNodeRelease then do
    match ← refreshReleases context group.nodeReleases with
    | .error error => pure (group, some error)
    | .ok releases => pure ({ group with nodeReleases := releases }, none)
  else pure (group, none)

def orReason (reason fallback : String) : String :=
  if reason = "" then fallback else reason

def withholdingReason (release : NodeRelease) : Option String :=
  if !release.agentReady then some (orReason release.readinessReason "AgentReadinessUnknown")
  else if !release.telemetryFresh then
    some (orReason release.telemetryStaleReason "AgentTelemetryStale")
  else if !release.cleared then some (orReason release.clearanceReason "NodeNotCleared")
  else none

def agentShutdownReadinessError (dryRun : Bool) (group : Group) : Option String :=
  if dryRun then none
  else
    group.nodeReleases.foldl (fun error release =>
        joinErrors error ((withholdingReason release).map fun reason =>
          s!"node {quote release.nodeName} is not ready for AgentShutdown: {reason}"))
      none

def releaseHeartbeatTime (release : NodeRelease) : Detail :=
  match release.lastHeartbeatTime with
  | none => .text ""
  | some time => if time = 0 then .text "" else .time time

def clearedForRelease (release : NodeRelease) : Bool :=
  release.agentReady && release.telemetryFresh && release.cleared

def blockedNodeReleaseDetails (releases : List NodeRelease) : Detail :=
  .items ((releases.filter fun release => !clearedForRelease release).map fun release =>
    .fields
      [("lastHeartbeatTime", releaseHeartbeatTime release), ("nodeName", .text release.nodeName),
        ("nodePowerAgent", .text release.nodePowerAgent),
        ("podName", .text release.podName),
        ("readinessMessage", .text release.readinessMessage),
        ("readinessReason", .text release.readinessReason),
        ("telemetryFresh", .flag release.telemetryFresh),
        ("telemetryStaleReason", .text release.telemetryStaleReason),
        ("cleared", .flag release.cleared),
        ("clearanceReason", .text release.clearanceReason),
        ("blockingWorkloads", .texts release.blockingWorkloads)])

def nodeReleaseReason (release : NodeRelease) (dryRun : Bool) : String :=
  (withholdingReason release).getD (if dryRun then "DryRunRelease" else "ReleaseApproved")

def nodeSignalHandoffReason (release : NodeRelease) (dryRun : Bool) : String :=
  (withholdingReason release).getD (if dryRun then "DryRunSignal" else "SignalAccepted")

def signalTTL (ttl : Duration) : Duration :=
  if ttl ≤ 0 then defaultSignalTTL else ttl

def signalResultForRelease (results : List NodeSignalResult) (release : NodeRelease) :
    Option NodeSignalResult :=
  results.find? fun result =>
    result.nodeName = release.nodeName && result.nodePowerAgent = release.nodePowerAgent &&
      result.signalSecretNamespace = release.signalSecretNamespace &&
      result.signalSecretName = release.signalSecretName &&
      result.signalSecretKey = release.signalSecretKey

structure Publication where
  result : NodeSignalResult
  (reported released : Bool)
  issuedAt : Time
  (reason handoffReason signalReason : String)

def publicationOf (release : NodeRelease) (dryRun : Bool) (outcome : ActionOutcome)
    (observedAt : Time) : Publication :=
  let found := signalResultForRelease outcome.signalResults release
  let result := found.getD {}
  let effective := clearedForRelease release && !dryRun
  let unconfirmed :=
    if found.isSome then "SignalPublicationUnconfirmed" else "SignalPublicationNotReported"
  let withheld := effective && !result.published
  let reason := if withheld then unconfirmed else nodeReleaseReason release dryRun
  { result := result, reported := found.isSome, released := effective && result.published
    issuedAt := if result.issuedAt = 0 then observedAt else result.issuedAt
    reason := reason
    handoffReason := if withheld then unconfirmed else nodeSignalHandoffReason release dryRun
    signalReason := if result.issuedAt = 0 then reason else "ReleaseApproved" }

def nodeReleaseRecord (input : Input) (executionID : String) (dryRun : Bool) (group : Group)
    (release : NodeRelease) (publication : Publication) (observedAt : Time) (releaseID : String) :
    NodeReleaseRecord :=
  { releaseID := releaseID, executionID := executionID, observedAt := observedAt
    nodeName := release.nodeName, nodePowerAgent := release.nodePowerAgent
    planConfigHash := input.planConfigHash, approved := input.approved
    released := publication.released, reason := publication.reason
    clearance := [("agentReady", .flag release.agentReady), ("cleared", .flag release.cleared),
        ("clearanceReason", .text release.clearanceReason),
        ("blockingWorkloads", .texts release.blockingWorkloads),
        ("dryRun", .flag dryRun),
        ("group", .text group.name),
        ("lastHeartbeatTime", releaseHeartbeatTime release),
        ("podName", .text release.podName),
        ("readinessReason", .text release.readinessReason),
        ("telemetryFresh", .flag release.telemetryFresh),
        ("telemetryStaleReason", .text release.telemetryStaleReason)]
    details := [("readinessMessage", .text release.readinessMessage),
        ("terminalHandoff", .flag release.terminalHandoff),
        ("controlPlaneNodes", .texts release.controlPlaneNodes),
        ("quorumMembers", .texts release.quorumMembers),
        ("signalPublicationError", .text publication.result.error),
        ("signalResultReported", .flag publication.reported),
        ("selectedUPSDevices", .texts input.selectedUPSDevices)] }

def nodeSignalHandoff (input : Input) (executionID : String) (dryRun : Bool) (group : Group)
    (release : NodeRelease) (publication : Publication) (observedAt : Time) (handoffID : String) :
    NodeSignalHandoff :=
  { handoffID := handoffID, executionID := executionID, observedAt := observedAt
    nodeName := release.nodeName, nodePowerAgent := release.nodePowerAgent
    signalPath := orReason release.signalPath defaultSignalPath
    signalPayload := [("agentReady", .flag release.agentReady), ("dryRun", .flag dryRun),
        ("executionID", .text executionID),
        ("lastHeartbeatTime", releaseHeartbeatTime release),
        ("nodeName", .text release.nodeName),
        ("planConfigHash", .text input.planConfigHash),
        ("podName", .text release.podName),
        ("readinessReason", .text release.readinessReason),
        ("reason", .text publication.signalReason),
        ("selectedUPSDevices", .texts input.selectedUPSDevices),
        ("shutdownFlow", .text input.shutdownFlow),
        ("telemetryFresh", .flag release.telemetryFresh),
        ("telemetryStaleReason", .text release.telemetryStaleReason),
        ("timestamp", .time publication.issuedAt),
        ("skipSync", .flag publication.result.skipSync)]
    staleAfter := some (publication.issuedAt + signalTTL input.signalTTL)
    accepted := publication.released, reason := publication.handoffReason
    details := [("group", .text group.name),
        ("signalPublicationError", .text publication.result.error),
        ("signalResultReported", .flag publication.reported),
        ("readinessMessage", .text release.readinessMessage),
        ("readinessReason", .text release.readinessReason),
        ("lastHeartbeatTime", releaseHeartbeatTime release)] }

def recordReleases (context : Context) (input : Input) (executionID : String) (dryRun : Bool)
    (group : Group) (outcome : ActionOutcome) (observedAt : Time) :
    List NodeRelease → Option String → Run (Option String)
  | [], recordErr => pure recordErr
  | release :: rest, recordErr =>
    if release.nodeName = "" then
      recordReleases context input executionID dryRun group outcome observedAt rest
        (joinErrors recordErr
          (some s!"node release for group {quote group.name} requires node name"))
    else do
      let publication := publicationOf release dryRun outcome observedAt
      let releaseID ← newID
      let releaseErr ← record context (.nodeRelease
        (nodeReleaseRecord input executionID dryRun group release publication observedAt
          releaseID))
      let handoffID ← newID
      let handoffErr ← record context (.nodeSignalHandoff
        (nodeSignalHandoff input executionID dryRun group release publication observedAt
          handoffID))
      recordReleases context input executionID dryRun group outcome observedAt rest
        (joinErrors (joinErrors recordErr releaseErr) handoffErr)

def recordNodeReleases (context : Context) (input : Input) (executionID : String) (dryRun : Bool)
    (group : Group) (outcome : ActionOutcome) (observedAt : Time) : Run (Nat × Option String) := do
  let recordErr ← recordReleases context input executionID dryRun group outcome observedAt
    group.nodeReleases none
  pure (group.nodeReleases.length, recordErr)

end NutOperator.Execution
