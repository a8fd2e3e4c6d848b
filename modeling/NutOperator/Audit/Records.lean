import NutOperator.Execution.Types

/-! The records of the audit writer: twelve kinds, each with its own payload, the
identity of its row and the fields its insert requires. -/
namespace NutOperator.Audit

open Execution

structure PowerEvent where
  eventID : String
  observedAt : Time := 0
  (eventType severity sourceKind sourceName message : String := "")
deriving Repr, DecidableEq

structure TelemetrySnapshot where
  snapshotID : String
  observedAt : Time := 0
  upsDevice : String := ""
deriving Repr, DecidableEq

structure CapabilityProfileMatch where
  matchID : String
  observedAt : Time := 0
  (upsDevice profileID profileVersion profileSource matchTier : String := "")
deriving Repr, DecidableEq

structure CapabilityProfileVerification where
  verificationID : String
  observedAt : Time := 0
  (upsDevice profileID profileVersion profileSource : String := "")
deriving Repr, DecidableEq

structure ShutdownFlowCompilation where
  compilationID : String
  observedAt : Time := 0
  (shutdownFlow configHash : String := "")
  accepted : Bool := false
deriving Repr, DecidableEq

structure ShutdownFlowDecision where
  decisionID : String
  observedAt : Time := 0
  (shutdownFlow triggerType mode decision reason : String := "")
deriving Repr, DecidableEq

inductive Kind where
  | powerEvent
  | telemetrySnapshot
  | capabilityProfileMatch
  | capabilityProfileVerification
  | shutdownFlowCompilation
  | shutdownFlowDecision
  | shutdownFlowExecution
  | shutdownFlowExecutionWave
  | shutdownFlowExecutionGroup
  | shutdownFlowActionAttempt
  | nodeRelease
  | nodeSignalHandoff
deriving Repr, DecidableEq

@[reducible] def Kind.Payload : Kind → Type
  | .powerEvent => PowerEvent
  | .telemetrySnapshot => TelemetrySnapshot
  | .capabilityProfileMatch => CapabilityProfileMatch
  | .capabilityProfileVerification => CapabilityProfileVerification
  | .shutdownFlowCompilation => ShutdownFlowCompilation
  | .shutdownFlowDecision => ShutdownFlowDecision
  | .shutdownFlowExecution => ShutdownFlowExecution
  | .shutdownFlowExecutionWave => ShutdownFlowExecutionWave
  | .shutdownFlowExecutionGroup => ShutdownFlowExecutionGroup
  | .shutdownFlowActionAttempt => ShutdownFlowActionAttempt
  | .nodeRelease => NodeReleaseRecord
  | .nodeSignalHandoff => NodeSignalHandoff

abbrev Record := (kind : Kind) × kind.Payload

def Kind.name : Kind → String
  | .powerEvent => "power_event"
  | .telemetrySnapshot => "ups_telemetry_snapshot"
  | .capabilityProfileMatch => "capability_profile_match"
  | .capabilityProfileVerification => "capability_profile_verification"
  | .shutdownFlowCompilation => "shutdownflow_compilation"
  | .shutdownFlowDecision => "shutdownflow_decision"
  | .shutdownFlowExecution => "shutdownflow_execution"
  | .shutdownFlowExecutionWave => "shutdownflow_execution_wave"
  | .shutdownFlowExecutionGroup => "shutdownflow_execution_group"
  | .shutdownFlowActionAttempt => "shutdownflow_action_attempt"
  | .nodeRelease => "node_release_record"
  | .nodeSignalHandoff => "node_signal_handoff"

def Kind.ofName : String → Option Kind
  | "power_event" => some .powerEvent
  | "ups_telemetry_snapshot" => some .telemetrySnapshot
  | "capability_profile_match" => some .capabilityProfileMatch
  | "capability_profile_verification" => some .capabilityProfileVerification
  | "shutdownflow_compilation" => some .shutdownFlowCompilation
  | "shutdownflow_decision" => some .shutdownFlowDecision
  | "shutdownflow_execution" => some .shutdownFlowExecution
  | "shutdownflow_execution_wave" => some .shutdownFlowExecutionWave
  | "shutdownflow_execution_group" => some .shutdownFlowExecutionGroup
  | "shutdownflow_action_attempt" => some .shutdownFlowActionAttempt
  | "node_release_record" => some .nodeRelease
  | "node_signal_handoff" => some .nodeSignalHandoff
  | _ => none

theorem Kind.ofName_name (kind : Kind) : Kind.ofName kind.name = some kind := by
  cases kind <;> rfl

@[reducible] def Kind.Identity : Kind → Type
  | .shutdownFlowExecutionWave => String × Int
  | .shutdownFlowExecutionGroup => String × Int × String
  | _ => String

instance : (kind : Kind) → DecidableEq kind.Identity
  | .powerEvent | .telemetrySnapshot | .capabilityProfileMatch
  | .capabilityProfileVerification | .shutdownFlowCompilation
  | .shutdownFlowDecision | .shutdownFlowExecution
  | .shutdownFlowActionAttempt | .nodeRelease | .nodeSignalHandoff =>
      inferInstanceAs (DecidableEq String)
  | .shutdownFlowExecutionWave => inferInstanceAs (DecidableEq (String × Int))
  | .shutdownFlowExecutionGroup => inferInstanceAs (DecidableEq (String × Int × String))

def Kind.identity : (kind : Kind) → kind.Payload → kind.Identity
  | .powerEvent, event => event.eventID
  | .telemetrySnapshot, snapshot => snapshot.snapshotID
  | .capabilityProfileMatch, matched => matched.matchID
  | .capabilityProfileVerification, verification => verification.verificationID
  | .shutdownFlowCompilation, compilation => compilation.compilationID
  | .shutdownFlowDecision, decision => decision.decisionID
  | .shutdownFlowExecution, execution => execution.executionID
  | .shutdownFlowExecutionWave, wave => (wave.executionID, wave.waveIndex)
  | .shutdownFlowExecutionGroup, group => (group.executionID, group.waveIndex, group.groupName)
  | .shutdownFlowActionAttempt, attempt => attempt.attemptID
  | .nodeRelease, release => release.releaseID
  | .nodeSignalHandoff, handoff => handoff.handoffID

def Kind.key : (kind : Kind) → kind.Payload → String
  | .powerEvent, event => event.eventID
  | .telemetrySnapshot, snapshot => snapshot.snapshotID
  | .capabilityProfileMatch, matched => matched.matchID
  | .capabilityProfileVerification, verification => verification.verificationID
  | .shutdownFlowCompilation, compilation => compilation.compilationID
  | .shutdownFlowDecision, decision => decision.decisionID
  | .shutdownFlowExecution, execution => execution.executionID
  | .shutdownFlowExecutionWave, wave => s!"{wave.executionID}/{wave.waveIndex}"
  | .shutdownFlowExecutionGroup, group =>
    s!"{group.executionID}/{group.waveIndex}/{group.groupName}"
  | .shutdownFlowActionAttempt, attempt => attempt.attemptID
  | .nodeRelease, release => release.releaseID
  | .nodeSignalHandoff, handoff => handoff.handoffID

end NutOperator.Audit
