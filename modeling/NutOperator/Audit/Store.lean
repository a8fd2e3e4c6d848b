import NutOperator.Audit.Replay

/-! The PostgreSQL store behind the audit writer. Immutable records ignore a conflict
on their identity; executions, waves and groups overwrite their row. -/
namespace NutOperator.Audit

open Execution
open Planner (quote)

def Kind.observedAt : (kind : Kind) → kind.Payload → Time
  | .powerEvent, event => event.observedAt
  | .telemetrySnapshot, snapshot => snapshot.observedAt
  | .capabilityProfileMatch, matched => matched.observedAt
  | .capabilityProfileVerification, verification => verification.observedAt
  | .shutdownFlowCompilation, compilation => compilation.observedAt
  | .shutdownFlowDecision, decision => decision.observedAt
  | .shutdownFlowExecution, execution => execution.observedAt
  | .shutdownFlowExecutionWave, wave => wave.observedAt
  | .shutdownFlowExecutionGroup, group => group.observedAt
  | .shutdownFlowActionAttempt, attempt => attempt.observedAt
  | .nodeRelease, release => release.observedAt
  | .nodeSignalHandoff, handoff => handoff.observedAt

def Kind.setObservedAt (time : Time) : (kind : Kind) → kind.Payload → kind.Payload
  | .powerEvent, event => { event with observedAt := time }
  | .telemetrySnapshot, snapshot => { snapshot with observedAt := time }
  | .capabilityProfileMatch, matched => { matched with observedAt := time }
  | .capabilityProfileVerification, verification => { verification with observedAt := time }
  | .shutdownFlowCompilation, compilation => { compilation with observedAt := time }
  | .shutdownFlowDecision, decision => { decision with observedAt := time }
  | .shutdownFlowExecution, execution => { execution with observedAt := time }
  | .shutdownFlowExecutionWave, wave => { wave with observedAt := time }
  | .shutdownFlowExecutionGroup, group => { group with observedAt := time }
  | .shutdownFlowActionAttempt, attempt => { attempt with observedAt := time }
  | .nodeRelease, release => { release with observedAt := time }
  | .nodeSignalHandoff, handoff => { handoff with observedAt := time }

/-- The row of an insert. An unset time is the time of the write. -/
def Kind.values (kind : Kind) (now : Time) (payload : kind.Payload) : kind.Payload :=
  if kind.observedAt payload = 0 then kind.setObservedAt now payload else payload

def Kind.required : (kind : Kind) → kind.Payload → Option String
  | .powerEvent, event =>
    if event.eventID = "" then some "power event requires event ID"
    else if event.eventType = "" ∨ event.severity = "" ∨ event.sourceKind = "" ∨
        event.sourceName = "" ∨ event.message = "" then
      some "power event requires event type, severity, source, and message"
    else none
  | .telemetrySnapshot, snapshot =>
    if snapshot.snapshotID = "" ∨ snapshot.upsDevice = "" then
      some "telemetry snapshot requires snapshot ID and UPS device"
    else none
  | .capabilityProfileMatch, matched =>
    if matched.matchID = "" ∨ matched.upsDevice = "" ∨ matched.profileID = "" ∨
        matched.profileVersion = "" ∨ matched.profileSource = "" ∨ matched.matchTier = "" then
      some "capability profile match requires match ID, UPS device, profile, source, and tier"
    else none
  | .capabilityProfileVerification, verification =>
    if verification.verificationID = "" ∨ verification.upsDevice = "" ∨
        verification.profileID = "" ∨ verification.profileVersion = "" ∨
        verification.profileSource = "" then
      some
        "capability profile verification requires verification ID, UPS device, profile, and source"
    else none
  | .shutdownFlowCompilation, compilation =>
    if compilation.compilationID = "" ∨ compilation.shutdownFlow = "" then
      some "shutdown flow compilation requires compilation ID and flow"
    else if compilation.accepted ∧ compilation.configHash = "" then
      some "accepted shutdown flow compilation requires config hash"
    else none
  | .shutdownFlowDecision, decision =>
    if decision.decisionID = "" ∨ decision.shutdownFlow = "" ∨ decision.triggerType = "" ∨
        decision.mode = "" ∨ decision.decision = "" ∨ decision.reason = "" then
      some ("shutdown flow decision requires decision ID, flow, trigger, mode, decision, " ++
        "and reason")
    else none
  | .shutdownFlowExecution, execution =>
    if execution.executionID = "" ∨ execution.shutdownFlow = "" ∨ execution.mode = "" ∨
        execution.phase.text = "" ∨ execution.planConfigHash = "" then
      some "shutdown flow execution requires execution ID, flow, mode, phase, and plan config hash"
    else none
  | .shutdownFlowExecutionWave, wave =>
    if wave.waveRecordID = "" ∨ wave.executionID = "" ∨ wave.phase.text = "" then
      some "shutdown flow execution wave requires wave record ID, execution ID, and phase"
    else none
  | .shutdownFlowExecutionGroup, group =>
    if group.groupRecordID = "" ∨ group.executionID = "" ∨ group.groupName = "" ∨
        group.action = "" ∨ group.phase.text = "" then
      some ("shutdown flow execution group requires group record ID, execution ID, group, " ++
        "action, and phase")
    else none
  | .shutdownFlowActionAttempt, attempt =>
    if attempt.attemptID = "" ∨ attempt.executionID = "" ∨ attempt.action = "" ∨
        attempt.outcome = "" then
      some "shutdown flow action attempt requires attempt ID, execution ID, action, and outcome"
    else none
  | .nodeRelease, release =>
    if release.releaseID = "" ∨ release.executionID = "" ∨ release.nodeName = "" ∨
        release.reason = "" then
      some "node release record requires release ID, execution ID, node name, and reason"
    else none
  | .nodeSignalHandoff, handoff =>
    if handoff.handoffID = "" ∨ handoff.executionID = "" ∨ handoff.nodeName = "" ∨
        handoff.reason = "" then
      some "node signal handoff requires handoff ID, execution ID, node name, and reason"
    else none

def Kind.label : (kind : Kind) → kind.Payload → String
  | .powerEvent, event => s!"power event {quote event.eventID}"
  | .telemetrySnapshot, snapshot => s!"telemetry snapshot {quote snapshot.snapshotID}"
  | .capabilityProfileMatch, matched => s!"capability profile match {quote matched.matchID}"
  | .capabilityProfileVerification, verification =>
    s!"capability profile verification {quote verification.verificationID}"
  | .shutdownFlowCompilation, compilation =>
    s!"shutdown flow compilation {quote compilation.compilationID}"
  | .shutdownFlowDecision, decision => s!"shutdown flow decision {quote decision.decisionID}"
  | .shutdownFlowExecution, execution => s!"shutdown flow execution {quote execution.executionID}"
  | .shutdownFlowExecutionWave, wave => s!"shutdown flow execution wave {quote wave.waveRecordID}"
  | .shutdownFlowExecutionGroup, group =>
    s!"shutdown flow execution group {quote group.groupRecordID}"
  | .shutdownFlowActionAttempt, attempt =>
    s!"shutdown flow action attempt {quote attempt.attemptID}"
  | .nodeRelease, release => s!"node release {quote release.releaseID}"
  | .nodeSignalHandoff, handoff => s!"node signal handoff {quote handoff.handoffID}"

def Kind.onConflict : (kind : Kind) → (stored excluded : kind.Payload) → kind.Payload
  | .shutdownFlowExecution, _, excluded => excluded
  | .shutdownFlowExecutionWave, stored, excluded =>
    { excluded with waveRecordID := stored.waveRecordID }
  | .shutdownFlowExecutionGroup, stored, excluded =>
    { excluded with groupRecordID := stored.groupRecordID }
  | _, stored, _ => stored

structure Store where
  rows : (kind : Kind) → kind.Identity → Option kind.Payload := fun _ _ => none
  inserts : List Record := []

def Kind.insertRow (kind : Kind) (excluded : kind.Payload) :
    Option kind.Payload → Option kind.Payload
  | none => some excluded
  | some stored => some (kind.onConflict stored excluded)

def Store.insert (store : Store) (kind : Kind) (excluded : kind.Payload) : Store :=
  { rows := Function.update store.rows kind (Function.update (store.rows kind)
      (kind.identity excluded) (kind.insertRow excluded (store.rows kind (kind.identity excluded))))
    inserts := store.inserts ++ [⟨kind, excluded⟩] }

/-- One method of the store for each kind. The database may refuse any insert. -/
def Store.record (store : Store) (record : Record) (now : Time) (execErr : Option String) :
    Option String × Store :=
  match record.1.required record.2 with
  | some error => (some error, store)
  | none =>
    match execErr with
    | some error => (some s!"record {record.1.label record.2}: {error}", store)
    | none => (none, store.insert record.1 (record.1.values now record.2))

def sqlStore : PrimaryWriter Store := fun store record error next =>
  ∃ now execErr, store.record record now execErr = (error, next)

end NutOperator.Audit
