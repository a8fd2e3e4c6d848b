import NutOperator.Execution.Waves

/-! A whole execution: validation, the wave loop under each tier-overrun policy,
and the terminal record. -/
namespace NutOperator.Execution

open Data Adaptive Effects
open Planner (quote)

def indexGroup (indexed : List Group) (group : Group) : Except String (List Group) :=
  if group.name = "" ∨ group.action = "" then .error "executor group requires name and action"
  else if indexed.any (·.name = group.name) then
    .error s!"duplicate executor group {quote group.name}"
  else .ok (indexed ++ [group])

def indexGroups (groups : List Group) : Except String (List Group) := groups.foldlM indexGroup []

def checkWaveGroups (groups : List Group) (wave : Wave) : Except String Unit :=
  if wave.groups = [] then .error s!"compiled wave {wave.index} requires at least one group"
  else
    match wave.groups.find? fun name => !groups.any (·.name = name) with
    | some name => .error s!"compiled wave {wave.index} references unknown group {quote name}"
    | none => .ok ()

def validateExecuteInput (input : Input) : Except String (List Group) :=
  if input.shutdownFlow = "" ∨ input.planConfigHash = "" then
    .error "executor input requires shutdown flow and plan config hash"
  else if input.waves = [] then .error "executor input requires at least one compiled wave"
  else do
    let groups ← indexGroups input.groups
    input.waves.forM (checkWaveGroups groups)
    pure groups

private theorem eq_append_of_indexGroup {groups initial indexed : List Group}
    (h : groups.foldlM indexGroup initial = .ok indexed) : indexed = initial ++ groups := by
  induction groups generalizing initial with
  | nil =>
    rw [List.append_nil]
    exact (Except.ok.inj h).symm
  | cons group rest ih =>
    rw [List.foldlM_cons] at h
    obtain ⟨next, hstep, hrest⟩ := exists_ok_of_bind h
    have hnext : next = initial ++ [group] := by
      unfold indexGroup at hstep
      split at hstep
      · cases hstep
      · split at hstep
        · cases hstep
        · exact (Except.ok.inj hstep).symm
    rw [ih hrest, hnext, List.append_assoc, List.singleton_append]

theorem any_of_checkWaveGroups {groups : List Group} {wave : Wave}
    (h : checkWaveGroups groups wave = .ok ()) : ∀ name ∈ wave.groups,
    groups.any (·.name = name) := by
  unfold checkWaveGroups at h
  split at h
  · cases h
  · split at h
    · cases h
    · rename_i hfind
      intro name hmem
      simpa using List.find?_eq_none.mp hfind name hmem

theorem declared_of_validate {input : Input} {groups : List Group}
    (h : validateExecuteInput input = .ok groups) :
    groups = input.groups ∧
      ∀ wave ∈ input.waves, ∀ name ∈ wave.groups, input.groups.any (·.name = name) := by
  unfold validateExecuteInput at h
  split at h
  · cases h
  · split at h
    · cases h
    · obtain ⟨indexed, hidx, hrest⟩ := exists_ok_of_bind h
      obtain ⟨passed, hcheck, hg⟩ := exists_ok_of_bind hrest
      have hi : indexed = input.groups := eq_append_of_indexGroup hidx
      refine ⟨(Except.ok.inj hg).symm.trans hi, fun wave hwave => ?_⟩
      rw [← hi]
      exact any_of_checkWaveGroups (eq_ok_of_forM_eq_ok hcheck wave hwave)

/-- Equality up to the case of ASCII letters, which is all that folds to the
letters of `Enforce`. -/
def equalFold (left right : String) : Bool :=
  left.toList.map Char.toLower = right.toList.map Char.toLower

def effectiveDryRun (input : Input) : Bool :=
  input.dryRun || !equalFold input.mode modeEnforce || !input.approved

def effectiveTierOverrunPolicy (policy : Option TierOverrunPolicy) : TierOverrunPolicy :=
  policy.getD .wait

def executionDetails (input : Input) (details : Details) : Details := mergeDetails details
    ([("selectedUPSDevices", .texts input.selectedUPSDevices),
        ("rehearsal", .flag input.rehearsal)] ++
      (if input.rehearsalRequest = "" then []
        else [("rehearsalRequest", .text input.rehearsalRequest)]) ++
      (if input.rehearsalReason = "" then []
        else [("rehearsalReason", .text input.rehearsalReason)]))

structure ExecutionRun where
  input : Input
  groups : List Group
  (executionID mode reason : String)
  dryRun : Bool
  startedAt : Time
  tierPolicy : TierOverrunPolicy

/-- What the wave loop carries from wave to wave. A revoked approval stays revoked. -/
structure Dispatch where
  result : Result
  recordErr : Option String := none
  adaptiveInput : AdaptiveInput
  tierWindow : TierOverrunWindow := {}
  pending : List Nat := []
  approvalRevoked : Bool := false

def ExecutionRun.executionRecord (run : ExecutionRun) (observedAt : Time) (phase : Phase)
    (reason : String) (completedAt : Option Time) (details : Details) : ShutdownFlowExecution :=
  { executionID := run.executionID, deduplicationKey := run.input.deduplicationKey
    observedAt := observedAt, shutdownFlow := run.input.shutdownFlow
    triggerDecisionID := run.input.triggerDecisionID, mode := run.mode, phase := phase
    reason := reason, planConfigHash := run.input.planConfigHash, inputHash := run.input.inputHash
    startedAt := some run.startedAt, completedAt := completedAt, dryRun := run.dryRun
    approved := run.input.approved
    approvalEvidence := [("approved", .flag run.input.approved), ("requestedMode", .text run.mode),
        ("effectiveDryRun", .flag run.dryRun)]
    revalidation := [("inputHash", .text run.input.inputHash)]
    details := executionDetails run.input details }

def Result.absorbWave (result : Result) (run : WaveExecutionResult) : Result :=
  let first := run.degraded && decide (result.degradedReason = "")
  { result with
    groups := result.groups + run.groups
    actionAttempts := result.actionAttempts + run.actionAttempts
    nodeReleases := result.nodeReleases + run.nodeReleases
    degraded := result.degraded || run.degraded
    degradedReason := if first then run.degradedReason else result.degradedReason
    degradedMessage := if first then run.degradedMessage else result.degradedMessage
    tierOverruns := result.tierOverruns ++ run.tierOverrun.toList }

/-- What the waves that were still running came to. The first error wins. -/
structure Drained where
  result : Result
  firstErr : Option String := none
  failedGroup : String := ""
  recordErr : Option String := none

def drainPending : List Nat → Drained → Run Drained
  | [], drained => pure drained
  | slot :: rest, drained => do
    let run ← ask (.receiveWave slot)
    let first := run.err.isSome && drained.firstErr.isNone
    drainPending rest
      { result := drained.result.absorbWave run
        firstErr := if first then run.err else drained.firstErr
        failedGroup := if first then run.failedGroup else drained.failedGroup
        recordErr := joinErrors drained.recordErr run.recordError }

def Dispatch.waitForPending (state : Dispatch) : Run Drained :=
  drainPending state.pending { result := state.result }

def ExecutionRun.recordAborted (run : ExecutionRun) (result : Result) (error : Option String)
    (failedGroup : String) (recordErr : Option String) : Run (Result × Option String) := do
  let cancelled ← contextErr .execution
  let context := if cancelled.isSome then Context.detached .execution nanosPerSecond
    else .execution
  let completedAt ← now
  let abortErr ← record context (.execution
    (run.executionRecord completedAt .aborted (error.getD "") (some completedAt)
      (if failedGroup = "" then [] else [("failedGroup", .text failedGroup)])))
  pure ({ result with phase := some .aborted, recordError := joinErrors recordErr abortErr }, error)

def ExecutionRun.recordObservationFailure (run : ExecutionRun) (result : Result) (cancelled : Bool)
    (error recordErr : Option String) : Run (Result × Option String) :=
  if cancelled then run.recordAborted result error "" recordErr
  else pure ({ result with phase := some .failed, recordError := recordErr }, error)

def ExecutionRun.recordCompletion (run : ExecutionRun) (result : Result) : Run (Option String) := do
  let completedAt ← now
  record .execution (.execution
    (run.executionRecord completedAt .completed run.reason (some completedAt)
      ([("waveCount", .number run.input.waves.length), ("groupCount", .number result.groups),
          ("actionAttempts", .number result.actionAttempts),
          ("nodeReleases", .number result.nodeReleases)] ++
        (if result.tierOverruns = [] then []
          else [("tierOverruns", .items (result.tierOverruns.map tierOverrunDetails))]))))

def ExecutionRun.finishExecution (run : ExecutionRun) (result : Result)
    (recordErr : Option String) : Run (Result × Option String) := do
  match ← contextErr .execution with
  | some error => run.recordAborted result (some error.text) "" recordErr
  | none =>
    let completionErr ← run.recordCompletion result
    pure ({ result with recordError := joinErrors recordErr completionErr }, none)

def ExecutionRun.finish (run : ExecutionRun) (state : Dispatch) : Run (Result × Option String) := do
  let drained ← state.waitForPending
  let recordErr := joinErrors state.recordErr drained.recordErr
  match drained.firstErr with
  | some error => run.recordAborted drained.result (some error) drained.failedGroup recordErr
  | none => run.finishExecution drained.result recordErr

inductive Step where
  | ended (outcome : Result × Option String)
  | next (state : Dispatch)

def terminalHandoffWave (groups : List Group) (wave : Wave) (later : List Wave) : Bool :=
  match later, wave.groups with
  | [], [name] => decide ((groupNamed groups name).action = actionAgentShutdown)
  | _, _ => false

def lowerTierDueAfter (wave : Wave) (later : List Wave) : Bool :=
  match later with
  | [] => false
  | following :: _ =>
    match wave.shutdownTier, following.shutdownTier with
    | some current, some next => decide (next < current)
    | _, _ => false

def ExecutionRun.drainBefore (run : ExecutionRun) (wave : Wave) (later : List Wave)
    (state : Dispatch) : Run Step :=
  if wave.communicationBarrier || terminalHandoffWave run.groups wave later then do
    let drained ← state.waitForPending
    let recordErr := joinErrors state.recordErr drained.recordErr
    match drained.firstErr with
    | some error => do
      let outcome ← run.recordAborted drained.result (some error) drained.failedGroup recordErr
      pure (.ended outcome)
    | none =>
      pure (.next { state with result := drained.result, recordErr := recordErr, pending := [] })
  else pure (.next state)

/-- A failed power read ends the execution once its waves have been drained. -/
def ExecutionRun.observationFailed (run : ExecutionRun) (state : Dispatch) (error : String) :
    Run Step := do
  let cancelled ← contextErr .execution
  ask .cancelExecution
  let drained ← state.waitForPending
  let outcome ← run.recordObservationFailure drained.result cancelled.isSome
    (joinErrors (some error) drained.firstErr) (joinErrors state.recordErr drained.recordErr)
  pure (.ended outcome)

/-- Approval is read again at every boundary while there is enforcement to lose;
a failed read revokes it. -/
def Executor.approvalRevokedAt (executor : Executor) (dryRun approvalRevoked : Bool) : Run Bool :=
  if !(dryRun || approvalRevoked) && executor.approvalChecker then do
    match ← ask (.approve .execution) with
    | .ok true => pure approvalRevoked
    | _ => pure true
  else pure approvalRevoked

def extendWindow (window : TierOverrunWindow) (wave : Wave) (waveStart : Time)
    (budget : TimingBudget) : TierOverrunWindow :=
  let current := if window.shutdownTier = wave.shutdownTier then window
    else { shutdownTier := wave.shutdownTier, startedAt := waveStart }
  { current with
    declaredDuration := current.declaredDuration + wave.duration
    effectiveDuration := current.effectiveDuration + scaleDuration wave.duration budget }

def firstNonEmpty (first second : String) : String :=
  if first = "" then second else first

/-- Folds a finished wave in. An error drains the others and aborts. -/
def ExecutionRun.handleWaveResult (run : ExecutionRun) (state : Dispatch)
    (finished : WaveExecutionResult) : Run Step := do
  let absorbed := { state with
    result := state.result.absorbWave finished
    recordErr := joinErrors state.recordErr finished.recordError }
  match finished.err with
  | none => pure (.next absorbed)
  | some error =>
    let drained ← absorbed.waitForPending
    let outcome ← run.recordAborted drained.result (joinErrors (some error) drained.firstErr)
      (firstNonEmpty finished.failedGroup drained.failedGroup)
      (joinErrors absorbed.recordErr drained.recordErr)
    pure (.ended outcome)

def Step.closeWindow (lowerTierDue : Bool) : Step → Step
  | .ended outcome => .ended outcome
  | .next state => .next (if lowerTierDue then { state with tierWindow := {} } else state)

def ExecutionRun.overlapWave (run : ExecutionRun) (state : Dispatch) (config : WaveRunConfig)
    (slot : Nat) (wave : Wave) (waveState : WaveAdaptiveState) : Run Step := do
  ask (.launchWave slot config wave waveState)
  let time ← now
  let left := { state with pending := state.pending ++ [slot], tierWindow := {} }
  let dueAfter := config.window.startedAt + config.window.effectiveDuration - time
  if dueAfter ≤ 0 then pure (.next left)
  else
    match ← ask (.selectWave slot dueAfter) with
    | .cancelled => do
      let drained ← left.waitForPending
      let error ← contextErr .execution
      let outcome ← run.recordAborted drained.result
        (joinErrors (error.map ContextError.text) drained.firstErr) drained.failedGroup
        (joinErrors state.recordErr drained.recordErr)
      pure (.ended outcome)
    | .finished finished => do
      let step ← run.handleWaveResult state finished
      pure (step.closeWindow config.lowerTierDue)
    | .due => pure (.next left)

def Executor.awaitWave (executor : Executor) (run : ExecutionRun) (state : Dispatch)
    (config : WaveRunConfig) (wave : Wave) (waveState : WaveAdaptiveState) : Run Step := do
  let finished ← executor.runWave config wave waveState
  let step ← run.handleWaveResult state finished
  pure (step.closeWindow config.lowerTierDue)

def waveActionContext (policy : TierOverrunPolicy) (lowerTierDue : Bool)
    (window : TierOverrunWindow) : Context :=
  if policy = .preempt ∧ lowerTierDue ∧ 0 < window.effectiveDuration then
    .tier (window.startedAt + window.effectiveDuration)
  else .execution

def ExecutionRun.waveRun (run : ExecutionRun) (wave : Wave) (later : List Wave) (dryRun : Bool)
    (window : TierOverrunWindow) (waveStart : Time) : WaveRunConfig :=
  { terminalWave := later.isEmpty, input := run.input, groups := run.groups
    executionID := run.executionID, mode := run.mode, dryRun := dryRun, tierPolicy := run.tierPolicy
    window := window, lowerTierDue := lowerTierDueAfter wave later, waveStart := waveStart
    actionContext := waveActionContext run.tierPolicy (lowerTierDueAfter wave later) window }

def Dispatch.observed (state : Dispatch) (waveState : WaveAdaptiveState) (approvalRevoked : Bool) :
    Dispatch :=
  { state with
    approvalRevoked := approvalRevoked, adaptiveInput := { state.adaptiveInput with
      pointer := waveState.pointer, timing := waveState.timing
      observation := waveState.observation }
    result := { state.result with
      adaptive := adaptiveResultFrom state.result.adaptive waveState } }

def Executor.launch (executor : Executor) (run : ExecutionRun) (slot : Nat) (wave : Wave)
    (later : List Wave) (state : Dispatch) (waveState : WaveAdaptiveState) : Run Step := do
  let approvalRevoked ← executor.approvalRevokedAt run.dryRun state.approvalRevoked
  let observed := state.observed waveState approvalRevoked
  executor.reportProgress (.adaptive observed.result.adaptive)
  let waveStart ← now
  let window := extendWindow state.tierWindow wave waveStart waveState.budget
  let config := run.waveRun wave later (run.dryRun || approvalRevoked) window waveStart
  let ready := { observed with tierWindow := window }
  if run.tierPolicy = .overlap ∧ config.lowerTierDue ∧ 0 < window.effectiveDuration then
    run.overlapWave ready config slot wave waveState
  else executor.awaitWave run ready config wave waveState

def Executor.dispatchWave (executor : Executor) (run : ExecutionRun) (slot : Nat) (wave : Wave)
    (later : List Wave) (state : Dispatch) : Run Step := do
  match ← run.drainBefore wave later state with
  | .ended outcome => pure (.ended outcome)
  | .next drained =>
    match ← executor.evaluateWave .execution drained.adaptiveInput wave
      (remainingPlanDuration (wave :: later)) with
    | .error error => run.observationFailed drained error
    | .ok waveState => executor.launch run slot wave later drained waveState

def Executor.dispatchWaves (executor : Executor) (run : ExecutionRun) :
    Nat → List Wave → Dispatch → Run (Result × Option String)
  | _, [], state => run.finish state
  | slot, wave :: later, state => do
    match ← executor.dispatchWave run slot wave later state with
    | .ended outcome => pure outcome
    | .next state => executor.dispatchWaves run (slot + 1) later state

def orNewID (executionID : String) : Run String :=
  if executionID = "" then newID else pure executionID

def orNow (observedAt : Time) : Run Time :=
  if observedAt = 0 then now else pure observedAt

def executionDefaults (input : Input) (groups : List Group) : Run ExecutionRun := do
  let executionID ← orNewID input.executionID
  let observedAt ← orNow input.observedAt
  pure
    { input := input, groups := groups, executionID := executionID
      mode := if input.mode = "" then modeDryRun else input.mode
      reason := if input.reason = "" then "TriggerEligible" else input.reason
      dryRun := effectiveDryRun input, startedAt := observedAt
      tierPolicy := effectiveTierOverrunPolicy input.tierOverrunPolicy }

def Executor.execute (executor : Executor) (input : Input) : Run (Result × Option String) :=
  match validateExecuteInput input with
  | .error error => pure ({}, some error)
  | .ok groups => do
    let run ← executionDefaults input groups
    let startErr ← record .execution (.execution
      (run.executionRecord run.startedAt .running run.reason none
        [("waveCount", .number input.waves.length)]))
    executor.dispatchWaves run 0 input.waves
      { result :=
          { executionID := run.executionID, phase := some .completed, dryRun := run.dryRun
            rehearsal := input.rehearsal, waves := input.waves.length }
        recordErr := startErr, adaptiveInput := input.adaptive }

end NutOperator.Execution
