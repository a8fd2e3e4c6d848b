import NutOperator.Execution.Groups

/-! Running one wave: every target is looked up before the first action, then the
groups run in order until one fails or the tier's time is up. -/
namespace NutOperator.Execution

open Data Adaptive Effects
open Planner (quote)

def defaultTargetResolutionTimeout : Duration := 30 * nanosPerSecond

/-- The group a name stands for; the empty group when there is none. -/
def groupNamed (groups : List Group) (name : String) : Group :=
  (groups.find? (·.name = name)).getD {}

theorem groupNamed_of_mem {groups : List Group} {name : String} (h : groups.any (·.name = name)) :
    groupNamed groups name ∈ groups ∧ (groupNamed groups name).name = name := by
  cases hfind : groups.find? (·.name = name) with
  | none =>
    obtain ⟨group, hmem, hname⟩ := List.any_eq_true.mp h
    exact absurd hname (List.find?_eq_none.mp hfind group hmem)
  | some group =>
    rw [groupNamed, hfind]
    exact ⟨List.mem_of_find?_eq_some hfind, by simpa using List.find?_some hfind⟩

def lookupTimeout (group : Group) (budget : TimingBudget) : Duration :=
  let declared := scaleDuration group.timeout budget
  if 0 < declared ∧ declared < defaultTargetResolutionTimeout then declared
  else defaultTargetResolutionTimeout

def lookupTargets (context : Context) (wave : Wave) (group : Group) (name : String)
    (budget : TimingBudget) : Run (Except String (List Target)) := do
  let limited := Context.lookup context name (lookupTimeout group budget)
  let failure := fun (error : String) =>
    s!"resolve wave {wave.index} group {quote name} targets: {error}"
  match ← ask (.resolveTargets limited group) with
  | .error error => pure (.error (failure error))
  | .ok targets =>
    match ← contextErr limited with
    | some error => pure (.error (failure error.text))
    | none => pure (.ok targets)

/-- Groups by name, the latest lookup first. -/
abbrev ResolvedGroups := List (String × Group)

def ResolvedGroups.get (resolved : ResolvedGroups) (name : String) : Group :=
  (resolved.lookup name).getD {}

structure ResolutionFailure where
  (group error : String)

def Executor.resolveNames (executor : Executor) (context : Context) (groups : List Group)
    (wave : Wave) (budget : TimingBudget) :
    List String → ResolvedGroups → Run (Except ResolutionFailure ResolvedGroups)
  | [], resolved => pure (.ok resolved)
  | name :: rest, resolved => do
    let group := groupNamed groups name
    match ← contextErr context with
    | some error => pure (.error { group := name, error := error.text })
    | none =>
      if executor.resolveTargets then do
        match ← lookupTargets context wave group name budget with
        | .error error => pure (.error { group := name, error := error })
        | .ok targets =>
          executor.resolveNames context groups wave budget rest
            ((name, { group with selectedTargets := targets }) :: resolved)
      else executor.resolveNames context groups wave budget rest ((name, group) :: resolved)

def Executor.resolveWaveTargets (executor : Executor) (context : Context) (groups : List Group)
    (wave : Wave) (state : WaveAdaptiveState) : Run (Except ResolutionFailure ResolvedGroups) :=
  executor.resolveNames context groups wave state.budget wave.groups []

def tierPreempted (parentContext actionContext : Context) (policy : TierOverrunPolicy)
    (lowerTierDue : Bool) : Run Bool :=
  if policy = .preempt ∧ lowerTierDue then do
    match ← contextErr parentContext with
    | some _ => pure false
    | none =>
      let error ← contextErr actionContext
      pure (error = some .deadlineExceeded)
  else pure false

def tierOverrunAction (policy : TierOverrunPolicy) (preempted : Bool) : TierOverrunAction :=
  match policy with
  | .overlap => .overlapped
  | .preempt => if preempted then .preempted else .preemptDeadlineElapsed
  | .wait => .waited

def tierWindowOverrunning (window : TierOverrunWindow) (now : Time) : Bool :=
  !(decide (window.effectiveDuration ≤ 0) || decide (window.startedAt = 0)) &&
    decide (window.effectiveDuration < now - window.startedAt)

def tierOverrunRecord (wave : Wave) (window : TierOverrunWindow) (policy : TierOverrunPolicy)
    (action : TierOverrunAction) (lowerTierDue : Bool) (completedAt : Time) : Option TierOverrun :=
  let actual := completedAt - window.startedAt
  let overrun := actual - window.effectiveDuration
  if !lowerTierDue ∨ window.effectiveDuration ≤ 0 ∨ window.startedAt = 0 ∨ overrun ≤ 0 then none
  else
    some
      { waveIndex := wave.index, shutdownTier := window.shutdownTier, policy := policy
        action := action, declaredDuration := window.declaredDuration
        effectiveDuration := window.effectiveDuration, actualDuration := actual
        overrunDuration := overrun }

def tierOverrunDetails (overrun : TierOverrun) : Detail := .fields
    [("waveIndex", .number overrun.waveIndex),
      ("shutdownTier", overrun.shutdownTier.elim .absent .number),
      ("policy", .text overrun.policy.text),
      ("action", .text overrun.action.text),
      ("declaredSeconds", durationSeconds overrun.declaredDuration),
      ("effectiveSeconds", durationSeconds overrun.effectiveDuration),
      ("actualSeconds", durationSeconds overrun.actualDuration),
      ("overrunSeconds", durationSeconds overrun.overrunDuration)]

/-- The group as the wave dispatches it: a sole final handoff is terminal. -/
def dispatchedGroup (config : WaveRunConfig) (wave : Wave) (group : Group) : Group :=
  if group.action = actionAgentShutdown then
    { group with
      nodeReleases := group.nodeReleases.map fun release =>
        { release with
          terminalHandoff := decide (wave.groups.length = 1) && config.terminalWave } }
  else group

def WaveRunConfig.groupRun (config : WaveRunConfig) (wave : Wave) (state : WaveAdaptiveState)
    (tierOverrunning : Bool) : GroupRunConfig :=
  { recordContext := .execution, actionContext := config.actionContext, input := config.input
    executionID := config.executionID, dryRun := config.dryRun, waveIndex := wave.index
    state := state, tierOverrunning := tierOverrunning }

def WaveExecutionResult.absorbGroup (run : WaveExecutionResult) (result : GroupExecutionResult) :
    WaveExecutionResult :=
  let first := result.degraded && decide (run.degradedReason = "")
  { run with
    groups := run.groups + 1, actionAttempts := run.actionAttempts + result.actionAttempts
    nodeReleases := run.nodeReleases + result.nodeReleases
    recordError := joinErrors run.recordError result.recordError
    degraded := run.degraded || result.degraded
    degradedReason := if first then result.degradedReason else run.degradedReason
    degradedMessage := if first then result.degradedMessage else run.degradedMessage }

/-- The group loop of a wave. The flag says that the tier was preempted. -/
def Executor.runGroups (executor : Executor) (config : WaveRunConfig) (wave : Wave)
    (state : WaveAdaptiveState) (resolved : ResolvedGroups) :
    List String → WaveExecutionResult → Run (WaveExecutionResult × Bool)
  | [], run => pure (run, false)
  | name :: rest, run => do
    let group := dispatchedGroup config wave (resolved.get name)
    let time ← now
    let (result, groupErr) ← executor.executeGroup
      (config.groupRun wave state (tierWindowOverrunning config.window time)) group
    let absorbed := run.absorbGroup result
    executor.reportProgress (.groups 1 result.actionAttempts result.nodeReleases)
    let preempted ← tierPreempted .execution config.actionContext config.tierPolicy
      config.lowerTierDue
    if preempted then pure (absorbed, true)
    else
      match groupErr with
      | some error => pure ({ absorbed with err := some error, failedGroup := group.name }, false)
      | none => executor.runGroups config wave state resolved rest absorbed

def Executor.runResolved (executor : Executor) (config : WaveRunConfig) (wave : Wave)
    (state : WaveAdaptiveState) (run : WaveExecutionResult) :
    Except ResolutionFailure ResolvedGroups → Run (WaveExecutionResult × Bool)
  | .error failure =>
    pure ({ run with err := some failure.error, failedGroup := failure.group }, false)
  | .ok resolved => executor.runGroups config wave state resolved wave.groups run

def waveRecord (config : WaveRunConfig) (wave : Wave) (waveRecordID : String) (observedAt : Time)
    (phase : Phase) (completedAt : Option Time) (details : Details) : ShutdownFlowExecutionWave :=
  { waveRecordID := waveRecordID, executionID := config.executionID, observedAt := observedAt
    waveIndex := wave.index, phase := phase, startedAt := some config.waveStart
    completedAt := completedAt, groupNames := wave.groups, details := details }

def wavePhase (run : WaveExecutionResult) (preempted : Bool) : Phase :=
  if preempted then .aborted else if run.err = none then .completed else .failed

def waveDetails (config : WaveRunConfig) (state : WaveAdaptiveState)
    (resolution : Except ResolutionFailure ResolvedGroups) (overrun : Option TierOverrun) :
    Details :=
  mergeDetails (adaptiveStateRecord state)
    [("dryRun", .flag config.dryRun), ("rehearsal", .flag config.input.rehearsal),
      ("tierOverrunPolicy", .text config.tierPolicy.text),
      ("declaredTierSeconds", durationSeconds config.window.declaredDuration),
      ("effectiveTierSeconds", durationSeconds config.window.effectiveDuration),
      ("tierTransitionPending", .flag config.lowerTierDue)] ++
    (match resolution with
      | .error failure =>
        [("targetResolutionError", .text failure.error), ("failedGroup", .text failure.group)]
      | .ok _ => []) ++
    (match overrun with
      | some record => [("tierOverrun", tierOverrunDetails record)]
      | none => [])

def Executor.runWave (executor : Executor) (config : WaveRunConfig) (wave : Wave)
    (state : WaveAdaptiveState) : Run WaveExecutionResult := do
  let waveRecordID ← newID
  let startErr ← record .execution (.wave
    (waveRecord config wave waveRecordID config.waveStart .running none
      (mergeDetails (adaptiveStateRecord state)
        [("dryRun", .flag config.dryRun), ("events", .texts state.events)])))
  let resolution ← executor.resolveWaveTargets config.actionContext config.groups wave state
  let (run, preempted) ← executor.runResolved config wave state { recordError := startErr }
    resolution
  let completedAt ← now
  let overrun := tierOverrunRecord wave config.window config.tierPolicy
    (tierOverrunAction config.tierPolicy preempted) config.lowerTierDue completedAt
  let endErr ← record .execution (.wave
    (waveRecord config wave waveRecordID completedAt (wavePhase run preempted) (some completedAt)
      (waveDetails config state resolution overrun)))
  pure { run with tierOverrun := overrun, recordError := joinErrors run.recordError endErr }

end NutOperator.Execution
