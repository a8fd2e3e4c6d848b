import NutOperator.Adaptive.Timing
import NutOperator.Effects.Program

/-! Executor inputs, results and audit evidence, and what the executor asks of its
surroundings. Times are nanoseconds from the zero time, errors are their texts, and
audit maps are association lists. -/
namespace NutOperator.Execution

open Data Adaptive Effects

/-- Nanoseconds; `0` is the unset time. -/
abbrev Time := Int

inductive Detail where
  | absent
  | flag (value : Bool)
  | number (value : Int)
  | fraction (value : Rat)
  | text (value : String)
  | time (value : Time)
  | items (values : List Detail)
  | fields (entries : List (String × Detail))
deriving Repr

abbrev Details := List (String × Detail)

def Detail.texts (values : List String) : Detail := .items (values.map .text)

def Detail.labels (entries : List (String × String)) : Detail :=
  .fields (entries.map fun entry => (entry.1, .text entry.2))

/-- Entries of `extra` win over entries of `base` with the same key. -/
def mergeDetails (base extra : Details) : Details :=
  base.filter (fun entry => !extra.any fun other => other.1 == entry.1) ++ extra

def joinErrors : Option String → Option String → Option String
  | none, error => error
  | error, none => error
  | some first, some second => some (first ++ "\n" ++ second)

inductive Phase where
  | running
  | completed
  | aborted
  | failed
deriving Repr, DecidableEq

def Phase.text : Phase → String
  | .running => "Running"
  | .completed => "Completed"
  | .aborted => "Aborted"
  | .failed => "Failed"

inductive TierOverrunPolicy where
  | wait
  | overlap
  | preempt
deriving Repr, DecidableEq

def TierOverrunPolicy.text : TierOverrunPolicy → String
  | .wait => "Wait"
  | .overlap => "Overlap"
  | .preempt => "Preempt"

inductive TierOverrunAction where
  | waited
  | overlapped
  | preempted
  | preemptDeadlineElapsed
deriving Repr, DecidableEq

def TierOverrunAction.text : TierOverrunAction → String
  | .waited => "Waited"
  | .overlapped => "Overlapped"
  | .preempted => "Preempted"
  | .preemptDeadlineElapsed => "PreemptDeadlineElapsed"

def actionAgentShutdown : String := "AgentShutdown"

def actionRunHook : String := "RunHook"

def actionWait : String := "Wait"

def modeEnforce : String := "Enforce"

def modeDryRun : String := "DryRun"

def outcomeSimulated : String := "Simulated"

def outcomeSucceeded : String := "Succeeded"

def outcomeBlocked : String := "Blocked"

def outcomeTimedOut : String := "TimedOut"

def defaultSignalPath : String := "/run/power-agent/shutdown.json"

def defaultSignalTTL : Duration := 120 * nanosPerSecond

structure Target where
  (apiVersion kind : String := "")
  «namespace» : String := ""
  name : String := ""
deriving Repr, DecidableEq

structure HookReference where
  «namespace» : String := ""
  name : String := ""
deriving Repr, DecidableEq

structure NodeRelease where
  terminalHandoff : Bool := false
  (controlPlaneNodes quorumMembers : List String := [])
  agentUID : String := ""
  agentGeneration : Int := 0
  (actuatorPolicy nodeName nodePowerAgent signalPath signalSecretKey : String := "")
  (signalSecretName signalSecretNamespace : String := "")
  agentReady : Bool := false
  (readinessReason readinessMessage podName : String := "")
  lastHeartbeatTime : Option Time := none
  telemetryFresh : Bool := false
  telemetryStaleReason : String := ""
  cleared : Bool := false
  clearanceReason : String := ""
  blockingWorkloads : List String := []
deriving Repr, DecidableEq

structure Group where
  (name action : String := "")
  params : List (String × String) := []
  hookRef : Option HookReference := none
  selectedTargets : List Target := []
  nodeReleases : List NodeRelease := []
  details : Details := []
  (timeout waitDuration : Duration := 0)
deriving Repr

structure Wave where
  index : Int := 0
  communicationBarrier : Bool := false
  shutdownTier : Option Int := none
  duration : Duration := 0
  groups : List String := []
deriving Repr, DecidableEq

structure AdaptiveInput where
  parameters : Parameters := {}
  pointer : PointerState := {}
  timing : TimingState := {}
  observation : PowerObservation := {}
  (finalTier startTier : Int := 0)
deriving Repr, DecidableEq

structure Input where
  (executionID deduplicationKey : String := "")
  observedAt : Time := 0
  (shutdownFlow triggerDecisionID mode reason planConfigHash inputHash : String := "")
  (approved dryRun rehearsal : Bool := false)
  (rehearsalRequest rehearsalReason : String := "")
  selectedUPSDevices : List String := []
  signalTTL : Duration := 0
  tierOverrunPolicy : Option TierOverrunPolicy := none
  waves : List Wave := []
  groups : List Group := []
  adaptive : AdaptiveInput := {}
deriving Repr

structure Action where
  (executionID shutdownFlow triggerReason planConfigHash : String)
  selectedUPSDevices : List String
  waveIndex : Int
  group : Group
  dryRun : Bool
  powerObservation : PowerObservation
  tierOverrunning : Bool
deriving Repr

/-- A node's signal publication attempt, not an observed halt. -/
structure NodeSignalResult where
  (nodeName nodePowerAgent signalSecretNamespace signalSecretName signalSecretKey : String := "")
  published : Bool := false
  error : String := ""
  issuedAt : Time := 0
  skipSync : Bool := false
deriving Repr, DecidableEq

structure ActionOutcome where
  (outcome error : String := "")
  details : Details := []
  signalResults : List NodeSignalResult := []
deriving Repr

structure TierOverrun where
  waveIndex : Int
  shutdownTier : Option Int
  policy : TierOverrunPolicy
  action : TierOverrunAction
  (declaredDuration effectiveDuration actualDuration overrunDuration : Duration)
deriving Repr, DecidableEq

structure TierOverrunWindow where
  shutdownTier : Option Int := none
  startedAt : Time := 0
  (declaredDuration effectiveDuration : Duration := 0)
deriving Repr, DecidableEq

structure AdaptiveResult where
  pointer : PointerState := {}
  timing : TimingState := {}
  observation : PowerObservation := {}
  events : List String := []
deriving Repr, DecidableEq

structure Result where
  executionID : String := ""
  phase : Option Phase := none
  (dryRun rehearsal : Bool := false)
  (waves groups actionAttempts nodeReleases : Nat := 0)
  degraded : Bool := false
  (degradedReason degradedMessage : String := "")
  tierOverruns : List TierOverrun := []
  recordError : Option String := none
  adaptive : AdaptiveResult := {}
deriving Repr

structure WaveExecutionResult where
  (groups actionAttempts nodeReleases : Nat := 0)
  (recordError err : Option String := none)
  failedGroup : String := ""
  degraded : Bool := false
  (degradedReason degradedMessage : String := "")
  tierOverrun : Option TierOverrun := none
deriving Repr

structure GroupExecutionResult where
  (actionAttempts nodeReleases : Nat := 0)
  recordError : Option String := none
  degraded : Bool := false
  (degradedReason degradedMessage : String := "")
deriving Repr

structure WaveAdaptiveState where
  mode : Option TimingMode
  pointer : PointerState
  timing : TimingState
  observation : PowerObservation
  movement : PointerMovement
  transition : TimingTransition
  events : List String
  budget : TimingBudget
deriving Repr

structure ShutdownFlowExecution where
  (executionID deduplicationKey : String)
  observedAt : Time
  (shutdownFlow triggerDecisionID mode : String)
  phase : Phase
  (reason planConfigHash inputHash : String)
  (startedAt completedAt : Option Time := none)
  (dryRun approved : Bool)
  (approvalEvidence revalidation details : Details)
deriving Repr

structure ShutdownFlowExecutionWave where
  (waveRecordID executionID : String)
  observedAt : Time
  waveIndex : Int
  phase : Phase
  (startedAt completedAt : Option Time := none)
  groupNames : List String
  details : Details
deriving Repr

structure ShutdownFlowExecutionGroup where
  (groupRecordID executionID : String)
  observedAt : Time
  waveIndex : Int
  (groupName action : String)
  phase : Phase
  (startedAt completedAt : Option Time := none)
  selectedTargets : List (List (String × String))
  details : Details
deriving Repr

structure ShutdownFlowActionAttempt where
  (attemptID executionID : String)
  observedAt : Time
  waveIndex : Option Int
  (groupName action : String)
  (startedAt completedAt : Option Time := none)
  (outcome error : String)
  dryRun : Bool
  details : Details
deriving Repr

structure NodeReleaseRecord where
  (releaseID executionID : String)
  observedAt : Time
  (nodeName nodePowerAgent planConfigHash : String)
  (approved released : Bool)
  reason : String
  (clearance details : Details)
deriving Repr

structure NodeSignalHandoff where
  (handoffID executionID : String)
  observedAt : Time
  (nodeName nodePowerAgent signalPath : String)
  signalPayload : Details
  staleAfter : Option Time
  accepted : Bool
  reason : String
  details : Details
deriving Repr

inductive AuditRecord where
  | execution (record : ShutdownFlowExecution)
  | wave (record : ShutdownFlowExecutionWave)
  | group (record : ShutdownFlowExecutionGroup)
  | actionAttempt (record : ShutdownFlowActionAttempt)
  | nodeRelease (record : NodeReleaseRecord)
  | nodeSignalHandoff (record : NodeSignalHandoff)
deriving Repr

inductive Context where
  | execution
  /-- The tier deadline of a preempted tier. -/
  | tier (deadline : Time)
  /-- A group's own timeout. -/
  | group (parent : Context) (name : String) (timeout : Duration)
  /-- The limit on looking up a group's targets. -/
  | lookup (parent : Context) (name : String) (timeout : Duration)
  /-- Outlives the cancellation of its parent. -/
  | detached (parent : Context) (timeout : Duration)
deriving Repr, DecidableEq

inductive ContextError where
  | canceled
  | deadlineExceeded
deriving Repr, DecidableEq

def ContextError.text : ContextError → String
  | .canceled => "context canceled"
  | .deadlineExceeded => "context deadline exceeded"

structure WaveRunConfig where
  terminalWave : Bool
  input : Input
  groups : List Group
  (executionID mode : String)
  dryRun : Bool
  tierPolicy : TierOverrunPolicy
  window : TierOverrunWindow
  lowerTierDue : Bool
  waveStart : Time
  actionContext : Context

inductive Progress where
  | groups (groups actionAttempts nodeReleases : Nat)
  | adaptive (result : AdaptiveResult)

inductive WaveSignal where
  | cancelled
  | finished (run : WaveExecutionResult)
  | due

inductive Request where
  | now
  | newID
  | observe (context : Context)
  | approve (context : Context)
  | resolveTargets (context : Context) (group : Group)
  | refreshNodeRelease (context : Context) (release : NodeRelease)
  | sleep (context : Context) (duration : Duration)
  | runAction (context : Context) (action : Action)
  | contextErr (context : Context)
  | record (context : Context) (record : AuditRecord)
  | report (progress : Progress)
  | cancelExecution
  | launchWave (slot : Nat) (config : WaveRunConfig) (wave : Wave) (state : WaveAdaptiveState)
  | selectWave (slot : Nat) (dueAfter : Duration)
  | receiveWave (slot : Nat)

@[reducible] def Reply : Request → Type
  | .now => Time
  | .newID => String
  | .observe _ => Except String PowerObservation
  | .approve _ => Except String Bool
  | .resolveTargets _ _ => Except String (List Target)
  | .refreshNodeRelease _ _ => Except String NodeRelease
  | .sleep _ _ => Option String
  | .runAction _ _ => ActionOutcome × Option String
  | .contextErr _ => Option ContextError
  | .record _ _ => Option String
  | .report _ => Unit
  | .cancelExecution => Unit
  | .launchWave _ _ _ _ => Unit
  | .selectWave _ _ => WaveSignal
  | .receiveWave _ => WaveExecutionResult

abbrev Run := Program Request Reply

abbrev Trace := List (Exchange Reply)

def ask (request : Request) : Run (Reply request) := Program.request request

def now : Run Time := ask .now

def newID : Run String := ask .newID

def contextErr (context : Context) : Run (Option ContextError) := ask (.contextErr context)

def record (context : Context) (entry : AuditRecord) : Run (Option String) :=
  ask (.record context entry)

structure Executor where
  (progress runner observer approvalChecker refreshNodeRelease resolveTargets : Bool := false)
deriving Repr, DecidableEq

def Executor.reportProgress (executor : Executor) (progress : Progress) : Run Unit :=
  if executor.progress then ask (.report progress) else pure ()

end NutOperator.Execution
