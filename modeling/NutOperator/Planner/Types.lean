import Mathlib.Algebra.Order.Ring.Int
import Mathlib.Data.List.Basic

/-! Planner inputs and artifacts. Optional pointers of the source are `Option`,
string sets and slices are lists, and durations are integer nanoseconds. -/
namespace NutOperator.Planner

abbrev Duration := Int

structure TierDefinition where
  tier : Int
  (name description : String := "")
deriving Repr, DecidableEq

structure TierSelector where
  name : String
  subject : String := ""
  tier : Int
  hash : String := ""
deriving Repr, DecidableEq

/-- Default tiers for groups without an explicit one. Higher tiers stop
earlier; tier 0 is last-ditch and no flow may target it. -/
structure TierPolicy where
  labelKey : String := ""
  defaultTier : Option Int := none
  definitions : List TierDefinition := []
  selectorRules : List TierSelector := []
deriving Repr, DecidableEq

structure Trigger where
  type : String
  fallbackType : String := ""
  (upsDevices powerDomains : List String := [])
  holdFor : Duration := 0
  (runtimeBelowSeconds chargeBelowPercent : Option Int := none)
deriving Repr, DecidableEq

structure ExecutionScope where
  upsDevices : List String
deriving Repr, DecidableEq

structure HookReference where
  (hookNamespace name : String)
deriving Repr, DecidableEq

structure HookDigest where
  (hookNamespace name hash : String)
deriving Repr, DecidableEq

structure Target where
  identityHash : String := ""
  (nodeSelector namespaceSelector workloadSelector : Bool := false)
  (namespaceCount workloadRefCount agentRefCount : Int := 0)
deriving Repr, DecidableEq

/-- A vertex of the shutdown graph. `params` is the source's string map. -/
structure Group where
  name : String
  (description action : String := "")
  hookRef : Option HookReference := none
  target : Target := {}
  (requires before after : List String := [])
  shutdownTier : Option Int := none
  timeout : Duration := 0
  params : List (String × String) := []
  tierInversionPolicy : String := ""
deriving Repr, DecidableEq

structure Step where
  id : String
  action : String := ""
  hookRef : Option HookReference := none
  target : Target := {}
  (duration timeout : Duration := 0)
  continueOnError : Bool := false
  params : List (String × String) := []
deriving Repr, DecidableEq

structure DeviceCapability where
  deviceID : String
  profileID : String := ""
  unidentified : Bool := false
  telemetryVariables : List String := []
  runtimeEstimate : String := ""
deriving Repr, DecidableEq

structure PowerDomainMembership where
  name : String
  (upsDevices members nodes infrastructure : List String := [])
deriving Repr, DecidableEq

/-- An authored carries edge, oriented from the dependent to its carrier. -/
structure CommunicationDependency where
  (dependent carrier : String)
  source : String := ""
deriving Repr, DecidableEq

structure CommunicationServicePath where
  service : String
  entities : List String := []
  exempt : Bool := false
deriving Repr, DecidableEq

/-- Nodes one group works on (`acts`) and powers off (`releases`). Linear
flows use the step identifier as the group. -/
structure GroupNodeMembership where
  group : String
  unresolved : Bool := false
  (acts releases : List String := [])
deriving Repr, DecidableEq

structure NodeTier where
  name : String
  tier : Int
deriving Repr, DecidableEq

structure ControlPlaneNode where
  name : String
  quorumMember : Bool := false
deriving Repr, DecidableEq

/-- The inputs that define the shape and the identity of a plan. Only
`inventoryEntities` distinguishes an absent list from an empty one. -/
structure StructuralInputs where
  (sourceID observedAt resolvedInputHash : String := "")
  tierPolicy : TierPolicy := {}
  triggers : List Trigger := []
  executionScope : Option ExecutionScope := none
  groups : List Group := []
  steps : List Step := []
  abortBehavior : String := ""
  abortNotify : Bool := false
  tierOverrunPolicy : String := ""
  deviceCapabilities : List DeviceCapability := []
  powerDomains : List PowerDomainMembership := []
  communicationDependencies : List CommunicationDependency := []
  communicationServices : List CommunicationServicePath := []
  communicationExemptNodes : List String := []
  inventoryEntities : Option (List String) := none
  groupNodes : List GroupNodeMembership := []
  nodeTiers : List NodeTier := []
  controlPlaneNodes : List ControlPlaneNode := []
  hookDigests : List HookDigest := []
deriving Repr, DecidableEq

structure PowerDomainSnapshot where
  domain : String
  observedAt : String := ""
  (runtimeRemainingSeconds chargePercent : Option Int := none)
  onBattery : Option Bool := none
  stale : Bool := false
deriving Repr, DecidableEq

structure TelemetryInputs where
  powerDomains : List PowerDomainSnapshot := []
deriving Repr, DecidableEq

/-- Observed samples per group name, newest first. -/
structure HistoryInputs where
  groupDurations : List (String × List Duration) := []
deriving Repr, DecidableEq

inductive Severity where
  | error
  | warning
  | info
deriving Repr, DecidableEq

structure Diagnostic where
  severity : Severity
  reason : String
  subject : String := ""
  message : String
deriving Repr, DecidableEq

inductive VertexKind where
  | shutdownGroup
  | shutdownStep
deriving Repr, DecidableEq

inductive Relation where
  | requires
  | before
  | after
  | linearOrder
  | shutdownTier
  | nodeClearance
  | communicationPath
deriving Repr, DecidableEq

inductive Provenance where
  | declared
  | derived
  | policy
deriving Repr, DecidableEq

structure GraphSourceRef where
  kind : String
  (name field : String := "")
deriving Repr, DecidableEq

structure GraphVertex where
  id : String
  kind : VertexKind
  (label action : String := "")
  shutdownTier : Option Int := none
  targetSummary : String := ""
deriving Repr, DecidableEq

/-- A directed dependency: `fromID` runs before `toID`. -/
structure GraphEdge where
  (id fromID toID : String)
  relation : Relation
  provenance : Provenance
  sources : List GraphSourceRef := []
  explanation : String
deriving Repr, DecidableEq

structure Graph where
  vertices : List GraphVertex := []
  edges : List GraphEdge := []
deriving Repr, DecidableEq

structure CompiledStep where
  id : String
  /-- An int32 in the source, like the index of a wave: plans are taken to be shorter. -/
  index : Nat
  action : String
  shutdownTier : Option Int := none
  targetSummary : String := ""
  cumulativeDuration : Duration := 0
deriving Repr, DecidableEq

structure Wave where
  index : Nat
  shutdownTier : Option Int := none
  groups : List String
  (duration cumulativeDuration : Duration := 0)
deriving Repr, DecidableEq

structure CommunicationCoverage where
  (kind name state : String)
  entities : List String := []
deriving Repr, DecidableEq

structure CommunicationSupplyConstraint where
  carrier : String
  (powerDomains upsDevices : List String := [])
  unknownSupply : Bool
deriving Repr, DecidableEq

structure CommunicationBudget where
  scope : String
  (upsDevices unresolvedActions : List String := [])
  supplies : List CommunicationSupplyConstraint := []
  coverage : List CommunicationCoverage := []
deriving Repr, DecidableEq

structure Explanation where
  id : String
  subject : String := ""
  (reason message : String)
deriving Repr, DecidableEq

structure DiagramExports where
  (mermaid graphvizDOT d2 : String := "")
deriving Repr, DecidableEq

inductive EstimateSource where
  | declared
  | observed
deriving Repr, DecidableEq

structure GroupEstimate where
  group : String
  duration : Duration
  source : EstimateSource
  samples : Nat := 0
  declared : Duration := 0
deriving Repr, DecidableEq

structure EstimateConfidence where
  (observedGroups declaredGroups : Nat := 0)
  thinGroups : List String := []
deriving Repr, DecidableEq

structure Feasibility where
  (verdict reason detail : String := "")
deriving Repr, DecidableEq

structure BlockedNode where
  (name reason : String)
  nodeTier : Int
  groups : List String := []
  message : String
deriving Repr, DecidableEq

/-- The compiler output. `powerDomains` carries the resolver's closure as
published, which has the same fields as the input membership. -/
structure Plan where
  (hash structuralHash : String := "")
  steps : List CompiledStep := []
  (waves startupWaves : List Wave := [])
  graph : Graph := {}
  powerDomains : List PowerDomainMembership := []
  communicationBudget : Option CommunicationBudget := none
  explanations : List Explanation := []
  diagrams : DiagramExports := {}
  (estimatedDuration observedDuration : Duration := 0)
  groupEstimates : List GroupEstimate := []
  estimateConfidence : EstimateConfidence := {}
  feasibility : Feasibility := {}
  blockedNodes : List BlockedNode := []
deriving Repr, DecidableEq

end NutOperator.Planner
