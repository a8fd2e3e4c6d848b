import NutOperator.Planner.CommunicationBudget
import NutOperator.Planner.ControlPlane
import NutOperator.Planner.Scheduling
import NutOperator.Planner.Scope
import NutOperator.Planner.Validation

/-! The compiler: normalization, scoping, validation and scheduling of the
structural inputs into a plan. -/
namespace NutOperator.Planner

open Data

structure PlanIdentity where
  structuralHash : String
  steps : List CompiledStep
  (waves startupWaves : List Wave)
  graph : Graph
  estimatedDuration : Duration

/-- The digest of the JSON encoding of each hashed type; encoding may fail with
a message. -/
structure StableHash where
  trigger : Trigger → Except String String
  structural : StructuralInputs → Except String String
  plan : PlanIdentity → Except String String

def hashTriggers (hash : StableHash) : Nat → List Trigger → Except String (List (Trigger × String))
  | _, [] => .ok []
  | position, trigger :: rest =>
    match hash.trigger trigger with
    | .error message =>
      .error s!"hash trigger {position} for deterministic ordering: {message}"
    | .ok digest =>
      match hashTriggers hash (position + 1) rest with
      | .error message => .error message
      | .ok decorated => .ok ((trigger, digest) :: decorated)

def sortTriggers (hash : StableHash) (triggers : List Trigger) : Except String (List Trigger) :=
  (hashTriggers hash 0 triggers).map fun decorated =>
    (sortStable (fun left right => decide (left.2 < right.2)) decorated).map Prod.fst

def byName (name : α → String) (left right : α) : Bool :=
  decide (name left < name right)

def normalizeMembership (entry : GroupNodeMembership) : GroupNodeMembership :=
  { entry with acts := sortStrings entry.acts, releases := sortStrings entry.releases }

def normalizeDomain (domain : PowerDomainMembership) : PowerDomainMembership :=
  { domain with
    upsDevices := sortStrings domain.upsDevices, members := sortStrings domain.members
    nodes := sortStrings domain.nodes, infrastructure := sortStrings domain.infrastructure }

def normalizeGroup (group : Group) : Group :=
  { group with
    requires := sortStrings group.requires, before := sortStrings group.before
    after := sortStrings group.after }

def normalizeTrigger (trigger : Trigger) : Trigger :=
  { trigger with
    upsDevices := sortStrings trigger.upsDevices, powerDomains := sortStrings trigger.powerDomains }

def normalizeCapability (device : DeviceCapability) : DeviceCapability :=
  { device with telemetryVariables := sortStrings device.telemetryVariables }

def hookLess (left right : HookDigest) : Bool :=
  if left.hookNamespace = right.hookNamespace then decide (left.name < right.name)
  else decide (left.hookNamespace < right.hookNamespace)

def normalizeStructuralInputs (hash : StableHash) (input : StructuralInputs) :
    Except String StructuralInputs :=
  (sortTriggers hash (input.triggers.map normalizeTrigger)).map fun triggers =>
    { input with
      tierPolicy := normalizeTierPolicy input.tierPolicy, triggers := triggers
      executionScope := input.executionScope.map fun scope => ⟨sortedUnique scope.upsDevices⟩
      groups := sortStable (byName (·.name)) (input.groups.map normalizeGroup)
      deviceCapabilities := sortStable (byName (·.deviceID))
        (input.deviceCapabilities.map normalizeCapability)
      powerDomains := sortStable (byName (·.name)) (input.powerDomains.map normalizeDomain)
      communicationDependencies :=
        normalizeCommunicationDependencies input.communicationDependencies
      communicationServices := normalizeCommunicationServices input.communicationServices
      communicationExemptNodes := sortedUnique input.communicationExemptNodes
      inventoryEntities := input.inventoryEntities.map sortedUnique
      groupNodes := sortStable (byName (·.group)) (input.groupNodes.map normalizeMembership)
      nodeTiers := sortStable (byName (·.name)) input.nodeTiers
      controlPlaneNodes := sortStable (byName (·.name)) input.controlPlaneNodes
      hookDigests := sortStable hookLess input.hookDigests }

def prepareStructuralInputs (hash : StableHash) (structural : StructuralInputs) :
    Except (List Diagnostic) StructuralInputs :=
  match normalizeStructuralInputs hash structural with
  | .error message =>
    .error [errorDiagnostic "TriggerEncodingFailed"
      s!"triggers could not be hashed for deterministic ordering: {message}"]
  | .ok normalized =>
    if normalized.executionScope.any fun scope => scope.upsDevices = [] then
      .error [errorDiagnostic "ExecutionScopeEmpty"
        "an execution scope must name eligible UPS devices"]
    else .ok normalized

def firstStaticRuntimeEstimate (devices : List DeviceCapability) : Option String :=
  (devices.find? fun device => device.runtimeEstimate = "Static").map (·.deviceID)

/-- Missing, stale or fixed telemetry never yields an optimistic verdict. -/
def advisoryFeasibility (telemetry : TelemetryInputs) (devices : List DeviceCapability) :
    Feasibility :=
  if telemetry.powerDomains = [] then
    { verdict := "Unknown", reason := "TelemetryUnavailable" }
  else if telemetry.powerDomains.any fun snapshot =>
      snapshot.stale || snapshot.runtimeRemainingSeconds.isNone ||
        snapshot.chargePercent.isNone || snapshot.onBattery.isNone then
    { verdict := "Unknown", reason := "TelemetryIncomplete" }
  else
    match firstStaticRuntimeEstimate devices with
    | some device => { verdict := "Unknown", reason := "RuntimeEstimateStatic", detail := device }
    | none => { verdict := "OK", reason := "TelemetryPresent" }

def hashPlan (hash : StableHash) (plan : Plan) (surviving : StructuralInputs) :
    Except Diagnostic Plan :=
  match hash.structural surviving with
  | .error message =>
    .error (errorDiagnostic "PlanHashEncodingFailed"
      s!"plan structural hash could not be computed: {message}")
  | .ok structuralHash =>
    match hash.plan ⟨structuralHash, plan.steps, plan.waves, plan.startupWaves, plan.graph,
        plan.estimatedDuration⟩ with
    | .error message =>
      .error (errorDiagnostic "PlanHashEncodingFailed"
        s!"plan hash could not be computed: {message}")
    | .ok planHash => .ok { plan with structuralHash := structuralHash, hash := planHash }

def describePlan (plan : Plan) (surviving : StructuralInputs) (telemetry : TelemetryInputs)
    (index : CommunicationIndex) : Plan :=
  { plan with
    communicationBudget := communicationBudget surviving index
    blockedNodes := blockedNodesFromInversions (detectTierInversions surviving)
    explanations := graphExplanations plan.graph plan.waves.length plan.startupWaves.length ++
        communicationExplanations surviving index
    diagrams := renderDiagramExports plan.graph
    feasibility := advisoryFeasibility telemetry surviving.deviceCapabilities }

def estimatedSchedule (surviving : StructuralInputs) (index : CommunicationIndex)
    (history : HistoryInputs) : Plan :=
  let plan := (compileSchedule surviving index).1
  let estimated :=
    if surviving.groups ≠ [] then applyGroupEstimates plan surviving.groups history else plan
  { estimated with powerDomains := surviving.powerDomains }

def compileWithHistory (hash : StableHash) (structural : StructuralInputs)
    (telemetry : TelemetryInputs) (history : HistoryInputs) :
    Except (List Diagnostic) (Plan × List Diagnostic) :=
  match prepareStructuralInputs hash structural with
  | .error diagnostics => .error diagnostics
  | .ok normalized =>
    let index := newCommunicationIndex normalized
    let (surviving, scopeDiagnostics) := scopeStructuralInputsWithIndex normalized index
    let validated := validateStructuralInputsWithIndex surviving index ++
      communicationDiagnostics surviving index ++ scopeDiagnostics
    if hasError validated then .error validated
    else
      let scheduled := validated ++ (compileSchedule surviving index).2
      if hasError scheduled then .error scheduled
      else
        let plan := estimatedSchedule surviving index history
        let checked := scheduled ++ controlPlaneDiagnostics surviving plan
        if hasError checked then .error checked
        else
          match hashPlan hash (describePlan plan surviving telemetry index) surviving with
          | .error diagnostic => .error (checked ++ [diagnostic])
          | .ok plan => .ok (plan, checked)

def compile (hash : StableHash) (structural : StructuralInputs) (telemetry : TelemetryInputs) :
    Except (List Diagnostic) (Plan × List Diagnostic) :=
  compileWithHistory hash structural telemetry {}

end NutOperator.Planner
