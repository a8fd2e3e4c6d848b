import NutOperator.Planner.Communication

/-! Coverage, supply budget and diagnostics of the communication paths a plan
relies on. -/
namespace NutOperator.Planner

open Data

def communicationServiceDiagnostics (input : StructuralInputs) : List Diagnostic := withEarlier
    (fun earlier path =>
      (if path.service ∈ earlier.map (·.service) ∨
          (path.service ≠ "OperatorAPI" ∧ path.service ≠ "NUT") ∨
          path.exempt = decide (path.entities ≠ []) then
        [errorDiagnostic "CommunicationServiceInvalid"
          ("declare each OperatorAPI or NUT service once, with required inventory entities or " ++
            "an explicit exemption") path.service]
      else []) ++
      path.entities.flatMap fun entity =>
        if entity = "" ∨ input.inventoryEntities.any (entity ∉ ·) then
          [errorDiagnostic "CommunicationServiceEntityUnknown"
            (s!"{path.service} service path references an unknown inventory entity " ++
              s!"{quote entity}") entity]
        else [])
    [] input.communicationServices

def nodeCoverage (input : StructuralInputs) (index : CommunicationIndex) (node : String) :
    CommunicationCoverage :=
  { kind := "Node", name := node
    state :=
      if index.upstream node ≠ [] then "Modeled"
      else if node ∈ input.communicationExemptNodes then "Exempt"
      else "Unmodeled" }

def serviceCoverage (input : StructuralInputs) (name : String) : CommunicationCoverage :=
  (input.communicationServices.filter fun service => service.service = name).foldl
    (fun item service =>
      { item with
        entities := sortedUnique service.entities
        state :=
          if service.exempt then "Exempt"
          else if service.entities ≠ [] then "Modeled"
          else item.state })
    { kind := "Service", name := name, state := "Unmodeled" }

def communicationCoverage (input : StructuralInputs) (consumers : List String)
    (index : CommunicationIndex) : List CommunicationCoverage :=
  consumers.map (nodeCoverage input index) ++ ["NUT", "OperatorAPI"].map (serviceCoverage input)

def completeServiceCoverage (coverage : List CommunicationCoverage) : Bool :=
  coverage.all fun item => item.kind ≠ "Service" || item.state ≠ "Unmodeled"

def communicationSupplySummary (constraints : List CommunicationSupplyConstraint) :
    List String × Bool :=
  (sortedUnique (constraints.flatMap (·.upsDevices)), constraints.any (·.unknownSupply))

def actionNames (input : StructuralInputs) : List String :=
  if input.groups ≠ [] then input.groups.map (·.name) else input.steps.map (·.id)

/-- While an action is unresolved, every dependent counts as a consumer, unless
all services are covered and no membership is partial. -/
def communicationBudget (input : StructuralInputs) (index : CommunicationIndex) :
    Option CommunicationBudget :=
  let actions := actionNames input
  if actions = [] then none
  else
    let nodesOf := fun action => (groupNodeSets input.groupNodes action).getD []
    let incomplete := unresolvedGroupMembership input.groupNodes
    let unresolved := actions.filter fun action => nodesOf action = [] || incomplete action
    let consumers := sortedUnique (actions.flatMap nodesOf)
    let coverage := communicationCoverage input consumers index
    let widened :=
      if unresolved ≠ [] ∧ (completeServiceCoverage coverage = false ∨ actions.any incomplete) then
        sortedUnique (consumers ++ input.communicationDependencies.map (·.dependent))
      else consumers
    let carriers := sortedUnique
      (index.upstreamCarriers widened ++ sharedCommunicationCarriers input index)
    let constraints := index.supplyConstraints carriers
    some
      { scope := "WholePlan", upsDevices := (communicationSupplySummary constraints).1
        unresolvedActions := sortedUnique unresolved, supplies := constraints
        coverage := coverage }

def communicationUnmodeledDiagnostics (input : StructuralInputs) (index : CommunicationIndex) :
    List Diagnostic :=
  ((communicationBudget input index).map (·.coverage)).getD [] |>.flatMap fun coverage =>
    if coverage.state = "Unmodeled" then
      [warningDiagnostic "CommunicationPathUnmodeled"
        (s!"{coverage.kind} {quote coverage.name} has no modeled communication path; " ++
          "coverage is incomplete") (coverage.kind ++ "/" ++ coverage.name)]
    else []

def invalidDependency (dependency : CommunicationDependency) : Bool :=
  dependency.dependent = "" || dependency.carrier = "" || dependency.dependent = dependency.carrier

def supplyingDomains (index : CommunicationIndex) (entity : String) : List String :=
  ((index.supplies entity).map (·.powerDomains)).getD []

def communicationSupplyDiagnostics (input : StructuralInputs) (index : CommunicationIndex) :
    List Diagnostic :=
  let unknownShared := (index.supplyConstraints (sharedCommunicationCarriers input index)).filter
    (·.unknownSupply)
  let unknownCarriers := input.communicationDependencies.filter fun dependency =>
    !invalidDependency dependency && supplyingDomains index dependency.carrier = []
  ((input.communicationDependencies.filter invalidDependency).map fun _ =>
    errorDiagnostic "CommunicationDependencyInvalid"
      ("communication dependencies require distinct, non-empty dependent and carrier " ++
        "identities")) ++
  (sortedUnique (unknownShared.map (·.carrier) ++ unknownCarriers.map (·.carrier))).map
    fun carrier =>
      warningDiagnostic "CommunicationPowerDomainUnknown"
        (s!"communication carrier {quote carrier} has no resolved supplying power domain; its " ++
          "power-loss constraints are unknown") carrier

def stepIndex (steps : List Step) (id : String) : Nat :=
  ((fillMap (fun entry => entry.1.id) (fun entry => some entry.2) steps.zipIdx).lookup id).getD 0

/-- A self-edge is a conflict in any flow. A linear flow is not reordered, so
its steps must already respect every edge. -/
def communicationOrderDiagnostic (input : StructuralInputs) (edge : GraphEdge) : List Diagnostic :=
  if edge.fromID = edge.toID then
    [errorDiagnostic "CommunicationReleaseConflict"
      (s!"shutdown action {quote edge.fromID} releases a communication carrier while also " ++
        "targeting its dependent; split carrier release into a separate group or step so " ++
        "dependent work can finish first") edge.fromID]
  else if input.groups = [] ∧ stepIndex input.steps edge.toID < stepIndex input.steps edge.fromID
  then
    [errorDiagnostic "CommunicationReleaseOrderInvalid"
      (s!"linear step {quote edge.fromID} must precede {quote edge.toID} because the latter " ++
        "releases its communication carrier; reorder the declared steps") edge.toID]
  else []

def communicationOrderEdges (input : StructuralInputs) (index : CommunicationIndex) :
    List GraphEdge :=
  if input.groups = [] then collectLinearCommunicationGraphEdges input index
  else
    collectCommunicationGraphEdges input.groups input.groupNodes index input.communicationServices

def communicationDiagnostics (input : StructuralInputs) (index : CommunicationIndex) :
    List Diagnostic :=
  communicationServiceDiagnostics input ++ communicationUnmodeledDiagnostics input index ++
    communicationSupplyDiagnostics input index ++
    (communicationOrderEdges input index).flatMap (communicationOrderDiagnostic input)

def communicationExplanations (input : StructuralInputs) (index : CommunicationIndex) :
    List Explanation :=
  input.communicationDependencies.mapIdx fun position dependency =>
    let domains := join (supplyingDomains index dependency.carrier) ", "
    let supply := if domains = "" then "unknown" else domains
    { id := s!"communication-{position}", subject := dependency.dependent
      reason := "CommunicationPowerDependency"
      message := s!"{quote dependency.dependent} depends on communication carrier " ++
          s!"{quote dependency.carrier} (source {quote dependency.source}), supplied by power " ++
          s!"domain(s) {supply}; dependent work remains in outage scope if the carrier's supply " ++
          "is affected" }

end NutOperator.Planner
