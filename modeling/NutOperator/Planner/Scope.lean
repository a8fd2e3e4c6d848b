import NutOperator.Graph.Growth
import NutOperator.Planner.Communication

/-! Outage scoping: actions wholly outside the affected power domains, and not
reached through communication paths, are left out of the plan. -/
namespace NutOperator.Planner

open Data NutOperator.Graph

/-- Domains a device roots. A domain without a name is never affected. -/
def domainsByUPS (domains : List PowerDomainMembership) (device : String) : List String :=
  (domains.filter fun domain => domain.name ≠ "" && device ∈ domain.upsDevices).map (·.name)

def knownDomain (domains : List PowerDomainMembership) (name : String) : Bool :=
  domains.any fun domain => domain.name ≠ "" && domain.name = name

def triggerDomains (domains : List PowerDomainMembership) (trigger : Trigger) : List String :=
  trigger.powerDomains.filter (knownDomain domains) ++
    trigger.upsDevices.flatMap (domainsByUPS domains)

/-- `none` when nothing limits the outage: there is no trigger, or one that
names neither a domain nor a device. -/
def affectedPowerDomains (triggers : List Trigger) (domains : List PowerDomainMembership) :
    Option (List String) :=
  if triggers = [] then none
  else if triggers.any (fun trigger => trigger.powerDomains = [] && trigger.upsDevices = []) then
    none
  else some (triggers.flatMap (triggerDomains domains)).dedup

def executionRootsMapped (roots : List String) (domains : List PowerDomainMembership) : Bool :=
  roots.all fun root => root ≠ "" && domains.any fun domain =>
    domain.name ≠ "" && root ∈ domain.upsDevices

def nodesForPowerDomains (domains : List PowerDomainMembership) (affectedDomains : List String) :
    List String :=
  (domains.filter fun domain => domain.name ∈ affectedDomains).flatMap (·.nodes)

def communicationDependents (input : StructuralInputs) (affectedDomains : List String)
    (index : CommunicationIndex) : List String :=
  let unknown := (input.communicationDependencies.filter fun dependency =>
    ((index.supplies dependency.carrier).map (·.powerDomains)).getD [] = []).map (·.carrier)
  let entities := (input.powerDomains.filter fun domain =>
    domain.name ∈ affectedDomains).flatMap domainEntities
  index.consumers (unknown ++ entities)

def unmappedNodes (memberships : List GroupNodeMembership) (index : CommunicationIndex) :
    List String :=
  (memberships.filter fun entry => entry.group ≠ "").flatMap fun entry =>
    (entry.acts ++ entry.releases).filter fun node => (index.supplies node).isNone

def affectedNodes (input : StructuralInputs) (affectedDomains : List String)
    (index : CommunicationIndex) : List String :=
  nodesForPowerDomains input.powerDomains affectedDomains ++
    communicationDependents input affectedDomains index ++ unmappedNodes input.groupNodes index

def retainsAction (memberships : List GroupNodeMembership) (affected : List String)
    (name : String) : Bool :=
  unresolvedGroupMembership memberships name ||
    match groupNodeSets memberships name with
    | none => true
    | some nodes => nodes = [] || !outsideNodeSet nodes affected

def releasedByRetained (input : StructuralInputs) (affected : List String) : List String :=
  (input.groupNodes.filter fun entry =>
    knownGroup input.groups entry.group &&
      retainsAction input.groupNodes affected entry.group).flatMap (·.releases)

/-- Retaining a release group brings the consumers of what it releases into
scope. Every round adds a dependent, which bounds the rounds. -/
def releasedConsumersLoop (input : StructuralInputs) (affected : List String)
    (index : CommunicationIndex) : Option (List String) :=
  grow (fun current => index.consumers (releasedByRetained input current))
    (index.dependencies.length + 1) affected

def retainReleasedCarrierConsumers (input : StructuralInputs) (affected : List String)
    (index : CommunicationIndex) : List String :=
  if input.communicationDependencies = [] then affected
  else (releasedConsumersLoop input affected index).getD affected

def sharedCommunicationAffected (input : StructuralInputs) (affectedDomains : List String)
    (index : CommunicationIndex) : Bool :=
  let carriers := sharedCommunicationCarriers input index
  let affected := retainReleasedCarrierConsumers input (affectedNodes input affectedDomains index)
    index
  (index.supplyConstraints carriers).any (fun supply =>
    supply.unknownSupply || supply.powerDomains.any (· ∈ affectedDomains)) ||
  input.groupNodes.any fun entry =>
    !(!unresolvedGroupMembership input.groupNodes entry.group &&
      outsideNodeSet ((groupNodeSets input.groupNodes entry.group).getD []) affected) &&
    entry.releases.any (· ∈ carriers)

def omitStrings (values omitted : List String) : List String := values.filter (· ∉ omitted)

def scrubPrunedDependencies (pruned : List String) (group : Group) : Group :=
  { group with
    requires := omitStrings group.requires pruned, before := omitStrings group.before pruned
    after := omitStrings group.after pruned }

def filterPrunedGroupNodes (memberships : List GroupNodeMembership) (pruned : List String) :
    List GroupNodeMembership :=
  memberships.filter fun membership => membership.group ∉ pruned

def scopeWork (input : StructuralInputs) : StructuralInputs :=
  if input.groups = [] then { input with groups := input.steps.map fun step => { name := step.id } }
  else input

def prunedActions (input : StructuralInputs) (affectedDomains : List String)
    (index : CommunicationIndex) : List String :=
  let work := scopeWork input
  let affected := retainReleasedCarrierConsumers work (affectedNodes input affectedDomains index)
    index
  ((work.groups.map (·.name)).filter fun name =>
    !retainsAction input.groupNodes affected name).dedup

/-- A fully pruned grouped plan never falls back to its linear steps. -/
def omitActions (input : StructuralInputs) (pruned : List String) : StructuralInputs :=
  if input.groups ≠ [] then
    { input with
      groups := (input.groups.filter fun group => group.name ∉ pruned).map
        (scrubPrunedDependencies pruned)
      steps := [], groupNodes := filterPrunedGroupNodes input.groupNodes pruned }
  else
    { input with
      steps := input.steps.filter fun step => step.id ∉ pruned
      groupNodes := filterPrunedGroupNodes input.groupNodes pruned }

def scopeToDomains (input : StructuralInputs) (affectedDomains : List String)
    (index : CommunicationIndex) : StructuralInputs × List Diagnostic :=
  if sharedCommunicationAffected (scopeWork input) affectedDomains index then
    (input, [infoDiagnostic "CommunicationServiceScopeRetained"
      "all actions remain in scope because a shared service path is affected or released"])
  else
    let pruned := prunedActions input affectedDomains index
    if pruned = [] then (input, [])
    else
      let domainNames := sortedUnique affectedDomains
      (omitActions input pruned, [infoDiagnostic "PowerDomainScopeApplied"
        (s!"shutdown plan scoped to power domain(s) {commaList domainNames}; " ++
          s!"{pruned.length} action(s) wholly outside the affected node set were omitted")
        (join domainNames ",")])

/-- The outage: the eligible devices of the execution, or else the triggers. -/
def outageDomains (input : StructuralInputs) : Option (List String) :=
  match input.executionScope with
  | some scope =>
    affectedPowerDomains [{ type := "", upsDevices := scope.upsDevices }] input.powerDomains
  | none => affectedPowerDomains input.triggers input.powerDomains

def scopeStructuralInputsWithIndex (input : StructuralInputs) (index : CommunicationIndex) :
    StructuralInputs × List Diagnostic :=
  if input.executionScope.any
      (fun scope => !executionRootsMapped scope.upsDevices input.powerDomains) then
    (input, [warningDiagnostic "ExecutionPowerDomainUnknown"
      "an eligible UPS has no resolved power domain; work cannot safely be pruned"])
  else
    match outageDomains input with
    | none => (input, [])
    | some affectedDomains =>
      if affectedDomains = [] ∨ input.groupNodes = [] then (input, [])
      else scopeToDomains input affectedDomains index

def scopeStructuralInputs (input : StructuralInputs) : StructuralInputs × List Diagnostic :=
  scopeStructuralInputsWithIndex input (newCommunicationIndex input)

end NutOperator.Planner
