import NutOperator.Planner.ReleaseOrder

/-! The communication budget of an accepted plan leaves out no carrier that the plan's
actions or the shared services rely on. -/
namespace NutOperator.Planner

open Data List

/-- No declaration of a service the operator needs says how it is reached. -/
def ServiceUncovered (services : List CommunicationServicePath) : Prop :=
  ∃ name ∈ ["NUT", "OperatorAPI"], ∀ service ∈ services, service.service = name →
    service.exempt = false ∧ service.entities = []

def MembershipUnknown (memberships : List GroupNodeMembership) (action : String) : Prop :=
  (∃ entry ∈ memberships, entry.unresolved = true ∧ entry.group = action) ∨
    ∀ node, ¬Touches memberships action node

def CommunicationBudget.Constrains (budget : CommunicationBudget) (carrier : String) : Prop :=
  carrier ∈ budget.supplies.map (·.carrier)

structure BudgetComplete (structural : StructuralInputs) (plan : Plan)
    (budget : CommunicationBudget) : Prop where
  touched : ∀ action ∈ plan.stages.flatten, ∀ node, Touches structural.groupNodes action node →
    ∀ carrier, carrier ≠ node → DependsOn structural.communicationDependencies node carrier →
      budget.Constrains carrier
  shared : ∀ carrier, SharedCarrier structural.communicationDependencies
    structural.communicationServices carrier → budget.Constrains carrier
  dependents : (∃ action ∈ plan.stages.flatten, MembershipUnknown structural.groupNodes action) →
    ServiceUncovered structural.communicationServices →
    ∀ dependency ∈ structural.communicationDependencies, ∀ carrier,
      DependsOn structural.communicationDependencies dependency.dependent carrier →
        budget.Constrains carrier
  unknown : ∀ supply ∈ budget.supplies,
    (∀ domain ∈ structural.powerDomains, supply.carrier ∉ domainEntities domain) →
      supply.unknownSupply = true

theorem foldl_coverage (services : List CommunicationServicePath) (item : CommunicationCoverage) :
    let covered := services.foldl (fun item service =>
        { item with
          entities := sortedUnique service.entities
          state :=
            if service.exempt then "Exempt"
            else if service.entities ≠ [] then "Modeled"
            else item.state }) item
    covered.kind = item.kind ∧ (covered.state = "Unmodeled" ↔
      item.state = "Unmodeled" ∧ ∀ service ∈ services, service.exempt = false ∧
        service.entities = []) := by
  induction services generalizing item with
  | nil => simp
  | cons service rest ih =>
    refine ⟨(ih _).1, (ih _).2.trans ?_⟩
    rw [forall_mem_cons]
    cases he : service.exempt with
    | true => simp [he]
    | false => by_cases hentity : service.entities = [] <;> simp [he, hentity]

variable {input : StructuralInputs} {index : CommunicationIndex}

theorem state_serviceCoverage {name : String} : (serviceCoverage input name).state = "Unmodeled" ↔
      ∀ service ∈ input.communicationServices, service.service = name →
        service.exempt = false ∧ service.entities = [] := by
  rw [serviceCoverage, (foldl_coverage _ _).2]
  simp

theorem kind_serviceCoverage (input : StructuralInputs) (name : String) :
    (serviceCoverage input name).kind = "Service" :=
  (foldl_coverage _ _).1

theorem completeServiceCoverage_eq_false (h : ServiceUncovered input.communicationServices)
    (consumers : List String) (index : CommunicationIndex) :
    completeServiceCoverage (communicationCoverage input consumers index) = false := by
  obtain ⟨name, hname, hu⟩ := h
  unfold completeServiceCoverage
  rw [all_eq_false]
  refine ⟨serviceCoverage input name, ?_, ?_⟩
  · exact mem_append_right _ (mem_map_of_mem hname)
  · simp [kind_serviceCoverage, state_serviceCoverage.mpr hu]

theorem mem_upstreamCarriers {consumers : List String} {carrier : String} :
    carrier ∈ index.upstreamCarriers consumers ↔ ∃ cons ∈ consumers, carrier ≠ cons ∧
        DependsOn index.dependencies cons carrier := by
  simp only [CommunicationIndex.upstreamCarriers, mem_dedup, mem_flatMap,
    ← exists_mem_communicationPathsFrom, mem_map, Prod.exists, exists_and_right,
    exists_eq_right]

theorem carrier_of_supplies {entity : String} {supply : CommunicationSupplyConstraint}
    (h : index.supplies entity = some supply) : supply.carrier = entity := by
  unfold CommunicationIndex.supplies at h
  dsimp only at h
  split at h
  · cases h
  · rw [← Option.some.inj h]

theorem carrier_supplyConstraints (index : CommunicationIndex) (carriers : List String) :
    (index.supplyConstraints carriers).map (·.carrier) = carriers := by
  unfold CommunicationIndex.supplyConstraints
  rw [map_map]
  conv_rhs => rw [← map_id carriers]
  apply map_congr_left
  intro carrier _
  cases hs : index.supplies carrier with
  | none => simp [hs]
  | some supply => simp [hs, carrier_of_supplies hs]

theorem unknown_supplyConstraints {carriers : List String} {supply : CommunicationSupplyConstraint}
    (hsupply : supply ∈ index.supplyConstraints carriers)
    (hnone : index.supplies supply.carrier = none) : supply.unknownSupply = true := by
  unfold CommunicationIndex.supplyConstraints at hsupply
  obtain ⟨carrier, -, rfl⟩ := mem_map.mp hsupply
  cases hf : index.supplies carrier with
  | none => rfl
  | some supply =>
    -- a supply that was found stands under its own carrier
    rw [hf, Option.getD_some, carrier_of_supplies hf, hf] at hnone
    cases hnone

theorem nodes_of_action {memberships : List GroupNodeMembership} {action node : String}
    (hnamed : action ≠ "") :
    node ∈ (groupNodeSets memberships action).getD [] ↔ Touches memberships action node := by
  cases hn : groupNodeSets memberships action with
  | none =>
    obtain rfl | hnone := groupNodeSets_eq_none.mp hn
    · exact absurd rfl hnamed
    · simp only [Option.getD_none, not_mem_nil, false_iff]
      intro ht
      obtain ⟨entry, he, hg, -⟩ := touches_iff.mp ht
      exact hnone entry he hg
  | some nodes => exact (groupNodeSets_eq_some hn).2.2 node

/-- The consumers a budget has to count: the nodes of the actions, and every dependent while
actions and services are not known. -/
structure Counted (input : StructuralInputs) (consumers : List String) : Prop where
  nodes : ∀ action ∈ actionNames input,
    ∀ node ∈ (groupNodeSets input.groupNodes action).getD [], node ∈ consumers
  dependents : (∃ action ∈ actionNames input, (groupNodeSets input.groupNodes action).getD [] = [] ∨
        unresolvedGroupMembership input.groupNodes action = true) →
    ServiceUncovered input.communicationServices →
    ∀ dependency ∈ input.communicationDependencies, dependency.dependent ∈ consumers

theorem supplies_of_budget {budget : CommunicationBudget}
    (hbudget : communicationBudget input index = some budget) :
    ∃ consumers, Counted input consumers ∧ budget.supplies = index.supplyConstraints
        (sortedUnique (index.upstreamCarriers consumers ++
          sharedCommunicationCarriers input index)) := by
  unfold communicationBudget at hbudget
  dsimp only at hbudget
  split_ifs at hbudget with hnone hwide
  · cases hbudget
    refine ⟨_, ⟨?_, ?_⟩, rfl⟩
    · intro action haction node hnode
      rw [mem_sortedUnique, mem_append, mem_sortedUnique]
      exact .inl (mem_flatMap.mpr ⟨action, haction, hnode⟩)
    · intro _ _ dependency hd
      rw [mem_sortedUnique, mem_append]
      exact .inr (mem_map_of_mem hd)
  · cases hbudget
    refine ⟨_, ⟨?_, ?_⟩, rfl⟩
    · intro action haction node hnode
      rw [mem_sortedUnique]
      exact mem_flatMap.mpr ⟨action, haction, hnode⟩
    · rintro ⟨action, haction, hu⟩ hunchanged
      refine absurd ⟨?_, .inl (completeServiceCoverage_eq_false hunchanged _ index)⟩ hwide
      apply ne_nil_of_mem
      exact mem_filter.mpr ⟨haction, by simpa using hu⟩

theorem irreflexive_of_checked (h : hasError (communicationDiagnostics input index) = false)
    (entity : String) : ¬Carries input.communicationDependencies entity entity := by
  rintro ⟨dependency, hd, hdepends, hc⟩
  have hi : invalidDependency dependency = true := by
    simp [invalidDependency, hdepends, hc]
  unfold communicationDiagnostics communicationSupplyDiagnostics at h
  simp only [hasError_append, Bool.or_eq_false_iff] at h
  have hnone : input.communicationDependencies.filter invalidDependency = [] := by
    simpa [hasError, errorDiagnostic] using h.1.2.1
  have hmem := mem_filter.mpr ⟨hd, hi⟩
  rw [hnone] at hmem
  cases hmem

theorem exists_other_dependent {deps : List CommunicationDependency}
    (hirreflexive : ∀ entity, ¬Carries deps entity entity) {entity carrier : String}
    (h : DependsOn deps entity carrier) :
    ∃ dependency ∈ deps, carrier ≠ dependency.dependent ∧
      DependsOn deps dependency.dependent carrier := by
  obtain ⟨last, -, hlast⟩ := Relation.TransGen.tail'_iff.mp h
  have hne : carrier ≠ last := by
    rintro rfl
    exact hirreflexive carrier hlast
  obtain ⟨dependency, hd, rfl, -⟩ := id hlast
  exact ⟨dependency, hd, hne, .single hlast⟩

section

variable {structural normalized surviving : StructuralInputs} {plan : Plan} {pruned : List String}
  (hcompiled : CompiledFrom structural plan normalized surviving pruned)

include hcompiled

theorem CompiledFrom.actionNamed {action : String} (haction : action ∈ actionNames surviving) :
    action ≠ "" := by
  unfold actionNames at haction
  split_ifs at haction with hg
  · obtain ⟨group, hgroup, rfl⟩ := mem_map.mp haction
    exact hcompiled.wellFormed.groupNamed group hgroup
  · obtain ⟨step, hstep, rfl⟩ := mem_map.mp haction
    exact hcompiled.wellFormed.stepNamed step hstep

theorem CompiledFrom.exists_budget : ∃ budget, plan.communicationBudget = some budget ∧
    communicationBudget surviving (newCommunicationIndex normalized) = some budget := by
  have hacts : actionNames surviving ≠ [] := by
    unfold actionNames
    split_ifs with hg
    · simpa using hg
    · simpa [hg] using hcompiled.wellFormed.actions
  have hb := hcompiled.accepted.budget
  cases hf : communicationBudget surviving (newCommunicationIndex normalized) with
  | none =>
    unfold communicationBudget at hf
    rw [if_neg hacts] at hf
    cases hf
  | some budget => exact ⟨budget, hb.trans hf, rfl⟩

theorem CompiledFrom.dependsOn : DependsOn (newCommunicationIndex normalized).dependencies =
    DependsOn structural.communicationDependencies := by
  rw [DependsOn, DependsOn, hcompiled.normalizes.indexCarries]

theorem CompiledFrom.sharedCarrier {carrier : String} :
    SharedCarrier (newCommunicationIndex normalized).dependencies
        surviving.communicationServices carrier ↔
      SharedCarrier structural.communicationDependencies structural.communicationServices
        carrier := by
  rw [← hcompiled.normalizes.sharedCarrier, hcompiled.survival.services, SharedCarrier,
    carries_newCommunicationIndex, SharedCarrier]

theorem CompiledFrom.serviceUncovered (h : ServiceUncovered structural.communicationServices) :
    ServiceUncovered surviving.communicationServices := by
  obtain ⟨name, hname, hall⟩ := h
  refine ⟨name, hname, ?_⟩
  rw [hcompiled.survival.services, hcompiled.normalizes.services, normalizeCommunicationServices]
  intro service hs hsame
  obtain ⟨declared, hd, rfl⟩ := mem_map.mp (mem_sortStable.mp hs)
  obtain ⟨he, hentity⟩ := hall declared hd hsame
  exact ⟨he, by simp [hentity]⟩

theorem CompiledFrom.touches {action node : String} (haction : action ∈ plan.stages.flatten) :
    Touches surviving.groupNodes action node ↔ Touches structural.groupNodes action node := by
  have hkept := (hcompiled.not_pruned haction).2
  simp [Touches, hcompiled.actsOn, hcompiled.releases, hkept]

theorem CompiledFrom.membershipUnknown {action : String} (haction : action ∈ plan.stages.flatten)
    (h : MembershipUnknown structural.groupNodes action) :
    (groupNodeSets surviving.groupNodes action).getD [] = [] ∨
      unresolvedGroupMembership surviving.groupNodes action = true := by
  have hn := hcompiled.actionNamed (hcompiled.stages_placed.1.mem_iff.mp haction)
  obtain ⟨entry, he, hu, rfl⟩ | hnone := h
  · refine .inr (unresolvedGroupMembership_eq_true.mpr ⟨normalizeMembership entry, ?_, hu,
      rfl⟩)
    rw [hcompiled.survival.mem_groupNodes, hcompiled.normalizes.groupNodes.mem_iff]
    exact ⟨mem_map_of_mem he, (hcompiled.not_pruned haction).2⟩
  · refine .inl (eq_nil_iff_forall_not_mem.mpr ?_)
    intro node hnode
    exact hnone node ((hcompiled.touches haction).mp ((nodes_of_action hn).mp hnode))

theorem CompiledFrom.supplies_eq_none {carrier : String}
    (h : ∀ domain ∈ structural.powerDomains, carrier ∉ domainEntities domain) :
    (newCommunicationIndex normalized).supplies carrier = none := by
  rw [Planner.supplies_eq_none]
  intro domain hd
  rw [newCommunicationIndex, hcompiled.normalizes.domains.mem_iff] at hd
  obtain ⟨declared, hdeclared, rfl⟩ := mem_map.mp hd
  have hnot := h declared hdeclared
  simpa [domainEntities, normalizeDomain] using hnot

theorem CompiledFrom.budgetComplete {budget : CommunicationBudget}
    (hbudget : communicationBudget surviving (newCommunicationIndex normalized) = some budget) :
    BudgetComplete structural plan budget := by
  obtain ⟨consumers, hcounted, hsupplied⟩ := supplies_of_budget hbudget
  have hconsistent : ∀ carrier, budget.Constrains carrier ↔ (∃ cons ∈ consumers, carrier ≠ cons ∧
        DependsOn structural.communicationDependencies cons carrier) ∨
        SharedCarrier structural.communicationDependencies structural.communicationServices
          carrier := by
    intro carrier
    rw [CommunicationBudget.Constrains, hsupplied, carrier_supplyConstraints, mem_sortedUnique,
      mem_append, mem_upstreamCarriers, mem_sharedCommunicationCarriers,
      hcompiled.dependsOn, hcompiled.sharedCarrier]
  have hdepends : Carries surviving.communicationDependencies =
      Carries structural.communicationDependencies := by
    rw [hcompiled.survival.dependencies, hcompiled.normalizes.carries]
  constructor
  · intro action ha node hnode carrier hne hdeps
    have hmem := hcompiled.stages_placed.1.mem_iff.mp ha
    have hnode' := (nodes_of_action (hcompiled.actionNamed hmem)).mpr
      ((hcompiled.touches ha).mpr hnode)
    exact (hconsistent carrier).mpr
      (.inl ⟨node, hcounted.nodes action hmem node hnode', hne, hdeps⟩)
  · intro carrier hs
    exact (hconsistent carrier).mpr (.inr hs)
  · rintro ⟨action, ha, hu⟩ hunchanged dependency - carrier hdeps
    have hdependents := hcounted.dependents ⟨action, hcompiled.stages_placed.1.mem_iff.mp ha,
      hcompiled.membershipUnknown ha hu⟩ (hcompiled.serviceUncovered hunchanged)
    have hi := irreflexive_of_checked hcompiled.accepted.communication
    rw [hdepends] at hi
    obtain ⟨other, ho, hne, hfrom⟩ := exists_other_dependent hi hdeps
    refine (hconsistent carrier).mpr (.inl ⟨other.dependent, hdependents other ?_, hne, hfrom⟩)
    rw [hcompiled.survival.dependencies, hcompiled.normalizes.dependencies,
      mem_normalizeCommunicationDependencies]
    exact ho
  · intro supply hsupply houts
    rw [hsupplied] at hsupply
    exact unknown_supplyConstraints hsupply (hcompiled.supplies_eq_none houts)

end

/-- The budget of an accepted plan constrains it by every carrier, other than the node
itself, upstream of a node that an action touches, by every shared carrier, and while the
nodes of an action and the services are not known by every carrier upstream of a dependent;
a carrier in no domain has unknown supply. -/
theorem budget_complete {hash : StableHash} {structural : StructuralInputs}
    {telemetry : TelemetryInputs} {history : HistoryInputs} {plan : Plan}
    {diagnostics : List Diagnostic}
    (h : compileWithHistory hash structural telemetry history = .ok (plan, diagnostics)) :
    ∃ budget, plan.communicationBudget = some budget ∧ BudgetComplete structural plan budget := by
  obtain ⟨normalized, surviving, pruned, -, -, hcompiled⟩ := compiledFrom_of_compile h
  obtain ⟨budget, hplan, hb⟩ := hcompiled.exists_budget
  exact ⟨budget, hplan, hcompiled.budgetComplete hb⟩

def drainFlow : StructuralInputs :=
  { triggers := [{ type := "OnBattery" }]
    groups := [{ name := "drain" }], groupNodes := [{ group := "drain", acts := ["worker"] }]
    communicationDependencies := [{ dependent := "worker", carrier := "switch" }] }

theorem budget_complete_switch : ∃ plan diagnostics budget,
    compile constantHash drainFlow {} = .ok (plan, diagnostics) ∧
      plan.communicationBudget = some budget ∧ BudgetComplete drainFlow plan budget ∧
      budget.Constrains "switch" := by
  obtain ⟨⟨plan, diagnostics⟩, ha, hs⟩ : ∃ accepted,
      compile constantHash drainFlow {} = .ok accepted ∧
        accepted.1.stages = [["drain"]] := exists_ok_of_map (by decide)
  obtain ⟨budget, hb, hc⟩ := budget_complete ha
  refine ⟨plan, diagnostics, budget, ha, hb, hc, ?_⟩
  apply hc.touched "drain" (by simp [hs]) "worker"
  · exact .inl ⟨_, List.mem_singleton_self _, rfl, by simp⟩
  · decide
  · exact .single ⟨_, List.mem_singleton_self _, rfl, rfl⟩

def mutualFlow : StructuralInputs :=
  { drainFlow with communicationDependencies := [{ dependent := "worker", carrier := "switch" },
      { dependent := "switch", carrier := "worker" }] }

/-- The paths from a node leave the node itself out, also where it is upstream of itself. -/
theorem own_carrier_left_out : ∃ plan diagnostics budget,
    compile constantHash mutualFlow {} = .ok (plan, diagnostics) ∧
      plan.stages = [["drain"]] ∧ Touches mutualFlow.groupNodes "drain" "worker" ∧
      DependsOn mutualFlow.communicationDependencies "worker" "worker" ∧
      plan.communicationBudget = some budget ∧ ¬budget.Constrains "worker" := by
  obtain ⟨⟨plan, diagnostics⟩, ha, hplan⟩ : ∃ accepted,
      compile constantHash mutualFlow {} = .ok accepted ∧
        (accepted.1.stages, accepted.1.communicationBudget.map
          fun budget => budget.supplies.map (·.carrier)) = ([["drain"]], some ["switch"]) :=
    exists_ok_of_map (by decide)
  obtain ⟨hs, hsupplied⟩ := Prod.mk.inj hplan
  obtain ⟨budget, hb, hc⟩ := Option.map_eq_some_iff.mp hsupplied
  refine ⟨plan, diagnostics, budget, ha, hs, ?_, ?_, hb, ?_⟩
  · exact .inl ⟨_, List.mem_singleton_self _, rfl, by simp⟩
  · exact .tail (.single ⟨_, List.mem_cons_self, rfl, rfl⟩)
      ⟨_, List.mem_cons_of_mem _ (List.mem_singleton_self _), rfl, rfl⟩
  · rw [CommunicationBudget.Constrains, hc]
    decide

end NutOperator.Planner
