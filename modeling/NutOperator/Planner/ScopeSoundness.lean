import NutOperator.Planner.Survival

/-! What scoping may leave out: only actions whose every node is known to keep
its power and its communication through the outage. -/
namespace NutOperator.Planner

open Data NutOperator.Graph List

def Roots (domains : List PowerDomainMembership) (device name : String) : Prop :=
  ∃ domain ∈ domains, domain.name ≠ "" ∧ device ∈ domain.upsDevices ∧ domain.name = name

def Affects (domains : List PowerDomainMembership) (trigger : Trigger) (name : String) : Prop :=
  (name ∈ trigger.powerDomains ∧ ∃ domain ∈ domains, domain.name ≠ "" ∧ domain.name = name) ∨
    ∃ device ∈ trigger.upsDevices, Roots domains device name

variable {name : String} {affectedDomains : List String} {input : StructuralInputs}

variable {domains : List PowerDomainMembership} {index : CommunicationIndex} {node : String}

theorem mem_domainsByUPS {device : String} :
    name ∈ domainsByUPS domains device ↔ Roots domains device name := by
  simp [domainsByUPS, Roots, and_assoc]

theorem mem_triggerDomains {trigger : Trigger} :
    name ∈ triggerDomains domains trigger ↔ Affects domains trigger name := by
  simp [triggerDomains, Affects, knownDomain, mem_domainsByUPS]

theorem mem_affectedPowerDomains {triggers : List Trigger}
    (h : affectedPowerDomains triggers domains = some affectedDomains) :
    name ∈ affectedDomains ↔ ∃ trigger ∈ triggers, Affects domains trigger name := by
  unfold affectedPowerDomains at h
  split at h
  · cases h
  · split at h
    · cases h
    · cases h
      simp [mem_triggerDomains]

def InOutage (input : StructuralInputs) (name : String) : Prop :=
  match input.executionScope with
  | some scope => ∃ device ∈ scope.upsDevices, Roots input.powerDomains device name
  | none => ∃ trigger ∈ input.triggers, Affects input.powerDomains trigger name

theorem mem_outageDomains (h : outageDomains input = some affectedDomains) :
    name ∈ affectedDomains ↔ InOutage input name := by
  unfold outageDomains at h
  unfold InOutage
  cases hscope : input.executionScope with
  | none =>
    simp only [hscope] at h
    exact mem_affectedPowerDomains h
  | some scope =>
    simp only [hscope] at h
    rw [mem_affectedPowerDomains h]
    simp [Affects]

theorem mem_unmappedNodes {memberships : List GroupNodeMembership} :
    node ∈ unmappedNodes memberships index ↔
      ∃ group, group ≠ "" ∧ Touches memberships group node ∧
        ∀ domain ∈ index.domains, node ∉ domainEntities domain := by
  simp only [unmappedNodes, mem_flatMap, mem_filter, decide_eq_true_eq,
    Option.isNone_iff_eq_none, supplies_eq_none, touches_iff]
  constructor
  · rintro ⟨entry, ⟨he, hn⟩, hnode, hu⟩
    exact ⟨entry.group, hn, ⟨entry, he, rfl, hnode⟩, hu⟩
  · rintro ⟨_, hn, ⟨entry, he, rfl, hnode⟩, hu⟩
    exact ⟨entry, ⟨he, hn⟩, hnode, hu⟩

theorem supplies_powerDomains_eq_nil {entity : String} :
    ((index.supplies entity).map (·.powerDomains)).getD [] = [] ↔
      ∀ domain ∈ index.domains, entity ∉ domainEntities domain := by
  rw [← supplies_eq_none]
  cases hsupply : index.supplies entity with
  | none => simp
  | some supply =>
    simp only [Option.map_some, Option.getD_some, reduceCtorEq, iff_false]
    intro hnil
    have hnone : ∀ domain ∈ index.domains, entity ∉ domainEntities domain := by
      intro domain hd he
      have hname := ((supplies_eq_some hsupply).1 domain.name).mpr ⟨domain, hd, he, rfl⟩
      rw [hnil] at hname
      cases hname
    rw [supplies_eq_none.mpr hnone] at hsupply
    cases hsupply

theorem mem_communicationDependents {cons : String} :
    cons ∈ communicationDependents input affectedDomains (newCommunicationIndex input) ↔
      ∃ carrier, DependsOn input.communicationDependencies cons carrier ∧
        ((∃ dependent, Carries input.communicationDependencies dependent carrier) ∧
            (∀ domain ∈ input.powerDomains, carrier ∉ domainEntities domain) ∨
          ∃ domain ∈ input.powerDomains, domain.name ∈ affectedDomains ∧
            carrier ∈ domainEntities domain) := by
  simp only [communicationDependents, mem_consumers, dependsOn_newCommunicationIndex,
    mem_append, mem_map, mem_filter, decide_eq_true_eq,
    supplies_powerDomains_eq_nil, mem_flatMap]
  constructor
  · rintro ⟨_, ⟨dependency, ⟨hd, hu⟩, rfl⟩ | ⟨domain, ⟨hdomain, hname⟩, he⟩, hdepends⟩
    · exact ⟨_, hdepends, .inl ⟨⟨_, dependency, hd, rfl, rfl⟩, hu⟩⟩
    · exact ⟨_, hdepends, .inr ⟨domain, hdomain, hname, he⟩⟩
  · rintro ⟨carrier, hdepends, ⟨⟨_, dependency, hd, -, rfl⟩, hu⟩ | ⟨domain, hdomain, hname, he⟩⟩
    · exact ⟨_, .inl ⟨dependency, ⟨hd, hu⟩, rfl⟩, hdepends⟩
    · exact ⟨carrier, .inr ⟨domain, ⟨hdomain, hname⟩, he⟩, hdepends⟩

theorem retainsAction_eq_false {memberships : List GroupNodeMembership} {affected : List String} :
    retainsAction memberships affected name = false ↔
      name ≠ "" ∧ (∀ entry ∈ memberships, entry.group = name → entry.unresolved = false) ∧
        (∃ node, Touches memberships name node) ∧
        ∀ node, Touches memberships name node → node ∉ affected := by
  have hr : unresolvedGroupMembership memberships name = false ↔
      ∀ entry ∈ memberships, entry.group = name → entry.unresolved = false := by
    simp only [← Bool.not_eq_true, unresolvedGroupMembership_eq_true, not_exists, not_and]
    exact forall₂_congr fun _ _ => imp_not_comm
  unfold retainsAction
  rw [Bool.or_eq_false_iff, hr]
  cases hn : groupNodeSets memberships name with
  | none =>
    simp only [Bool.true_eq_false, and_false, false_iff]
    rintro ⟨hnamed, -, ⟨node, ht⟩, -⟩
    obtain ⟨entry, he, hname, -⟩ := touches_iff.mp ht
    rcases groupNodeSets_eq_none.mp hn with hempty | ha
    · exact hnamed hempty
    · exact ha entry he hname
  | some nodes =>
    obtain ⟨hnamed, -, hmem⟩ := groupNodeSets_eq_some hn
    have hnonempty : nodes ≠ [] ↔ ∃ node, Touches memberships name node := by
      simp [eq_nil_iff_forall_not_mem, hmem]
    simp only [Bool.or_eq_false_iff, decide_eq_false_iff_not, Bool.not_eq_false',
      outsideNodeSet_eq_true, hmem, hnonempty]
    exact ⟨fun h => ⟨hnamed, h⟩, fun h => h.2⟩

theorem mem_releasedByRetained {affected : List String} : node ∈ releasedByRetained input affected ↔
      ∃ name ∈ input.groups.map (·.name), retainsAction input.groupNodes affected name = true ∧
          Releases input.groupNodes name node := by
  simp only [releasedByRetained, mem_flatMap, mem_filter, Bool.and_eq_true,
    knownGroup_eq_true, Releases]
  constructor
  · rintro ⟨entry, ⟨he, hk, hr⟩, hnode⟩
    exact ⟨entry.group, hk, hr, entry, he, rfl, hnode⟩
  · rintro ⟨_, hk, hr, entry, he, rfl, hnode⟩
    exact ⟨entry, ⟨he, hk, hr⟩, hnode⟩

theorem mem_dependents_of_mem_consumers {seeds : List String} {cons : String}
    (h : cons ∈ index.consumers seeds) : cons ∈ index.dependencies.map (·.dependent) := by
  obtain ⟨seed, -, hd⟩ := mem_consumers.mp h
  obtain ⟨carrier, ⟨dependency, hdepends, rfl, -⟩, -⟩ := Relation.TransGen.head'_iff.mp hd
  exact mem_map_of_mem hdepends

/-- Each round adds a dependent that was not yet affected, so the rounds end. -/
theorem exists_releasedConsumersLoop (input : StructuralInputs) (affected : List String)
    (index : CommunicationIndex) :
    ∃ result, releasedConsumersLoop input affected index = some result := by
  apply grow_terminates (fun _ _ => mem_dependents_of_mem_consumers)
  have hlen := ((dedup_sublist (index.dependencies.map (·.dependent))).length_le).trans_eq
    (length_map _)
  exact Nat.lt_succ_of_le ((length_filter_le _ _).trans hlen)

section

variable {affected : List String}

theorem mem_retainReleasedCarrierConsumers_of_mem (h : node ∈ affected) :
    node ∈ retainReleasedCarrierConsumers input affected index := by
  unfold retainReleasedCarrierConsumers
  split
  · exact h
  · obtain ⟨result, hr⟩ := exists_releasedConsumersLoop input affected index
    rw [hr, Option.getD_some]
    exact (grow_fixed hr).1 node h

theorem retainReleasedCarrierConsumers_closed
    (hidx : Carries index.dependencies = Carries input.communicationDependencies)
    {carrier cons : String} (hname : name ∈ input.groups.map (·.name))
    (hretained : retainsAction input.groupNodes
      (retainReleasedCarrierConsumers input affected index) name = true)
    (hreleases : Releases input.groupNodes name carrier)
    (hdepends : DependsOn input.communicationDependencies cons carrier) :
    cons ∈ retainReleasedCarrierConsumers input affected index := by
  unfold retainReleasedCarrierConsumers at hretained ⊢
  split
  · rename_i hnone
    obtain ⟨_, ⟨dependency, hd, -⟩, -⟩ := Relation.TransGen.head'_iff.mp hdepends
    rw [hnone] at hd
    cases hd
  · rename_i hsome
    rw [if_neg hsome] at hretained
    obtain ⟨result, hr⟩ := exists_releasedConsumersLoop input affected index
    rw [hr, Option.getD_some] at hretained ⊢
    apply (grow_fixed hr).2
    rw [mem_consumers, DependsOn, hidx]
    exact ⟨carrier, mem_releasedByRetained.mpr ⟨name, hname, hretained, hreleases⟩, hdepends⟩

end

theorem mem_actionNames_omitActions {pruned : List String} :
    name ∈ actionNames (omitActions input pruned) ↔ name ∈ actionNames input ∧ name ∉ pruned := by
  have hsurviving := Survival.omitActions input pruned
  unfold actionNames
  by_cases hgroups : input.groups = []
  · have hnone : (omitActions input pruned).groups = [] := by
      rw [hsurviving.groups, hgroups]
      rfl
    rw [if_neg (by simpa using hnone), if_neg (by simpa using hgroups), hsurviving.steps hgroups]
    simp only [mem_map, mem_filter, decide_eq_true_eq]
    constructor
    · rintro ⟨step, ⟨hstep, hkept⟩, rfl⟩
      exact ⟨⟨step, hstep, rfl⟩, hkept⟩
    · rintro ⟨⟨step, hstep, rfl⟩, hkept⟩
      exact ⟨step, ⟨hstep, hkept⟩, rfl⟩
  · rw [if_pos hgroups, ← hsurviving.mem_names]
    split
    · rfl
    · rename_i hnone
      rw [not_not] at hnone
      simp [hsurviving.emptied hgroups hnone, hnone]

def outageNodes (input : StructuralInputs) (affectedDomains : List String) : List String :=
  retainReleasedCarrierConsumers (scopeWork input)
    (affectedNodes input affectedDomains (newCommunicationIndex input))
    (newCommunicationIndex input)

theorem mem_prunedActions :
    name ∈ prunedActions input affectedDomains (newCommunicationIndex input) ↔
      name ∈ actionNames input ∧
        retainsAction input.groupNodes (outageNodes input affectedDomains) name = false := by
  rw [← map_name_scopeWork, prunedActions, mem_dedup, mem_filter, Bool.not_eq_true']
  rfl

def NodesListed (input : StructuralInputs) : Prop :=
  ∀ entry ∈ input.groupNodes, ∀ node ∈ entry.acts ++ entry.releases,
    ∀ domain ∈ input.powerDomains, node ∈ domainEntities domain → node ∈ domain.nodes

theorem NodesListed.mem_nodes (hlisted : NodesListed input)
    (htouches : Touches input.groupNodes name node) {domain : PowerDomainMembership}
    (hdomain : domain ∈ input.powerDomains) (hentity : node ∈ domainEntities domain) :
    node ∈ domain.nodes := by
  obtain ⟨entry, he, -, hnode⟩ := touches_iff.mp htouches
  exact hlisted entry he node hnode domain hdomain hentity

/-- A node known to keep its power and its communication through the outage,
while the `retained` actions release their nodes. -/
structure KeptThrough (input : StructuralInputs) (retained : String → Prop) (node : String) :
    Prop where
  unaffected : ∀ domain ∈ input.powerDomains, node ∈ domainEntities domain →
    ¬ InOutage input domain.name
  supplied : ∃ domain ∈ input.powerDomains, node ∈ domainEntities domain
  carrierUnaffected : ∀ carrier, DependsOn input.communicationDependencies node carrier →
    ∀ domain ∈ input.powerDomains, carrier ∈ domainEntities domain → ¬ InOutage input domain.name
  carrierSupplied : ∀ carrier, DependsOn input.communicationDependencies node carrier →
    ∃ domain ∈ input.powerDomains, carrier ∈ domainEntities domain
  carrierUnreleased : ∀ carrier, DependsOn input.communicationDependencies node carrier →
    ∀ name, retained name → ¬ Releases input.groupNodes name carrier

/-- What allows an action to be left out of the plan. -/
structure Omissible (input : StructuralInputs) (retained : String → Prop) (name : String) :
    Prop where
  known : ∃ entry ∈ input.groupNodes, entry.group = name
  resolved : ∀ entry ∈ input.groupNodes, entry.group = name → entry.unresolved = false
  touches : ∃ node, Touches input.groupNodes name node
  kept : ∀ node, Touches input.groupNodes name node → KeptThrough input retained node

def SharedExposed (input : StructuralInputs) (retained : String → Prop) : Prop :=
  ∃ carrier, SharedCarrier input.communicationDependencies input.communicationServices carrier ∧
    ((∀ domain ∈ input.powerDomains, carrier ∈ domainEntities domain →
        ∀ device ∈ domain.upsDevices, device = "") ∨
      (∃ domain ∈ input.powerDomains, carrier ∈ domainEntities domain ∧
        InOutage input domain.name) ∨
      ∃ name, retained name ∧ Releases input.groupNodes name carrier)

/-- The loops of scoping run out of work within their bounds. -/
structure ScopeEnds (input : StructuralInputs) : Prop where
  rounds : ∀ affected,
    (releasedConsumersLoop (scopeWork input) affected (newCommunicationIndex input)).isSome
  consumers : ∀ seeds, (search (newCommunicationIndex input).dependents id
    (seeds.length + (newCommunicationIndex input).dependencies.length) (.start seeds)).queue = []
  paths : ∀ node, (search (newCommunicationIndex input).upstream (·.carrier)
    ((newCommunicationIndex input).dependencies.length + 1) (.start [node])).queue = []

section

variable (input : StructuralInputs)

theorem scopeEnds : ScopeEnds input where
  rounds := fun affected => by
    obtain ⟨result, hr⟩ := exists_releasedConsumersLoop (scopeWork input) affected
      (newCommunicationIndex input)
    rw [hr]
    rfl
  consumers := fun seeds =>
    queue_search_start_eq_nil (newCommunicationIndex input).mem_dependents_map (by simp)
  paths := fun node =>
    queue_search_start_eq_nil (newCommunicationIndex input).carrier_mem_of_mem_upstream
      (by simp; omega)

@[simp] theorem scopeWork_groupNodes : (scopeWork input).groupNodes = input.groupNodes := by
  rw [scopeWork, apply_ite StructuralInputs.groupNodes, ite_self]

@[simp] theorem scopeWork_powerDomains : (scopeWork input).powerDomains = input.powerDomains := by
  rw [scopeWork, apply_ite StructuralInputs.powerDomains, ite_self]

@[simp] theorem scopeWork_communicationDependencies :
    (scopeWork input).communicationDependencies = input.communicationDependencies := by
  rw [scopeWork, apply_ite StructuralInputs.communicationDependencies, ite_self]

@[simp] theorem scopeWork_communicationServices :
    (scopeWork input).communicationServices = input.communicationServices := by
  rw [scopeWork, apply_ite StructuralInputs.communicationServices, ite_self]

theorem affectedNodes_scopeWork (affectedDomains : List String) (index : CommunicationIndex) :
    affectedNodes (scopeWork input) affectedDomains index =
      affectedNodes input affectedDomains index := by
  simp [affectedNodes, communicationDependents]

end

section

theorem mem_outageNodes_of_mem
    (h : node ∈ affectedNodes input affectedDomains (newCommunicationIndex input)) :
    node ∈ outageNodes input affectedDomains :=
  mem_retainReleasedCarrierConsumers_of_mem h

variable {carrier : String}

theorem outageNodes_closed {cons : String} (hname : name ∈ actionNames input)
    (hretained : retainsAction input.groupNodes (outageNodes input affectedDomains) name = true)
    (hreleases : Releases input.groupNodes name carrier)
    (hdepends : DependsOn input.communicationDependencies cons carrier) :
    cons ∈ outageNodes input affectedDomains := by
  rw [← map_name_scopeWork] at hname
  apply retainReleasedCarrierConsumers_closed _ hname
  · rw [scopeWork_groupNodes]
    exact hretained
  · rw [scopeWork_groupNodes]
    exact hreleases
  · rw [scopeWork_communicationDependencies]
    exact hdepends
  · rw [carries_newCommunicationIndex, scopeWork_communicationDependencies]

section

variable (houtage : outageDomains input = some affectedDomains) (hlisted : NodesListed input)
include houtage hlisted

theorem keptThrough_of_not_mem (hnamed : name ≠ "") (htouches : Touches input.groupNodes name node)
    (hout : node ∉ outageNodes input affectedDomains) :
    KeptThrough input (fun name => name ∈ actionNames input ∧
      retainsAction input.groupNodes (outageNodes input affectedDomains) name = true) node := by
  have hu : node ∉ affectedNodes input affectedDomains (newCommunicationIndex input) :=
    fun hmem => hout (mem_outageNodes_of_mem hmem)
  simp only [affectedNodes, mem_append, not_or] at hu
  obtain ⟨⟨hp, hconnected⟩, hmapped⟩ := hu
  rw [mem_communicationDependents] at hconnected
  refine ⟨fun domain hdomain hentity haffected => ?_, ?_, fun carrier hdepends domain hdomain
    hentity haffected => ?_, fun carrier hdepends => ?_, fun carrier hdepends release hretained
    hreleases => ?_⟩
  · apply hp
    rw [nodesForPowerDomains, mem_flatMap]
    have haffected := (mem_outageDomains houtage).mpr haffected
    exact ⟨domain, mem_filter.mpr ⟨hdomain, decide_eq_true haffected⟩, hlisted.mem_nodes htouches
      hdomain hentity⟩
  · by_contra hnone
    push Not at hnone
    exact hmapped (mem_unmappedNodes.mpr ⟨name, hnamed, htouches, hnone⟩)
  · exact hconnected
      ⟨carrier, hdepends,
        .inr ⟨domain, hdomain, (mem_outageDomains houtage).mpr haffected, hentity⟩⟩
  · by_contra hnone
    push Not at hnone
    obtain ⟨dependent, -, hc⟩ := Relation.TransGen.tail'_iff.mp hdepends
    exact hconnected ⟨carrier, hdepends, .inl ⟨⟨dependent, hc⟩, hnone⟩⟩
  · exact hout (outageNodes_closed hretained.1 hretained.2 hreleases hdepends)

theorem omissible_of_mem_prunedActions
    (hpruned : name ∈ prunedActions input affectedDomains (newCommunicationIndex input)) :
    Omissible input (fun name => name ∈ actionNames input ∧
      retainsAction input.groupNodes (outageNodes input affectedDomains) name = true) name := by
  obtain ⟨hn, hr, ht, hout⟩ := retainsAction_eq_false.mp (mem_prunedActions.mp hpruned).2
  refine ⟨?_, hr, ht, fun node hnode =>
    keptThrough_of_not_mem houtage hlisted hn hnode (hout node hnode)⟩
  obtain ⟨entry, he, hname, -⟩ := touches_iff.mp ht.choose_spec
  exact ⟨entry, he, hname⟩

end

section

variable
  (hunshared : sharedCommunicationAffected (scopeWork input) affectedDomains
    (newCommunicationIndex input) = false)
include hunshared

theorem sharedCommunicationAffected_eq_false
    (hshared : SharedCarrier input.communicationDependencies input.communicationServices carrier) :
    (∃ domain ∈ input.powerDomains, carrier ∈ domainEntities domain ∧ ∃ device ∈ domain.upsDevices,
      device ≠ "") ∧
      (∀ domain ∈ input.powerDomains, carrier ∈ domainEntities domain →
        domain.name ∉ affectedDomains) ∧
      ∀ name, Releases input.groupNodes name carrier →
        unresolvedGroupMembership input.groupNodes name = false ∧
          outsideNodeSet ((groupNodeSets input.groupNodes name).getD [])
            (outageNodes input affectedDomains) = true := by
  have hcarrier : carrier ∈ sharedCommunicationCarriers (scopeWork input)
      (newCommunicationIndex input) := by
    rw [mem_sharedCommunicationCarriers, SharedCarrier, carries_newCommunicationIndex,
      scopeWork_communicationServices]
    exact hshared
  unfold sharedCommunicationAffected at hunshared
  rw [affectedNodes_scopeWork] at hunshared
  obtain ⟨hs, hreleases⟩ := Bool.or_eq_false_iff.mp hunshared
  have hsupply := any_eq_false.mp hs _ (mem_map_of_mem hcarrier)
  rw [Bool.or_eq_true, not_or, Bool.not_eq_true] at hsupply
  obtain ⟨hu, hdomains⟩ := hsupply
  refine ⟨?_, ?_, ?_⟩
  · cases hconsistent : (newCommunicationIndex input).supplies carrier with
    | none =>
      rw [hconsistent] at hu
      cases hu
    | some supply =>
      rw [hconsistent, Option.getD_some, ← Bool.not_eq_true, (supplies_eq_some hconsistent).2] at hu
      push Not at hu
      exact hu
  · intro domain hd he ha
    apply hdomains
    cases hconsistent : (newCommunicationIndex input).supplies carrier with
    | none => exact absurd he (supplies_eq_none.mp hconsistent domain hd)
    | some supply =>
      rw [Option.getD_some]
      refine any_eq_true.mpr ⟨domain.name, ?_, decide_eq_true ha⟩
      exact ((supplies_eq_some hconsistent).1 domain.name).mpr ⟨domain, hd, he, rfl⟩
  · rintro _ ⟨entry, hentry, rfl, hnode⟩
    rw [scopeWork_groupNodes] at hreleases
    have hkept := any_eq_false.mp hreleases entry hentry
    rw [Bool.and_eq_true, not_and'] at hkept
    have hpass := hkept (any_eq_true.mpr ⟨carrier, hnode, decide_eq_true hcarrier⟩)
    rw [Bool.not_eq_true', Bool.not_eq_false, Bool.and_eq_true, Bool.not_eq_true'] at hpass
    exact hpass

theorem mem_prunedActions_of_unshared (hname : name ∈ actionNames input) (hnamed : name ≠ "")
    (hreleases : Releases input.groupNodes name carrier)
    (hshared : SharedCarrier input.communicationDependencies input.communicationServices carrier) :
    name ∈ prunedActions input affectedDomains (newCommunicationIndex input) := by
  obtain ⟨hr, hout⟩ := (sharedCommunicationAffected_eq_false hunshared hshared).2.2 name hreleases
  refine mem_prunedActions.mpr ⟨hname, ?_⟩
  unfold retainsAction
  rw [hr, Bool.false_or]
  cases hn : groupNodeSets input.groupNodes name with
  | none =>
    obtain ⟨entry, he, hg, -⟩ := hreleases
    rcases groupNodeSets_eq_none.mp hn with hempty | ha
    · exact absurd hempty hnamed
    · exact absurd hg (ha entry he)
  | some nodes =>
    rw [hn, Option.getD_some] at hout
    have hmem := ((groupNodeSets_eq_some hn).2.2 carrier).mpr (.inr hreleases)
    simp [hout, ne_nil_of_mem hmem]

end

end

theorem mem_actionNames_pruned : name ∈ actionNames (omitActions input
        (prunedActions input affectedDomains (newCommunicationIndex input))) ↔
      name ∈ actionNames input ∧
        retainsAction input.groupNodes (outageNodes input affectedDomains) name = true := by
  rw [mem_actionNames_omitActions, mem_prunedActions, not_and, Bool.not_eq_false]
  exact ⟨fun h => ⟨h.1, h.2 h.1⟩, fun h => ⟨h.1, fun _ => h.2⟩⟩

/-- Scoping ends; it leaves out only what the outage provably does not reach,
and nothing at all while a shared service is exposed to it. -/
theorem scopeStructuralInputs_sound (input : StructuralInputs) (hlisted : NodesListed input) :
    ScopeEnds input ∧
    (∀ name ∈ actionNames input, name ∉ actionNames (scopeStructuralInputs input).1 →
      Omissible input (· ∈ actionNames (scopeStructuralInputs input).1) name) ∧
    (SharedExposed input
        (fun name => name ≠ "" ∧ name ∈ actionNames (scopeStructuralInputs input).1) →
      (scopeStructuralInputs input).1 = input) := by
  refine ⟨scopeEnds input, ?_⟩
  rcases scope_cases input (newCommunicationIndex input) with
    hsame | ⟨affectedDomains, houtage, hunshared, hs⟩
  · rw [scopeStructuralInputs, hsame]
    exact ⟨fun name hname hnot => absurd hname hnot, fun _ => rfl⟩
  · rw [scopeStructuralInputs, hs]
    constructor
    · intro name hname hnot
      have hp : name ∈ prunedActions input affectedDomains (newCommunicationIndex input) := by
        by_contra hkept
        exact hnot (mem_actionNames_omitActions.mpr ⟨hname, hkept⟩)
      have ho := omissible_of_mem_prunedActions houtage hlisted hp
      simpa only [mem_actionNames_pruned] using ho
    · rintro ⟨carrier, hshared, he⟩
      exfalso
      obtain ⟨hsupplied, hu, -⟩ := sharedCommunicationAffected_eq_false hunshared hshared
      rcases he with hunknown | ⟨domain, hd, hentity, ha⟩ | ⟨name, ⟨hn, hr⟩, hreleases⟩
      · obtain ⟨domain, hd, hentity, device, hdevice, hne⟩ := hsupplied
        exact hne (hunknown domain hd hentity device hdevice)
      · exact hu domain hd hentity ((mem_outageDomains houtage).mpr ha)
      · obtain ⟨hname, hkept⟩ := mem_actionNames_omitActions.mp hr
        exact hkept (mem_prunedActions_of_unshared hunshared hname hn hreleases hshared)

def rackFlow : StructuralInputs :=
  { triggers := [{ type := "OnBattery", upsDevices := ["ups-a"] }]
    groups := [{ name := "drain-a" }, { name := "drain-b" }]
    powerDomains := [{ name := "rack-a", upsDevices := ["ups-a"], nodes := ["node-a"] },
        { name := "rack-b", upsDevices := ["ups-b"], nodes := ["node-b"],
          infrastructure := ["switch-b"] }]
    communicationDependencies := [{ dependent := "node-b", carrier := "switch-b" }]
    groupNodes :=
      [{ group := "drain-a", acts := ["node-a"] }, { group := "drain-b", acts := ["node-b"] }] }

theorem rackFlow_omits :
    actionNames (scopeStructuralInputs rackFlow).1 = ["drain-a"] ∧
      Omissible rackFlow (· ∈ actionNames (scopeStructuralInputs rackFlow).1) "drain-b" := by
  refine ⟨by decide, ?_⟩
  have hlisted : NodesListed rackFlow := by
    unfold NodesListed
    decide
  exact (scopeStructuralInputs_sound rackFlow hlisted).2.1 "drain-b" (by decide) (by decide)

/-- An action without a name has no known membership, so its releases are not
checked against the shared services while the action itself is retained. -/
def unnamedFlow : StructuralInputs :=
  { triggers := [{ type := "OnBattery", upsDevices := ["ups-a"] }]
    groups := [{ name := "" }, { name := "drain-b" }]
    powerDomains := [{ name := "rack-a", upsDevices := ["ups-a"], nodes := ["node-a"] },
        { name := "rack-b", upsDevices := ["ups-b"], nodes := ["node-b", "core"] }]
    communicationServices := [{ service := "api", entities := ["core"] }]
    groupNodes :=
      [{ group := "", releases := ["core"] }, { group := "drain-b", acts := ["node-b"] }] }

theorem unnamedFlow_prunes_while_exposed :
    NodesListed unnamedFlow ∧ (∀ domain ∈ unnamedFlow.powerDomains, domain.name ≠ "") ∧
      SharedExposed unnamedFlow (· ∈ actionNames (scopeStructuralInputs unnamedFlow).1) ∧
      actionNames (scopeStructuralInputs unnamedFlow).1 = [""] ∧
      (scopeStructuralInputs unnamedFlow).1 ≠ unnamedFlow := by
  refine ⟨?_, by decide, ⟨"core", ?_, .inr (.inr ⟨"", by decide, ?_⟩)⟩, by decide, by decide⟩
  · unfold NodesListed
    decide
  · exact ⟨{ service := "api", entities := ["core"] }, by decide, rfl, "core", by decide, .refl⟩
  · exact ⟨{ group := "", releases := ["core"] }, by decide, rfl, by decide⟩

end NutOperator.Planner
