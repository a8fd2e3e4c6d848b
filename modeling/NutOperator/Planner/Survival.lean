import NutOperator.Planner.Accepted

/-! How the inputs that survive scoping read in terms of the inputs before it:
the pruned actions are gone and nothing else changes. -/
namespace NutOperator.Planner

open Data

structure Survival (input surviving : StructuralInputs) (pruned : List String) : Prop where
  groups : surviving.groups =
    (input.groups.filter fun group => group.name ∉ pruned).map (scrubPrunedDependencies pruned)
  steps : input.groups = [] → surviving.steps = input.steps.filter fun step => step.id ∉ pruned
  groupNodes : surviving.groupNodes = filterPrunedGroupNodes input.groupNodes pruned
  dependencies : surviving.communicationDependencies = input.communicationDependencies
  services : surviving.communicationServices = input.communicationServices
  tierPolicy : surviving.tierPolicy = input.tierPolicy
  nodeTiers : surviving.nodeTiers = input.nodeTiers
  controlPlane : surviving.controlPlaneNodes = input.controlPlaneNodes
  emptied : input.groups ≠ [] → surviving.groups = [] → surviving.steps = []

theorem scrubPrunedDependencies_nil (group : Group) : scrubPrunedDependencies [] group = group := by
  simp [scrubPrunedDependencies, omitStrings]

section

variable (input : StructuralInputs)

theorem Survival.refl : Survival input input [] where
  groups := by
    have hscrub : scrubPrunedDependencies [] = id := funext scrubPrunedDependencies_nil
    simp [hscrub]
  steps := fun _ => by simp
  groupNodes := by simp [filterPrunedGroupNodes]
  dependencies := rfl
  services := rfl
  tierPolicy := rfl
  nodeTiers := rfl
  controlPlane := rfl
  emptied := fun hgroups hnone => absurd hnone hgroups

theorem Survival.omitActions (pruned : List String) :
    Survival input (omitActions input pruned) pruned := by
  unfold Planner.omitActions
  by_cases hgroups : input.groups = []
  · rw [if_neg (by simp [hgroups])]
    exact ⟨by simp [hgroups], fun _ => rfl, rfl, rfl, rfl, rfl, rfl, rfl, fun hne =>
      absurd hgroups hne⟩
  · rw [if_pos hgroups]
    exact ⟨rfl, fun hnone => absurd hnone hgroups, rfl, rfl, rfl, rfl, rfl, rfl, fun _ _ => rfl⟩

theorem scope_cases (index : CommunicationIndex) :
    (scopeStructuralInputsWithIndex input index).1 = input ∨
      ∃ affectedDomains, outageDomains input = some affectedDomains ∧
        sharedCommunicationAffected (scopeWork input) affectedDomains index = false ∧
        (scopeStructuralInputsWithIndex input index).1 =
          omitActions input (prunedActions input affectedDomains index) := by
  unfold scopeStructuralInputsWithIndex
  split
  · exact .inl rfl
  · split
    · exact .inl rfl
    · rename_i affectedDomains houtage
      split
      · exact .inl rfl
      · unfold scopeToDomains
        split
        · exact .inl rfl
        · rename_i hu
          dsimp only
          split
          · exact .inl rfl
          · exact .inr ⟨affectedDomains, houtage, Bool.eq_false_of_not_eq_true hu, rfl⟩

theorem map_name_scopeWork : (scopeWork input).groups.map (·.name) = actionNames input := by
  unfold scopeWork actionNames
  by_cases hgroups : input.groups = [] <;> simp [hgroups]

theorem exists_survival : ∃ pruned, Survival input (scopeStructuralInputs input).1 pruned := by
  rcases scope_cases input (newCommunicationIndex input) with
    hsame | ⟨affectedDomains, -, -, hp⟩
  · exact ⟨[], by rw [scopeStructuralInputs, hsame]; exact .refl input⟩
  · exact ⟨_, by rw [scopeStructuralInputs, hp]; exact .omitActions input _⟩

end

section

variable {input surviving : StructuralInputs} {pruned : List String}
  (hsurviving : Survival input surviving pruned)

include hsurviving

theorem Survival.mem_groups {group : Group} : group ∈ surviving.groups ↔ ∃ declared ∈ input.groups,
      declared.name ∉ pruned ∧ scrubPrunedDependencies pruned declared = group := by
  simp [hsurviving.groups, and_assoc]

theorem Survival.mem_names {name : String} : name ∈ surviving.groups.map (·.name) ↔
      name ∈ input.groups.map (·.name) ∧ name ∉ pruned := by
  simp only [List.mem_map, hsurviving.mem_groups]
  constructor
  · rintro ⟨_, ⟨group, hg, hkept, rfl⟩, rfl⟩
    exact ⟨⟨group, hg, rfl⟩, hkept⟩
  · rintro ⟨⟨group, hg, rfl⟩, hkept⟩
    exact ⟨_, ⟨group, hg, hkept, rfl⟩, rfl⟩

theorem Survival.declares_field {field : Group → List String} {name dependency : String}
    (hfield : ∀ group, field (scrubPrunedDependencies pruned group) =
      (field group).filter (· ∉ pruned)) :
    (∃ group ∈ surviving.groups, group.name = name ∧ dependency ∈ field group) ↔
      (∃ group ∈ input.groups, group.name = name ∧ dependency ∈ field group) ∧ name ∉ pruned ∧
        dependency ∉ pruned := by
  simp only [hsurviving.mem_groups]
  constructor
  · rintro ⟨_, ⟨group, hg, hkept, rfl⟩, rfl, hd⟩
    rw [hfield] at hd
    obtain ⟨hd, hkept'⟩ := List.mem_filter.mp hd
    exact ⟨⟨group, hg, rfl, hd⟩, hkept, of_decide_eq_true hkept'⟩
  · rintro ⟨⟨group, hg, rfl, hd⟩, hkept, hkept'⟩
    refine ⟨_, ⟨group, hg, hkept, rfl⟩, rfl, ?_⟩
    rw [hfield]
    exact List.mem_filter.mpr ⟨hd, decide_eq_true hkept'⟩

theorem Survival.declares {relation : Relation} {first second : String} :
    Declares surviving.groups relation first second ↔
      Declares input.groups relation first second ∧ first ∉ pruned ∧ second ∉ pruned := by
  cases relation with
  | after =>
    rw [@and_comm (first ∉ pruned)]
    exact hsurviving.declares_field fun _ => rfl
  | linearOrder | shutdownTier | nodeClearance | communicationPath => simp [Declares]
  | _ => exact hsurviving.declares_field fun _ => rfl

theorem Survival.mem_groupNodes {entry : GroupNodeMembership} :
    entry ∈ surviving.groupNodes ↔ entry ∈ input.groupNodes ∧ entry.group ∉ pruned := by
  simp [hsurviving.groupNodes, filterPrunedGroupNodes]

theorem Survival.exists_membership {name : String} (field : GroupNodeMembership → Prop) :
    (∃ entry ∈ surviving.groupNodes, entry.group = name ∧ field entry) ↔
      (∃ entry ∈ input.groupNodes, entry.group = name ∧ field entry) ∧ name ∉ pruned := by
  simp only [hsurviving.mem_groupNodes]
  constructor
  · rintro ⟨entry, ⟨he, hkept⟩, rfl, hfield⟩
    exact ⟨⟨entry, he, rfl, hfield⟩, hkept⟩
  · rintro ⟨⟨entry, he, rfl, hfield⟩, hkept⟩
    exact ⟨entry, ⟨he, hkept⟩, rfl, hfield⟩

theorem Survival.actsOn {name node : String} : ActsOn surviving.groupNodes name node ↔
      ActsOn input.groupNodes name node ∧ name ∉ pruned :=
  hsurviving.exists_membership (node ∈ ·.acts)

theorem Survival.releases {name node : String} : Releases surviving.groupNodes name node ↔
      Releases input.groupNodes name node ∧ name ∉ pruned :=
  hsurviving.exists_membership (node ∈ ·.releases)

theorem Survival.needsCarrier {deps : List CommunicationDependency} {first second : String} :
    NeedsCarrier surviving.groupNodes deps first second ↔
      NeedsCarrier input.groupNodes deps first second ∧ first ∉ pruned ∧ second ∉ pruned := by
  simp only [NeedsCarrier, Touches, hsurviving.actsOn, hsurviving.releases]
  constructor
  · rintro ⟨node, carrier, ⟨hacts, hkept⟩ | ⟨hr, hkept⟩, hne, hd, hreleased, hkept'⟩
    · exact ⟨⟨node, carrier, .inl hacts, hne, hd, hreleased⟩, hkept, hkept'⟩
    · exact ⟨⟨node, carrier, .inr hr, hne, hd, hreleased⟩, hkept, hkept'⟩
  · rintro ⟨⟨node, carrier, hacts | hr, hne, hd, hreleased⟩, hkept, hkept'⟩
    · exact ⟨node, carrier, .inl ⟨hacts, hkept⟩, hne, hd, hreleased, hkept'⟩
    · exact ⟨node, carrier, .inr ⟨hr, hkept⟩, hne, hd, hreleased, hkept'⟩

theorem Survival.releasesShared {deps : List CommunicationDependency} {name : String} :
    ReleasesShared surviving.groupNodes deps surviving.communicationServices name ↔
      ReleasesShared input.groupNodes deps input.communicationServices name ∧ name ∉ pruned := by
  simp only [ReleasesShared, hsurviving.services, hsurviving.releases]
  constructor
  · rintro ⟨carrier, ⟨hr, hkept⟩, hc⟩
    exact ⟨⟨carrier, hr, hc⟩, hkept⟩
  · rintro ⟨⟨carrier, hr, hc⟩, hkept⟩
    exact ⟨carrier, ⟨hr, hkept⟩, hc⟩

end

structure CompiledFrom (structural : StructuralInputs) (plan : Plan)
    (normalized surviving : StructuralInputs) (pruned : List String) : Prop where
  normalizes : Normalizes structural normalized
  survival : Survival normalized surviving pruned
  accepted : Accepted surviving (newCommunicationIndex normalized) plan

theorem compiledFrom_of_compile {hash : StableHash} {structural : StructuralInputs}
    {telemetry : TelemetryInputs} {history : HistoryInputs} {plan : Plan}
    {diagnostics : List Diagnostic}
    (h : compileWithHistory hash structural telemetry history = .ok (plan, diagnostics)) :
    ∃ normalized surviving pruned, survivingInputs hash structural = .ok surviving ∧
      prepareStructuralInputs hash structural = .ok normalized ∧
      CompiledFrom structural plan normalized surviving pruned := by
  obtain ⟨normalized, hp, ha⟩ := accepted_of_compile h
  obtain ⟨pruned, hsurviving⟩ := exists_survival normalized
  refine ⟨normalized, _, pruned, ?_, hp, normalizes_of_prepared hp, hsurviving, ha⟩
  rw [survivingInputs, hp]
  rfl

section

variable {structural normalized surviving : StructuralInputs} {plan : Plan} {pruned : List String}
  (hcompiled : CompiledFrom structural plan normalized surviving pruned)

include hcompiled

theorem CompiledFrom.wellFormed : WellFormed surviving :=
  wellFormed_of_validated hcompiled.accepted.validated

theorem CompiledFrom.mem_names {name : String} : name ∈ surviving.groups.map (·.name) ↔
      name ∈ structural.groups.map (·.name) ∧ name ∉ pruned := by
  rw [hcompiled.survival.mem_names, hcompiled.normalizes.names.mem_iff]

theorem CompiledFrom.declares {relation : Relation} {first second : String} :
    Declares surviving.groups relation first second ↔
      Declares structural.groups relation first second ∧ first ∉ pruned ∧ second ∉ pruned := by
  rw [hcompiled.survival.declares, hcompiled.normalizes.declares]

theorem CompiledFrom.actsOn {name node : String} : ActsOn surviving.groupNodes name node ↔
      ActsOn structural.groupNodes name node ∧ name ∉ pruned := by
  rw [hcompiled.survival.actsOn, hcompiled.normalizes.actsOn]

theorem CompiledFrom.releases {name node : String} : Releases surviving.groupNodes name node ↔
      Releases structural.groupNodes name node ∧ name ∉ pruned := by
  rw [hcompiled.survival.releases, hcompiled.normalizes.releases]

theorem CompiledFrom.needsCarrier {first second : String} :
    NeedsCarrier surviving.groupNodes (newCommunicationIndex normalized).dependencies first second ↔
      NeedsCarrier structural.groupNodes structural.communicationDependencies first second ∧
        first ∉ pruned ∧ second ∉ pruned := by
  rw [hcompiled.survival.needsCarrier, hcompiled.normalizes.needsCarrier]

theorem CompiledFrom.releasesShared {name : String} :
    ReleasesShared surviving.groupNodes (newCommunicationIndex normalized).dependencies
        surviving.communicationServices name ↔
      ReleasesShared structural.groupNodes structural.communicationDependencies
        structural.communicationServices name ∧ name ∉ pruned := by
  rw [hcompiled.survival.releasesShared, hcompiled.normalizes.releasesShared]

theorem CompiledFrom.distinctIDs (hdistinct : DistinctIDs (structural.groups.map (·.name))) :
    DistinctIDs (surviving.groups.map (·.name)) :=
  fun first hf second hs =>
    hdistinct first (hcompiled.mem_names.mp hf).1 second (hcompiled.mem_names.mp hs).1

section

variable (hgroups : structural.groups ≠ [])

include hgroups

theorem CompiledFrom.groups_ne_nil : surviving.groups ≠ [] := by
  intro hnone
  have hn : normalized.groups ≠ [] := by
    intro he
    have hperm := hcompiled.normalizes.groups
    rw [he] at hperm
    exact hgroups (List.map_eq_nil_iff.mp (List.nil_perm.mp hperm))
  rcases hcompiled.wellFormed.actions with hacts | hacts
  · exact hacts hnone
  · exact hacts (hcompiled.survival.emptied hn hnone)

theorem CompiledFrom.compiledGroups :
    plan.graph = buildGroupGraphForInputs surviving (newCommunicationIndex normalized) ∧
      compileGroups surviving.groups plan.graph =
        .ok (plan.steps, plan.waves, plan.estimatedDuration) := by
  have hne := hcompiled.groups_ne_nil hgroups
  have hscheduled := hcompiled.accepted.scheduled
  have hgraph := hcompiled.accepted.graph
  have hwaves := hcompiled.accepted.waves
  have hsteps := hcompiled.accepted.steps
  have hduration := hcompiled.accepted.estimatedDuration
  unfold compileSchedule at hscheduled hgraph hwaves hsteps hduration
  rw [if_pos hne] at hscheduled hgraph hwaves hsteps hduration
  cases hrun : compileGroups surviving.groups
      (buildGroupGraphForInputs surviving (newCommunicationIndex normalized)) with
  | error stalled =>
    simp only [hrun] at hscheduled
    simp [planNotSchedulable] at hscheduled
  | ok result =>
    simp only [hrun] at hgraph hwaves hsteps hduration
    refine ⟨hgraph, ?_⟩
    rw [hgraph, hwaves, hsteps, hduration, hrun]

theorem CompiledFrom.scheduled :
    plan.graph = buildGroupGraphForInputs surviving (newCommunicationIndex normalized) ∧
      Scheduled surviving.groups plan.graph plan.waves := by
  have hwell := hcompiled.wellFormed
  obtain ⟨hg, hrun⟩ := hcompiled.compiledGroups hgroups
  refine ⟨hg, compileGroups_ok hwell.groupNames ?_ hrun⟩
  rw [hg]
  exact fun _ _ _ => mem_names_of_joins_graph hwell.known

end

end

end NutOperator.Planner
