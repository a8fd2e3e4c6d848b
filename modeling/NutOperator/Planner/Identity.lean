import NutOperator.Planner.Accepted
import Mathlib.Data.Prod.Lex
import Mathlib.Data.Option.Basic

/-! Plan identity. Two descriptions of one flow that differ in the order of their lists, in
telemetry or in history compile to the same plan. -/
namespace NutOperator.Planner

open Data List

structure Trigger.Rearranged (left right : Trigger) : Prop where
  upsDevices : left.upsDevices.Perm right.upsDevices
  powerDomains : left.powerDomains.Perm right.powerDomains
  rest : left = { right with upsDevices := left.upsDevices, powerDomains := left.powerDomains }

structure Group.Rearranged (left right : Group) : Prop where
  requires : left.requires.Perm right.requires
  before : left.before.Perm right.before
  after : left.after.Perm right.after
  rest : left = { right with
    requires := left.requires, before := left.before, after := left.after }

structure GroupNodeMembership.Rearranged (left right : GroupNodeMembership) : Prop where
  acts : left.acts.Perm right.acts
  releases : left.releases.Perm right.releases
  rest : left = { right with acts := left.acts, releases := left.releases }

structure PowerDomainMembership.Rearranged (left right : PowerDomainMembership) : Prop where
  upsDevices : left.upsDevices.Perm right.upsDevices
  members : left.members.Perm right.members
  nodes : left.nodes.Perm right.nodes
  infrastructure : left.infrastructure.Perm right.infrastructure
  name : left.name = right.name

structure DeviceCapability.Rearranged (left right : DeviceCapability) : Prop where
  telemetryVariables : left.telemetryVariables.Perm right.telemetryVariables
  rest : left = { right with telemetryVariables := left.telemetryVariables }

structure CommunicationServicePath.Rearranged (left right : CommunicationServicePath) : Prop where
  entities : left.entities.Perm right.entities
  rest : left = { right with entities := left.entities }

structure TierPolicy.Rearranged (left right : TierPolicy) : Prop where
  definitions : left.definitions.Perm right.definitions
  selectorRules : left.selectorRules.Perm right.selectorRules
  rest : left = { right with
    definitions := left.definitions, selectorRules := left.selectorRules }

/-- The same flow with its set-like lists, and the names inside them, in another order. Linear
steps are in the order in which they run. -/
structure StructuralInputs.Rearranged (left right : StructuralInputs) : Prop where
  tierPolicy : left.tierPolicy.Rearranged right.tierPolicy
  triggers : Shuffled Trigger.Rearranged left.triggers right.triggers
  executionScope : Option.Rel (fun scope other => scope.upsDevices.Perm other.upsDevices)
    left.executionScope right.executionScope
  groups : Shuffled Group.Rearranged left.groups right.groups
  deviceCapabilities : Shuffled DeviceCapability.Rearranged left.deviceCapabilities
    right.deviceCapabilities
  powerDomains : Shuffled PowerDomainMembership.Rearranged left.powerDomains right.powerDomains
  dependencies : left.communicationDependencies.Perm right.communicationDependencies
  services : Shuffled CommunicationServicePath.Rearranged left.communicationServices
    right.communicationServices
  exemptNodes : left.communicationExemptNodes.Perm right.communicationExemptNodes
  inventoryEntities : Option.Rel List.Perm left.inventoryEntities right.inventoryEntities
  groupNodes : Shuffled GroupNodeMembership.Rearranged left.groupNodes right.groupNodes
  nodeTiers : left.nodeTiers.Perm right.nodeTiers
  controlPlaneNodes : left.controlPlaneNodes.Perm right.controlPlaneNodes
  hookDigests : left.hookDigests.Perm right.hookDigests
  rest : left = { right with
    tierPolicy := left.tierPolicy
    triggers := left.triggers
    executionScope := left.executionScope
    groups := left.groups
    deviceCapabilities := left.deviceCapabilities
    powerDomains := left.powerDomains
    communicationDependencies := left.communicationDependencies
    communicationServices := left.communicationServices
    communicationExemptNodes := left.communicationExemptNodes
    inventoryEntities := left.inventoryEntities
    groupNodes := left.groupNodes
    nodeTiers := left.nodeTiers
    controlPlaneNodes := left.controlPlaneNodes
    hookDigests := left.hookDigests }

/-- Every set-like list has one entry for each key. The key of a trigger is its digest. -/
structure UniqueKeys (hash : StableHash) (input : StructuralInputs) : Prop where
  definitions : (input.tierPolicy.definitions.map fun definition =>
    (definition.tier, definition.name)).Nodup
  selectorRules : (input.tierPolicy.selectorRules.map (·.name)).Nodup
  triggers : ∀ left ∈ input.triggers.map normalizeTrigger,
    ∀ right ∈ input.triggers.map normalizeTrigger,
      hash.trigger left = hash.trigger right → left = right
  groups : (input.groups.map (·.name)).Nodup
  deviceCapabilities : (input.deviceCapabilities.map (·.deviceID)).Nodup
  powerDomains : (input.powerDomains.map (·.name)).Nodup
  services : (input.communicationServices.map (·.service)).Nodup
  groupNodes : (input.groupNodes.map (·.group)).Nodup
  nodeTiers : (input.nodeTiers.map (·.name)).Nodup
  controlPlaneNodes : (input.controlPlaneNodes.map (·.name)).Nodup
  hookDigests : (input.hookDigests.map fun digest => (digest.hookNamespace, digest.name)).Nodup

theorem normalizeTrigger_congr {left right : Trigger} (h : left.Rearranged right) :
    normalizeTrigger left = normalizeTrigger right := by
  unfold normalizeTrigger
  rw [sortStrings_eq_of_perm h.upsDevices, sortStrings_eq_of_perm h.powerDomains, h.rest]

theorem normalizeGroup_congr {left right : Group} (h : left.Rearranged right) :
    normalizeGroup left = normalizeGroup right := by
  unfold normalizeGroup
  rw [sortStrings_eq_of_perm h.requires, sortStrings_eq_of_perm h.before,
    sortStrings_eq_of_perm h.after, h.rest]

theorem normalizeMembership_congr {left right : GroupNodeMembership} (h : left.Rearranged right) :
    normalizeMembership left = normalizeMembership right := by
  unfold normalizeMembership
  rw [sortStrings_eq_of_perm h.acts, sortStrings_eq_of_perm h.releases, h.rest]

theorem normalizeDomain_congr {left right : PowerDomainMembership} (h : left.Rearranged right) :
    normalizeDomain left = normalizeDomain right := by
  unfold normalizeDomain
  rw [sortStrings_eq_of_perm h.upsDevices, sortStrings_eq_of_perm h.members,
    sortStrings_eq_of_perm h.nodes, sortStrings_eq_of_perm h.infrastructure, h.name]

theorem normalizeCapability_congr {left right : DeviceCapability} (h : left.Rearranged right) :
    normalizeCapability left = normalizeCapability right := by
  unfold normalizeCapability
  rw [sortStrings_eq_of_perm h.telemetryVariables, h.rest]

theorem normalizeCommunicationServices_congr {services others : List CommunicationServicePath}
    (h : Shuffled CommunicationServicePath.Rearranged services others)
    (hkeys : (services.map (·.service)).Nodup) :
    normalizeCommunicationServices services = normalizeCommunicationServices others := by
  unfold normalizeCommunicationServices
  refine sortStable_eq_of_shuffled h ?_ (fun _ => rfl) hkeys
  intro service other hs
  rw [sortedUnique_eq_of_perm hs.entities, hs.rest]

theorem dependencyLess_iff (left right : CommunicationDependency) :
    dependencyLess left right = true ↔ toLex (left.dependent, toLex (left.carrier, left.source)) <
        toLex (right.dependent, toLex (right.carrier, right.source)) := by
  rw [Prod.Lex.toLex_lt_toLex, Prod.Lex.toLex_lt_toLex, dependencyLess]
  by_cases hd : left.dependent = right.dependent
  · by_cases hc : left.carrier = right.carrier <;> simp [hd, hc]
  · simp [hd]

theorem normalizeCommunicationDependencies_congr
    {deps others : List CommunicationDependency} (h : deps.Perm others) :
    normalizeCommunicationDependencies deps = normalizeCommunicationDependencies others := by
  refine sortStable_eq_of_perm dependencyLess_iff h.dedup ?_
  intro left _ right _ hkey
  simp only [toLex_inj, Prod.mk.injEq] at hkey
  obtain ⟨hd, hc, hs⟩ := hkey
  cases left
  cases right
  simp_all

theorem sortStable_names_congr {name : α → String} {values others : List α}
    (h : values.Perm others) (hkeys : (values.map name).Nodup) :
    sortStable (fun left right => decide (name left < name right)) values =
      sortStable (fun left right => decide (name left < name right)) others := by
  have hless : ∀ left right : α, decide (name left < name right) = true ↔ name left < name right :=
    fun _ _ => decide_eq_true_iff
  refine sortStable_eq_of_perm hless h ?_
  exact fun left hleft right hr => inj_on_of_nodup_map hkeys hleft hr

theorem hookLess_iff (left right : HookDigest) : hookLess left right = true ↔
      toLex (left.hookNamespace, left.name) < toLex (right.hookNamespace, right.name) := by
  rw [Prod.Lex.toLex_lt_toLex, hookLess]
  by_cases hname : left.hookNamespace = right.hookNamespace <;> simp [hname]

theorem normalizeTierPolicy_congr {policy other : TierPolicy} (h : policy.Rearranged other)
    (hdefined : (policy.definitions.map fun definition =>
      (definition.tier, definition.name)).Nodup)
    (hrules : (policy.selectorRules.map (·.name)).Nodup) :
    normalizeTierPolicy policy = normalizeTierPolicy other := by
  have hless : ∀ left right : TierDefinition,
      (if left.tier ≠ right.tier then decide (left.tier < right.tier)
        else decide (left.name < right.name)) = true ↔
        toLex (left.tier, left.name) < toLex (right.tier, right.name) := by
    intro left right
    rw [Prod.Lex.toLex_lt_toLex]
    by_cases htier : left.tier = right.tier <;> simp [htier]
  unfold normalizeTierPolicy
  rw [sortStable_eq_of_perm hless h.definitions, sortStable_names_congr h.selectorRules hrules,
    h.rest]
  intro left hleft right hr hkey
  exact inj_on_of_nodup_map hdefined hleft hr (toLex_inj.mp hkey)

theorem toOption_hashTriggers (hash : StableHash) (position : Nat) (triggers : List Trigger) :
    (hashTriggers hash position triggers).toOption =
      if ∀ trigger ∈ triggers, (hash.trigger trigger).toOption.isSome then
        some (triggers.map fun trigger => (trigger, (hash.trigger trigger).toOption.getD ""))
      else none := by
  induction triggers generalizing position with
  | nil => simp [hashTriggers, Except.toOption]
  | cons trigger rest ih =>
    simp only [hashTriggers, forall_mem_cons, map_cons]
    cases hash.trigger trigger with
    | error msg => simp [Except.toOption]
    | ok digest =>
      have hrest := ih (position + 1)
      cases hrun : hashTriggers hash (position + 1) rest <;> rw [hrun] at hrest <;>
        split at hrest <;> cases hrest <;> simp_all [Except.toOption]

theorem toOption_map {result : Except ε α} {view : α → β} :
    (result.map view).toOption = result.toOption.map view := by
  cases result <;> rfl

theorem cases_of_toOption_eq {left right : Except ε α} (h : left.toOption = right.toOption) :
    (∃ msg msg', left = .error msg ∧ right = .error msg') ∨
      ∃ val, left = .ok val ∧ right = .ok val := by
  cases left with
  | error msg =>
    cases right with
    | error msg' => exact .inl ⟨msg, msg', rfl, rfl⟩
    | ok val => cases h
  | ok val =>
    cases right with
    | error msg => cases h
    | ok other =>
      cases h
      exact .inr ⟨val, rfl, rfl⟩

theorem sortTriggers_congr {hash : StableHash} {triggers others : List Trigger}
    (hperm : triggers.Perm others)
    (hkeys : ∀ left ∈ triggers, ∀ right ∈ triggers,
      hash.trigger left = hash.trigger right → left = right) :
    (sortTriggers hash triggers).toOption = (sortTriggers hash others).toOption := by
  have hless : ∀ left right : Trigger × String,
      decide (left.2 < right.2) = true ↔ left.2 < right.2 := fun _ _ => decide_eq_true_iff
  rw [sortTriggers, sortTriggers, toOption_map, toOption_map, toOption_hashTriggers,
    toOption_hashTriggers]
  simp only [← hperm.mem_iff]
  split
  · rename_i hall
    refine congrArg (fun sorted => some (sorted.map Prod.fst))
      (sortStable_eq_of_perm hless (hperm.map _) ?_)
    intro left hleft right hr hd
    obtain ⟨trigger, ht, rfl⟩ := mem_map.mp hleft
    obtain ⟨other, ho, rfl⟩ := mem_map.mp hr
    have hsome := hall trigger ht
    have hsome' := hall other ho
    rw [hkeys trigger ht other ho]
    dsimp only at hd
    cases hleft : hash.trigger trigger <;> cases hr : hash.trigger other <;>
      simp_all [Except.toOption]
  · rfl

theorem map_eq_of_rel {related : α → α → Prop} {view : α → β} {value other : Option α}
    (h : Option.Rel related value other) (hview : ∀ value other, related value other → view value =
      view other) :
    value.map view = other.map view := by
  cases h with
  | none => rfl
  | some hr => exact congrArg some (hview _ _ hr)

section

variable {hash : StableHash} {structural other : StructuralInputs}
  (hsame : structural.Rearranged other) (hkeys : UniqueKeys hash structural)

include hsame hkeys

/-- The normal form does not depend on the arrangement. -/
theorem normalizeStructuralInputs_congr : (normalizeStructuralInputs hash structural).toOption =
      (normalizeStructuralInputs hash other).toOption := by
  have hscope := map_eq_of_rel hsame.executionScope fun scope other hdevices =>
    congrArg ExecutionScope.mk (sortedUnique_eq_of_perm hdevices)
  have hentity := map_eq_of_rel hsame.inventoryEntities fun _ _ => sortedUnique_eq_of_perm
  have hgroups := sortStable_eq_of_shuffled hsame.groups (fun _ _ => normalizeGroup_congr)
    (fun _ => rfl) hkeys.groups
  have hdevices := sortStable_eq_of_shuffled hsame.deviceCapabilities
    (fun _ _ => normalizeCapability_congr) (fun _ => rfl) hkeys.deviceCapabilities
  have hdomains := sortStable_eq_of_shuffled hsame.powerDomains
    (fun _ _ => normalizeDomain_congr) (fun _ => rfl) hkeys.powerDomains
  have hmembers := sortStable_eq_of_shuffled hsame.groupNodes
    (fun _ _ => normalizeMembership_congr) (fun _ => rfl) hkeys.groupNodes
  have hhooks : sortStable hookLess structural.hookDigests =
      sortStable hookLess other.hookDigests := by
    refine sortStable_eq_of_perm hookLess_iff hsame.hookDigests ?_
    intro left hleft right hr hkey
    exact inj_on_of_nodup_map hkeys.hookDigests hleft hr (toLex_inj.mp hkey)
  rw [normalizeStructuralInputs, normalizeStructuralInputs, toOption_map, toOption_map,
    sortTriggers_congr (hsame.triggers.perm_map fun _ _ => normalizeTrigger_congr) hkeys.triggers]
  congr 1
  funext triggers
  unfold byName
  rw [normalizeTierPolicy_congr hsame.tierPolicy hkeys.definitions hkeys.selectorRules, hscope,
    hgroups, hdevices, hdomains, normalizeCommunicationDependencies_congr hsame.dependencies,
    normalizeCommunicationServices_congr hsame.services hkeys.services,
    sortedUnique_eq_of_perm hsame.exemptNodes, hentity, hmembers,
    sortStable_names_congr hsame.nodeTiers hkeys.nodeTiers,
    sortStable_names_congr hsame.controlPlaneNodes hkeys.controlPlaneNodes, hhooks, hsame.rest]

theorem prepareStructuralInputs_congr : (prepareStructuralInputs hash structural).toOption =
      (prepareStructuralInputs hash other).toOption := by
  rw [prepareStructuralInputs, prepareStructuralInputs]
  obtain ⟨msg, msg', hleft, hr⟩ | ⟨normalized, hleft, hr⟩ :=
    cases_of_toOption_eq (normalizeStructuralInputs_congr hsame hkeys)
  · rw [hleft, hr]
    rfl
  · rw [hleft, hr]

end

structure PlanIdentified where
  (hash structuralHash : String)
  steps : List CompiledStep
  waves : List Wave
  graph : Graph
  blockedNodes : List BlockedNode
  communicationBudget : Option CommunicationBudget

def Plan.identified (plan : Plan) : PlanIdentified :=
  ⟨plan.hash, plan.structuralHash, plan.steps, plan.waves, plan.graph, plan.blockedNodes,
    plan.communicationBudget⟩

def identifiedPlan (result : Except (List Diagnostic) (Plan × List Diagnostic)) :
    Option PlanIdentified :=
  result.toOption.map fun accepted => accepted.1.identified

theorem identified_hashPlan {plan plan' : Plan} (hsteps : plan.steps = plan'.steps)
    (hwaves : plan.waves = plan'.waves) (hstarting : plan.startupWaves = plan'.startupWaves)
    (hgraph : plan.graph = plan'.graph)
    (hduration : plan.estimatedDuration = plan'.estimatedDuration) (hash : StableHash)
    (surviving : StructuralInputs) (index : CommunicationIndex)
    (telemetry telemetry' : TelemetryInputs) :
    (hashPlan hash (describePlan plan surviving telemetry index) surviving).toOption.map
    Plan.identified =
      (hashPlan hash (describePlan plan' surviving telemetry' index) surviving).toOption.map
        Plan.identified := by
  unfold hashPlan describePlan
  dsimp only
  cases hash.structural surviving with
  | error msg => rfl
  | ok structuralHash =>
    dsimp only
    rw [hsteps, hwaves, hstarting, hgraph, hduration]
    cases hash.plan ⟨structuralHash, plan'.steps, plan'.waves, plan'.startupWaves, plan'.graph,
        plan'.estimatedDuration⟩ with
    | error msg => rfl
    | ok planHash => rfl

theorem identifiedPlan_of_prepared {hash : StableHash} {structural other : StructuralInputs}
    {normalized : StructuralInputs} (h : prepareStructuralInputs hash structural = .ok normalized)
    (h' : prepareStructuralInputs hash other = .ok normalized)
    (telemetry telemetry' : TelemetryInputs) (history histo' : HistoryInputs) :
    identifiedPlan (compileWithHistory hash structural telemetry history) =
      identifiedPlan (compileWithHistory hash other telemetry' histo') := by
  obtain ⟨hgraph, hwaves, hsteps, hduration, hstarting⟩ := estimatedSchedule_schedule
    (scopeStructuralInputs normalized).1 (newCommunicationIndex normalized) history
  obtain ⟨hgraph', hwaves', hsteps', hduration', hstarting'⟩ := estimatedSchedule_schedule
    (scopeStructuralInputs normalized).1 (newCommunicationIndex normalized) histo'
  unfold compileWithHistory
  rw [h, h']
  dsimp only
  rw [← scopeStructuralInputs]
  generalize estimatedSchedule (scopeStructuralInputs normalized).1
    (newCommunicationIndex normalized) history = plan at *
  generalize estimatedSchedule (scopeStructuralInputs normalized).1
    (newCommunicationIndex normalized) histo' = plan' at *
  have hs : plan.stages = plan'.stages := by
    rw [Plan.stages, Plan.stages, hwaves, hwaves', hsteps, hsteps']
  rw [controlPlaneDiagnostics_congr hs]
  split_ifs
  · rfl
  · rfl
  · rfl
  · have hi := identified_hashPlan (hsteps.trans hsteps'.symm) (hwaves.trans hwaves'.symm)
      (hstarting.trans hstarting'.symm) (hgraph.trans hgraph'.symm)
      (hduration.trans hduration'.symm) hash (scopeStructuralInputs normalized).1
      (newCommunicationIndex normalized) telemetry telemetry'
    generalize hashPlan hash (describePlan plan _ _ _) _ = hashed at hi ⊢
    generalize hashPlan hash (describePlan plan' _ _ _) _ = hashed' at hi ⊢
    cases hashed <;> cases hashed' <;> exact hi

/-- Acceptance and the identified part of the plan depend on the flow, and not on how its
lists are arranged or on telemetry and history. -/
theorem plan_identity_structural (hash : StableHash) (structural other : StructuralInputs)
    (hsame : structural.Rearranged other) (hkeys : UniqueKeys hash structural)
    (telemetry telemetry' : TelemetryInputs) (history history' : HistoryInputs) :
    identifiedPlan (compileWithHistory hash structural telemetry history) =
      identifiedPlan (compileWithHistory hash other telemetry' history') := by
  obtain ⟨diagnostics, diagnostics', hleft, hr⟩ | ⟨normalized, hleft, hr⟩ :=
    cases_of_toOption_eq (prepareStructuralInputs_congr hsame hkeys)
  · rw [compileWithHistory, compileWithHistory, hleft, hr]
    rfl
  · exact identifiedPlan_of_prepared hleft hr telemetry telemetry' history history'

def orderedFlow : StructuralInputs :=
  { triggers := [{ type := "OnBattery" }]
    groups := [{ name := "drain" }, { name := "release" }]
    groupNodes := [{ group := "drain", acts := ["node-a"] },
      { group := "release", releases := ["node-a", "node-b"] }] }

def reorderedFlow : StructuralInputs :=
  { triggers := [{ type := "OnBattery" }]
    groups := [{ name := "release" }, { name := "drain" }]
    groupNodes := [{ group := "release", releases := ["node-b", "node-a"] },
      { group := "drain", acts := ["node-a"] }] }

theorem plan_identity_structural_reordered :
    orderedFlow.Rearranged reorderedFlow ∧ UniqueKeys constantHash orderedFlow ∧
      identifiedPlan (compileWithHistory constantHash orderedFlow {} {}) =
        identifiedPlan (compileWithHistory constantHash reorderedFlow
          { powerDomains := [{ domain := "rack" }] } { groupDurations := [("drain", [5])] }) ∧
      (identifiedPlan (compileWithHistory constantHash orderedFlow {} {})).isSome := by
  have hg : ∀ name, Group.Rearranged { name := name } { name := name } :=
    fun _ => ⟨.refl _, .refl _, .refl _, rfl⟩
  have hsame : orderedFlow.Rearranged reorderedFlow := by
    refine ⟨⟨.refl _, .refl _, rfl⟩, ⟨_, .refl _, .cons ⟨.refl _, .refl _, rfl⟩ .nil⟩, .none,
      ⟨_, List.Perm.swap _ _ [], .cons (hg _) (.cons (hg _) .nil)⟩, ⟨_, .refl _, .nil⟩,
      ⟨_, .refl _, .nil⟩, .refl _, ⟨_, .refl _, .nil⟩, .refl _, .none,
      ⟨_, List.Perm.swap _ _ [], .cons ⟨.refl _, .swap _ _ [], rfl⟩
        (.cons ⟨.refl _, .refl _, rfl⟩ .nil)⟩, .refl _, .refl _, .refl _, rfl⟩
  have hkeys : UniqueKeys constantHash orderedFlow := by
    refine ⟨by decide, by decide, ?_, by decide, by decide, by decide, by decide, by decide,
      by decide, by decide, by decide⟩
    intro left hleft right hr _
    rw [mem_singleton.mp hleft, mem_singleton.mp hr]
  exact ⟨hsame, hkeys, plan_identity_structural constantHash orderedFlow reorderedFlow hsame hkeys
    {} _ {} _, by decide⟩

end NutOperator.Planner
