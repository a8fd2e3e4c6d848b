import NutOperator.Planner.Compiler

/-! What acceptance means: the inputs an accepted plan is scheduled from, and how
they read in terms of the inputs the flow declared. -/
namespace NutOperator.Planner

open Data

def survivingInputs (hash : StableHash) (structural : StructuralInputs) :
    Except (List Diagnostic) StructuralInputs :=
  (prepareStructuralInputs hash structural).map fun normalized =>
    (scopeStructuralInputs normalized).1

/-- The checks an accepted plan passed and where its parts come from. -/
structure Accepted (surviving : StructuralInputs) (index : CommunicationIndex) (plan : Plan) :
    Prop where
  validated : hasError (validateStructuralInputsWithIndex surviving index) = false
  communication : hasError (communicationDiagnostics surviving index) = false
  scheduled : hasError (compileSchedule surviving index).2 = false
  graph : plan.graph = (compileSchedule surviving index).1.graph
  waves : plan.waves = (compileSchedule surviving index).1.waves
  steps : plan.steps = (compileSchedule surviving index).1.steps
  estimatedDuration : plan.estimatedDuration = (compileSchedule surviving index).1.estimatedDuration
  controlPlane : hasError (controlPlaneDiagnostics surviving plan) = false
  blocked : plan.blockedNodes = blockedNodesFromInversions (detectTierInversions surviving)
  budget : plan.communicationBudget = communicationBudget surviving index

variable {hash : StableHash}

theorem hashPlan_ok {plan hashed : Plan} {surviving : StructuralInputs}
    (h : hashPlan hash plan surviving = .ok hashed) :
    ∃ structuralHash planHash,
      hashed = { plan with structuralHash := structuralHash, hash := planHash } := by
  unfold hashPlan at h
  split at h
  · cases h
  · rename_i structuralHash _
    split at h
    · cases h
    · rename_i planHash _
      exact ⟨structuralHash, planHash, (Except.ok.inj h).symm⟩

theorem estimatedSchedule_schedule (surviving : StructuralInputs) (index : CommunicationIndex)
    (history : HistoryInputs) :
    (estimatedSchedule surviving index history).graph = (compileSchedule surviving index).1.graph ∧
      (estimatedSchedule surviving index history).waves =
        (compileSchedule surviving index).1.waves ∧
      (estimatedSchedule surviving index history).steps =
        (compileSchedule surviving index).1.steps ∧
      (estimatedSchedule surviving index history).estimatedDuration =
        (compileSchedule surviving index).1.estimatedDuration ∧
      (estimatedSchedule surviving index history).startupWaves =
        (compileSchedule surviving index).1.startupWaves := by
  unfold estimatedSchedule
  dsimp only
  split <;> exact ⟨rfl, rfl, rfl, rfl, rfl⟩

theorem controlPlaneDiagnostics_congr {input : StructuralInputs} {left right : Plan}
    (h : left.stages = right.stages) :
    controlPlaneDiagnostics input left = controlPlaneDiagnostics input right := by
  simp only [controlPlaneDiagnostics, h]

theorem accepted_of_compile {structural : StructuralInputs} {telemetry : TelemetryInputs}
    {history : HistoryInputs} {plan : Plan} {diagnostics : List Diagnostic}
    (h : compileWithHistory hash structural telemetry history = .ok (plan, diagnostics)) :
    ∃ normalized, prepareStructuralInputs hash structural = .ok normalized ∧
      Accepted (scopeStructuralInputs normalized).1 (newCommunicationIndex normalized) plan := by
  unfold compileWithHistory at h
  split at h
  · cases h
  rename_i normalized hn
  refine ⟨normalized, hn, ?_⟩
  dsimp only at h
  rw [← scopeStructuralInputs] at h
  split_ifs at h with _ _ hc
  split at h
  · cases h
  rename_i hashed hhash
  obtain ⟨rfl, -⟩ := Prod.mk.inj (Except.ok.inj h)
  obtain ⟨structuralHash, planHash, rfl⟩ := hashPlan_ok hhash
  simp only [hasError_append, Bool.or_eq_true, not_or, Bool.not_eq_true] at hc
  obtain ⟨⟨⟨⟨hv, hcommand⟩, -⟩, hs⟩, hcontrol⟩ := hc
  obtain ⟨hg, hw, hsteps, hd, -⟩ := estimatedSchedule_schedule
    (scopeStructuralInputs normalized).1 (newCommunicationIndex normalized) history
  refine ⟨hv, hcommand, hs, hg, hw, hsteps, hd, ?_, rfl, rfl⟩
  rw [← hcontrol]
  exact congrArg hasError (controlPlaneDiagnostics_congr rfl)

theorem prepared_eq {structural normalized : StructuralInputs}
    (h : prepareStructuralInputs hash structural = .ok normalized) :
    normalizeStructuralInputs hash structural = .ok normalized := by
  unfold prepareStructuralInputs at h
  split at h
  · cases h
  · rename_i result hr
    split at h
    · cases h
    · rw [hr, Except.ok.inj h]

structure Normalizes (structural normalized : StructuralInputs) : Prop where
  groups : normalized.groups.Perm (structural.groups.map normalizeGroup)
  steps : normalized.steps = structural.steps
  groupNodes : normalized.groupNodes.Perm (structural.groupNodes.map normalizeMembership)
  dependencies : normalized.communicationDependencies =
    normalizeCommunicationDependencies structural.communicationDependencies
  services : normalized.communicationServices =
    normalizeCommunicationServices structural.communicationServices
  tierPolicy : normalized.tierPolicy = normalizeTierPolicy structural.tierPolicy
  nodeTiers : normalized.nodeTiers = sortStable (byName (·.name)) structural.nodeTiers
  controlPlane : normalized.controlPlaneNodes.Perm structural.controlPlaneNodes
  domains : normalized.powerDomains.Perm (structural.powerDomains.map normalizeDomain)

theorem normalizes_of_prepared {structural normalized : StructuralInputs}
    (h : prepareStructuralInputs hash structural = .ok normalized) :
    Normalizes structural normalized := by
  have hn := prepared_eq h
  unfold normalizeStructuralInputs at hn
  cases hs : sortTriggers hash (structural.triggers.map normalizeTrigger) with
  | error msg =>
    rw [hs] at hn
    cases hn
  | ok triggers =>
    rw [hs] at hn
    obtain rfl := Except.ok.inj hn
    exact ⟨sortStable_perm _ _, rfl, sortStable_perm _ _, rfl, rfl, rfl, rfl,
      sortStable_perm _ _, sortStable_perm _ _⟩

section

variable {structural normalized : StructuralInputs} (hnormalizes : Normalizes structural normalized)

include hnormalizes

theorem Normalizes.names :
    (normalized.groups.map (·.name)).Perm (structural.groups.map (·.name)) := by
  have hperm := hnormalizes.groups.map (·.name)
  rwa [List.map_map] at hperm

theorem Normalizes.mem_groups {group : Group} :
    group ∈ normalized.groups ↔ ∃ declared ∈ structural.groups, normalizeGroup declared =
      group := by
  rw [hnormalizes.groups.mem_iff, List.mem_map]

theorem Normalizes.declares {relation : Relation} {first second : String} :
    Declares normalized.groups relation first second ↔ Declares structural.groups relation first
      second := by
  cases relation with
  | requires | before | after => simp [Declares, hnormalizes.mem_groups, normalizeGroup]
  | linearOrder | shutdownTier | nodeClearance | communicationPath => rfl

theorem Normalizes.actsOn {name node : String} :
    ActsOn normalized.groupNodes name node ↔ ActsOn structural.groupNodes name node := by
  simp [ActsOn, hnormalizes.groupNodes.mem_iff, normalizeMembership]

theorem Normalizes.releases {name node : String} :
    Releases normalized.groupNodes name node ↔ Releases structural.groupNodes name node := by
  simp [Releases, hnormalizes.groupNodes.mem_iff, normalizeMembership]

theorem Normalizes.carries :
    Carries normalized.communicationDependencies =
      Carries structural.communicationDependencies := by
  funext dependent carrier
  simp [Carries, hnormalizes.dependencies]

theorem Normalizes.sharedCarrier {carrier : String} :
    SharedCarrier normalized.communicationDependencies normalized.communicationServices carrier ↔
      SharedCarrier structural.communicationDependencies structural.communicationServices
        carrier := by
  rw [hnormalizes.services, sharedCarrier_normalize]
  simp only [SharedCarrier, hnormalizes.carries]

theorem Normalizes.indexCarries : Carries (newCommunicationIndex normalized).dependencies =
      Carries structural.communicationDependencies := by
  rw [carries_newCommunicationIndex, hnormalizes.carries]

theorem Normalizes.needsCarrier {first second : String} :
    NeedsCarrier normalized.groupNodes (newCommunicationIndex normalized).dependencies
        first second ↔
      NeedsCarrier structural.groupNodes structural.communicationDependencies first second := by
  simp only [NeedsCarrier, Touches, DependsOn, hnormalizes.actsOn, hnormalizes.releases,
    hnormalizes.indexCarries]

theorem Normalizes.releasesShared {name : String} :
    ReleasesShared normalized.groupNodes (newCommunicationIndex normalized).dependencies
        normalized.communicationServices name ↔
      ReleasesShared structural.groupNodes structural.communicationDependencies
        structural.communicationServices name := by
  have hs : ∀ carrier, SharedCarrier (newCommunicationIndex normalized).dependencies
      normalized.communicationServices carrier ↔ SharedCarrier
        structural.communicationDependencies structural.communicationServices carrier := by
    intro carrier
    rw [← hnormalizes.sharedCarrier, SharedCarrier, carries_newCommunicationIndex, SharedCarrier]
  simp only [ReleasesShared, hs, hnormalizes.releases]

end

def constantHash : StableHash := ⟨fun _ => .ok "", fun _ => .ok "", fun _ => .ok ""⟩

theorem exists_ok_of_map {result : Except ε α} {view : α → β} {value : β}
    (h : result.toOption.map view = some value) :
    ∃ accepted, result = .ok accepted ∧ view accepted = value := by
  cases result with
  | error diagnostics => cases h
  | ok accepted => exact ⟨accepted, rfl, Option.some.inj h⟩

end NutOperator.Planner
