import NutOperator.Planner.WaveOrder

/-! Communication carriers are released after the work that depends on them, in
grouped and in linear plans. -/
namespace NutOperator.Planner

open Data NutOperator.Graph List

variable {input : StructuralInputs} {index : CommunicationIndex} {first second : String}

theorem communicationOrder_ok (h : hasError (communicationDiagnostics input index) = false)
    {edge : GraphEdge} (hedge : edge ∈ communicationOrderEdges input index) :
    edge.fromID ≠ edge.toID ∧ (input.groups = [] →
        stepIndex input.steps edge.fromID ≤ stepIndex input.steps edge.toID) := by
  rw [communicationDiagnostics, hasError_append, Bool.or_eq_false_iff] at h
  have hone := hasError_flatMap.mp h.2 edge hedge
  unfold communicationOrderDiagnostic at hone
  split_ifs at hone with hself ho
  · simp at hone
  · simp at hone
  · refine ⟨hself, fun hgroups => ?_⟩
    rw [not_and] at ho
    exact not_lt.mp (ho hgroups)

theorem stepIndex_eq {steps : List Step} (hnodup : (steps.map (·.id)).Nodup) {position : Nat}
    {step : Step} (hstep : steps[position]? = some step) : stepIndex steps step.id = position := by
  have hmem : (step, position) ∈ steps.zipIdx := mk_mem_zipIdx_iff_getElem?.mpr hstep
  have hkeys : (steps.zipIdx.map fun entry => entry.1.id).Nodup := by
    have hf : (steps.zipIdx.map fun entry => entry.1.id) = steps.map (·.id) := by
      rw [← zipIdx_map_fst 0 steps, map_map]
      simp
    rwa [hf]
  rw [stepIndex, lookup_fillMap hkeys hmem]
  rfl

def stepStages (steps : List Step) : List (List String) := steps.map fun step => [step.id]

theorem flatten_stepStages (steps : List Step) : (stepStages steps).flatten = steps.map (·.id) :=
  map_eq_flatMap.symm

theorem precedes_stepStages {steps : List Step} (hnodup : (steps.map (·.id)).Nodup)
    (hfirst : first ∈ steps.map (·.id)) (hsecond : second ∈ steps.map (·.id)) (hne : first ≠ second)
    (hle : stepIndex steps first ≤ stepIndex steps second) :
    Precedes (stepStages steps) first second := by
  obtain ⟨step, hstep, rfl⟩ := mem_map.mp hfirst
  obtain ⟨step', hstep', rfl⟩ := mem_map.mp hsecond
  obtain ⟨i, hi⟩ := List.getElem?_of_mem hstep
  obtain ⟨j, hj⟩ := List.getElem?_of_mem hstep'
  rw [stepIndex_eq hnodup hi, stepIndex_eq hnodup hj] at hle
  have hflat : (stepStages steps).flatten.Nodup := by rwa [flatten_stepStages]
  have hp : i ≠ j := by
    rintro rfl
    rw [hi, Option.some.injEq] at hj
    exact hne (congrArg Step.id hj)
  refine ⟨i, j, (waveIndex_eq_some hflat).mpr ⟨[step.id], ?_, mem_singleton_self _⟩,
    (waveIndex_eq_some hflat).mpr ⟨[step'.id], ?_, mem_singleton_self _⟩, by omega⟩
  · simp [stepStages, hi]
  · simp [stepStages, hj]

theorem joins_of_communicationOrderEdges {relation : Relation}
    (h : Joins (communicationOrderEdges input index) relation first second) :
    Joins (collectCommunicationGraphEdges (scopeWork input).groups input.groupNodes index
      input.communicationServices) relation first second := by
  unfold communicationOrderEdges at h
  unfold scopeWork
  split at h
  · rename_i hgroups
    unfold collectLinearCommunicationGraphEdges at h
    split at h
    · obtain ⟨edge, hedge, -⟩ := h
      cases hedge
    · rwa [if_pos hgroups]
  · rename_i hgroups
    rwa [if_neg hgroups]

theorem joins_communicationOrderEdges
    (hidx : input.communicationDependencies = [] → index.dependencies = []) {relation : Relation} :
    Joins (communicationOrderEdges input index) relation first second ↔
      Joins (collectCommunicationGraphEdges (scopeWork input).groups input.groupNodes index
        input.communicationServices) relation first second := by
  refine ⟨joins_of_communicationOrderEdges, fun h => ?_⟩
  unfold communicationOrderEdges
  unfold scopeWork at h
  split
  · rename_i hgroups
    rw [if_pos hgroups] at h
    unfold collectLinearCommunicationGraphEdges
    split
    · rename_i hguard
      obtain ⟨-, -, -, hneeds | ⟨-, carrier, -, service, hs, -⟩⟩ :=
        of_joins_collectCommunicationGraphEdges h
      · obtain ⟨node, carrier, -, -, hd, -⟩ := hneeds
        obtain ⟨_, ⟨dependency, hdepends, -⟩, -⟩ := Relation.TransGen.head'_iff.mp hd
        rw [hidx hguard.1] at hdepends
        cases hdepends
      · rw [hguard.2] at hs
        cases hs
    · exact h
  · rename_i hgroups
    rwa [if_neg hgroups] at h

section

variable {structural normalized surviving : StructuralInputs} {plan : Plan} {pruned : List String}
  (hcompiled : CompiledFrom structural plan normalized surviving pruned)

include hcompiled

theorem CompiledFrom.stages_grouped (hgroups : structural.groups ≠ []) :
    plan.stages = waveGroups plan.waves := by
  have hne : plan.waves ≠ [] := by
    intro he
    have hp := (hcompiled.scheduled hgroups).2.placed
    rw [he] at hp
    exact hcompiled.groups_ne_nil hgroups (map_eq_nil_iff.mp (nil_perm.mp hp))
  rw [Plan.stages, if_neg hne, waveGroups]

section

variable (hgroups : structural.groups = [])

include hgroups

theorem CompiledFrom.normalized_groups_eq_nil : normalized.groups = [] := by
  have hperm := hcompiled.normalizes.groups
  rw [hgroups] at hperm
  exact perm_nil.mp hperm

theorem CompiledFrom.groups_eq_nil : surviving.groups = [] := by
  rw [hcompiled.survival.groups, hcompiled.normalized_groups_eq_nil hgroups]
  rfl

theorem CompiledFrom.waves_eq_nil : plan.waves = [] := by
  have hw := hcompiled.accepted.waves
  unfold compileSchedule at hw
  rw [if_neg (not_not.mpr (hcompiled.groups_eq_nil hgroups))] at hw
  exact hw

theorem CompiledFrom.stages_linear : plan.stages = stepStages surviving.steps := by
  have hs := hcompiled.accepted.steps
  unfold compileSchedule at hs
  rw [if_neg (not_not.mpr (hcompiled.groups_eq_nil hgroups))] at hs
  have hids : plan.steps.map (·.id) = surviving.steps.map (·.id) := by
    rw [hs]
    exact map_id_compileSteps surviving.steps
  have hsingle := congrArg (List.map fun id => [id]) hids
  rw [map_map, map_map] at hsingle
  rw [Plan.stages, if_pos (hcompiled.waves_eq_nil hgroups)]
  exact hsingle

end

theorem CompiledFrom.stages_placed :
    plan.stages.flatten.Perm (actionNames surviving) ∧ plan.stages.flatten.Nodup ∧
      [] ∉ plan.stages := by
  by_cases hgroups : structural.groups = []
  · rw [hcompiled.stages_linear hgroups, flatten_stepStages, actionNames,
      if_neg (not_not.mpr (hcompiled.groups_eq_nil hgroups))]
    refine ⟨.refl _, hcompiled.wellFormed.stepIDs, ?_⟩
    simp [stepStages]
  · have hs := (hcompiled.scheduled hgroups).2
    rw [hcompiled.stages_grouped hgroups, actionNames, if_pos (hcompiled.groups_ne_nil hgroups)]
    exact ⟨hs.placed, hcompiled.nodup_plan_groups hgroups, hs.nonempty⟩

theorem CompiledFrom.not_pruned {name : String} (hname : name ∈ plan.stages.flatten) :
    name ∈ actionNames structural ∧ name ∉ pruned := by
  have hmem := hcompiled.stages_placed.1.mem_iff.mp hname
  by_cases hgroups : structural.groups = []
  · rw [actionNames, if_neg (not_not.mpr (hcompiled.groups_eq_nil hgroups))] at hmem
    rw [actionNames, if_neg (not_not.mpr hgroups)]
    rw [hcompiled.survival.steps (hcompiled.normalized_groups_eq_nil hgroups),
      hcompiled.normalizes.steps] at hmem
    obtain ⟨step, hstep, rfl⟩ := mem_map.mp hmem
    obtain ⟨hstep, hkept⟩ := mem_filter.mp hstep
    exact ⟨mem_map_of_mem hstep, of_decide_eq_true hkept⟩
  · rw [actionNames, if_pos (hcompiled.groups_ne_nil hgroups)] at hmem
    rw [actionNames, if_pos hgroups]
    exact hcompiled.mem_names.mp hmem

theorem CompiledFrom.distinct_actions (hdistinct : DistinctIDs (actionNames structural)) :
    DistinctIDs ((scopeWork surviving).groups.map (·.name)) := by
  have hmem : ∀ name ∈ (scopeWork surviving).groups.map (·.name),
      name ∈ actionNames structural := by
    intro name hname
    rw [map_name_scopeWork, ← hcompiled.stages_placed.1.mem_iff] at hname
    exact (hcompiled.not_pruned hname).1
  exact fun first hf second hs =>
    hdistinct first (hmem first hf) second (hmem second hs)

theorem CompiledFrom.communication_precedes
    (hjoins : Joins (communicationOrderEdges surviving (newCommunicationIndex normalized))
      .communicationPath first second) : Precedes plan.stages first second := by
  by_cases hgroups : structural.groups = []
  · have hnone := hcompiled.groups_eq_nil hgroups
    obtain ⟨edge, hedge, -, rfl, rfl⟩ := hjoins
    obtain ⟨hne, hle⟩ := communicationOrder_ok hcompiled.accepted.communication hedge
    have hacts := of_joins_collectCommunicationGraphEdges
      (joins_of_communicationOrderEdges ⟨edge, hedge, rfl, rfl, rfl⟩)
    rw [map_name_scopeWork, actionNames, if_neg (not_not.mpr hnone)] at hacts
    rw [hcompiled.stages_linear hgroups]
    exact precedes_stepStages hcompiled.wellFormed.stepIDs hacts.2.1 hacts.2.2.1 hne (hle hnone)
  · rw [communicationOrderEdges, if_neg (hcompiled.groups_ne_nil hgroups)] at hjoins
    rw [hcompiled.stages_grouped hgroups]
    exact hcompiled.precedes hgroups ((hcompiled.joins hgroups).mpr (.inr (.inr hjoins)))

theorem CompiledFrom.joins_communicationOrder (hdistinct : DistinctIDs (actionNames structural))
    (hfirst : first ∈ plan.stages.flatten) (hsecond : second ∈ plan.stages.flatten)
    (hneeds : NeedsCarrier structural.groupNodes structural.communicationDependencies first second ∨
      first ≠ second ∧ ReleasesShared structural.groupNodes
        structural.communicationDependencies structural.communicationServices second) :
    Joins (communicationOrderEdges surviving (newCommunicationIndex normalized))
      .communicationPath first second := by
  have hplaced := hcompiled.stages_placed.1
  have hfirstKept := (hcompiled.not_pruned hfirst).2
  have hsecondKept := (hcompiled.not_pruned hsecond).2
  have hnone : surviving.communicationDependencies = [] →
      (newCommunicationIndex normalized).dependencies = [] := by
    intro he
    rw [hcompiled.survival.dependencies] at he
    simp [newCommunicationIndex, he, normalizeCommunicationDependencies]
  rw [joins_communicationOrderEdges hnone,
    joins_collectCommunicationGraphEdges (hcompiled.distinct_actions hdistinct), map_name_scopeWork]
  refine ⟨rfl, hplaced.mem_iff.mp hfirst, hplaced.mem_iff.mp hsecond, ?_⟩
  rcases hneeds with hneeds | ⟨hne, hs⟩
  · exact .inl (hcompiled.needsCarrier.mpr ⟨hneeds, hfirstKept, hsecondKept⟩)
  · exact .inr ⟨hne, hcompiled.releasesShared.mpr ⟨hs, hsecondKept⟩⟩

end

/-- Work on an entity precedes the release of every carrier upstream of it, and
a carrier of a shared service is released alone, after everything else. -/
theorem carriers_released_last {hash : StableHash} {structural : StructuralInputs}
    {telemetry : TelemetryInputs} {history : HistoryInputs} {plan : Plan}
    {diagnostics : List Diagnostic}
    (h : compileWithHistory hash structural telemetry history = .ok (plan, diagnostics))
    (hdistinct : DistinctIDs (actionNames structural)) :
    (∀ first ∈ plan.stages.flatten, ∀ second ∈ plan.stages.flatten, ∀ entity carrier,
      Touches structural.groupNodes first entity → carrier ≠ entity →
      DependsOn structural.communicationDependencies entity carrier →
      Releases structural.groupNodes second carrier →
        first ≠ second ∧ Precedes plan.stages first second) ∧
    (∀ second ∈ plan.stages.flatten,
      ReleasesShared structural.groupNodes structural.communicationDependencies
        structural.communicationServices second →
        (∀ first ∈ plan.stages.flatten, first ≠ second → Precedes plan.stages first second) ∧
          plan.stages.getLast? = some [second] ∧
          ∀ other ∈ plan.stages.flatten,
            ReleasesShared structural.groupNodes structural.communicationDependencies
              structural.communicationServices other → other = second) := by
  obtain ⟨normalized, surviving, pruned, -, -, hcompiled⟩ := compiledFrom_of_compile h
  constructor
  · intro first hfirst second hsecond entity carrier ht hne hd hr
    have hp := hcompiled.communication_precedes (hcompiled.joins_communicationOrder
      hdistinct hfirst hsecond (.inl ⟨entity, carrier, ht, hne, hd, hr⟩))
    refine ⟨?_, hp⟩
    rintro rfl
    exact Precedes.irrefl hp
  · obtain ⟨-, hn, hnonempty⟩ := hcompiled.stages_placed
    have hall : ∀ second ∈ plan.stages.flatten, ReleasesShared structural.groupNodes
        structural.communicationDependencies structural.communicationServices second →
        ∀ first ∈ plan.stages.flatten, first ≠ second → Precedes plan.stages first second := by
      intro second hsecond hshared first hfirst hne
      exact hcompiled.communication_precedes (hcompiled.joins_communicationOrder hdistinct
        hfirst hsecond (.inr ⟨hne, hshared⟩))
    intro second hsecond hshared
    refine ⟨hall second hsecond hshared,
      getLast?_eq_of_all_precede hn hnonempty hsecond (hall second hsecond hshared), ?_⟩
    intro other ho hshared'
    by_contra hne
    exact Precedes.irrefl ((hall second hsecond hshared other ho hne).trans
      (hall other ho hshared' second hsecond (Ne.symm hne)))

def switchedFlow : StructuralInputs :=
  { triggers := [{ type := "OnBattery" }]
    groups := [{ name := "switch" }, { name := "work" }]
    groupNodes :=
      [{ group := "work", acts := ["node-1"] }, { group := "switch", releases := ["switch-1"] }]
    communicationDependencies := [{ dependent := "node-1", carrier := "switch-1" }]
    communicationServices := [{ service := "NUT", entities := ["switch-1"] }] }

theorem switchedFlow_releases_last :
    ∃ plan diagnostics, compileWithHistory constantHash switchedFlow {} {} =
        .ok (plan, diagnostics) ∧ DistinctIDs (actionNames switchedFlow) ∧
      Precedes plan.stages "work" "switch" ∧ plan.stages.getLast? = some ["switch"] := by
  obtain ⟨⟨plan, diagnostics⟩, haccepted, hs⟩ : ∃ accepted,
      compileWithHistory constantHash switchedFlow {} {} = .ok accepted ∧
        accepted.1.stages = [["work"], ["switch"]] :=
    exists_ok_of_map (by decide)
  have hd : DistinctIDs (actionNames switchedFlow) := by
    unfold DistinctIDs
    decide
  have hmem : ∀ name ∈ ["work", "switch"], name ∈ plan.stages.flatten := by
    rw [hs]
    exact fun _ => id
  have hr : Releases switchedFlow.groupNodes "switch" "switch-1" :=
    ⟨_, List.mem_cons_of_mem _ List.mem_cons_self, rfl, List.mem_singleton_self _⟩
  obtain ⟨hneeds, hshared⟩ := carriers_released_last haccepted hd
  refine ⟨plan, diagnostics, haccepted, hd, ?_, ?_⟩
  · refine (hneeds "work" (hmem _ (by decide)) "switch" (hmem _ (by decide)) "node-1" "switch-1"
      (.inl ⟨_, List.mem_cons_self, rfl, List.mem_singleton_self _⟩) (by decide) ?_ hr).2
    exact .single ⟨_, List.mem_singleton_self _, rfl, rfl⟩
  · refine (hshared "switch" (hmem _ (by decide)) ⟨"switch-1", hr, ?_⟩).2.1
    exact ⟨_, List.mem_singleton_self _, rfl, "switch-1", List.mem_singleton_self _, .refl⟩

end NutOperator.Planner
