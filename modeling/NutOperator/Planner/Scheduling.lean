import NutOperator.Graph.Descent
import NutOperator.Planner.Artifacts
import NutOperator.Planner.Estimates

/-! Scheduling: the group graph descends into waves; a linear flow keeps the
order of its steps. -/
namespace NutOperator.Planner

open Data NutOperator.Graph

/-- Every group starts at zero and every edge counts once at its target. -/
def indegrees (groups : List Group) (graph : Graph) : Counters String :=
  (graph.edges.map (·.toID)).foldl (bump 1) (fillMap (·.name) (fun _ => some 0) groups)

def groupNamed (groups : List Group) (name : String) : Group :=
  ((groups.reverse).find? (·.name = name)).getD { name := "" }

/-- Presentation of one wave: the steps and waves compiled so far tell its index
and when it starts. -/
structure Descended where
  steps : List CompiledStep := []
  waves : List Wave := []
  cumulative : Duration := 0

def waveDuration (waveGroups : List Group) : Duration :=
  (waveGroups.map declaredGroupDuration).foldl max 0

def addWave (groups : List Group) (tiers : TierMap) (descended : Descended)
    (groupNames : List String) : Descended :=
  let waveGroups := groupNames.map (groupNamed groups)
  let duration := waveDuration waveGroups
  let cumulative := wrapDuration (descended.cumulative + duration)
  { steps := descended.steps ++ waveGroups.mapIdx fun position group =>
      { id := group.name, index := descended.steps.length + position, action := group.action
        shutdownTier := shutdownTierPtr group.name tiers
        targetSummary := summarizeTarget group.target, cumulativeDuration := cumulative }
    waves := descended.waves ++
      [{ index := descended.waves.length
         shutdownTier := sharedShutdownTier groupNames tiers, groups := groupNames
         duration := duration, cumulativeDuration := cumulative }]
    cumulative := cumulative }

/-- The error lists the groups that never became schedulable. A wave holds at
least one group, so the number of groups bounds the rounds. -/
def compileGroups (groups : List Group) (graph : Graph) :
    Except (List String) (List CompiledStep × List Wave × Duration) :=
  match descend (graphSuccessors graph) sortStrings groups.length (indegrees groups graph) with
  | .error stalled => .error (sortStrings stalled)
  | .ok waves =>
    let descended := waves.foldl (addWave groups (graphShutdownTiers graph)) {}
    .ok (descended.steps, descended.waves, descended.cumulative)

/-- Time a step adds: a pause is bounded by its timeout, other steps take both. -/
def stepDuration (step : Step) : Duration :=
  if step.action = "Wait" then boundedWaitDuration step.duration step.timeout
  else max step.duration 0 + max step.timeout 0

def compileSteps (steps : List Step) : List CompiledStep × Duration :=
  let compiled := withEarlier (fun earlier step =>
      [{ id := step.id
         index := earlier.length, action := step.action
         targetSummary := summarizeTarget step.target
         cumulativeDuration := wrapDuration ((earlier.map stepDuration).sum + stepDuration step) }])
    [] steps
  (compiled, wrapDuration (steps.map stepDuration).sum)

def planNotSchedulable (stalled : List String) : Diagnostic := errorDiagnostic "PlanNotSchedulable"
    (s!"shutdown groups {commaList stalled} never became schedulable, so wave descent could " ++
      "not finish; this is a planner defect rather than a flow error, because a dependency " ++
      "cycle is rejected as DependencyCycle before this point")
    (join stalled ",")

def compileSchedule (input : StructuralInputs) (index : CommunicationIndex) :
    Plan × List Diagnostic :=
  if input.groups ≠ [] then
    let graph := buildGroupGraphForInputs input index
    match compileGroups input.groups graph with
    | .error stalled => ({}, [planNotSchedulable stalled])
    | .ok (steps, waves, duration) =>
      ({ graph := graph
         steps := steps, waves := waves, startupWaves := advisoryStartupWaves waves
         estimatedDuration := duration }, [])
  else
    let graph := buildStepGraph input.steps
    let (steps, duration) := compileSteps input.steps
    ({ graph := sortGraph
        { graph with edges := graph.edges ++ collectLinearCommunicationGraphEdges input index }
       steps := steps, estimatedDuration := duration }, [])

def applyGroupEstimates (plan : Plan) (groups : List Group) (history : HistoryInputs) : Plan :=
  let estimates := compileGroupEstimates groups history
  { plan with
    groupEstimates := estimates, estimateConfidence := summarizeEstimateConfidence estimates
    observedDuration := (observedPlanDuration plan.waves estimates).getD plan.observedDuration }

def waveGroups (waves : List Wave) : List (List String) := waves.map (·.groups)

theorem foldl_addWave (groups : List Group) (tiers : TierMap) (descended : Descended)
    (waves : List (List String)) :
    waveGroups (waves.foldl (addWave groups tiers) descended).waves =
        waveGroups descended.waves ++ waves ∧
      ∀ wave ∈ (waves.foldl (addWave groups tiers) descended).waves,
        wave ∈ descended.waves ∨ wave.shutdownTier = sharedShutdownTier wave.groups tiers ∧
          wave.duration = waveDuration (wave.groups.map (groupNamed groups)) := by
  induction waves generalizing descended with
  | nil => exact ⟨by simp, fun wave hwave => .inl hwave⟩
  | cons names rest ih =>
    obtain ⟨hg, ht⟩ := ih (addWave groups tiers descended names)
    rw [List.foldl_cons]
    refine ⟨?_, fun wave hwave => ?_⟩
    · rw [hg]
      simp [addWave, waveGroups]
    · rcases ht wave hwave with hold | htier
      · rcases List.mem_append.mp hold with hold | hnew
        · exact .inl hold
        · rw [List.mem_singleton] at hnew
          rw [hnew]
          exact .inr ⟨rfl, rfl⟩
      · exact .inr htier

variable {groups : List Group}

theorem keys_startCounters (hnodup : (groups.map (·.name)).Nodup) :
    (∀ name, name ∈ (fillMap (·.name) (fun _ => some (0 : Int)) groups).keys ↔
      name ∈ groups.map (·.name)) ∧
    ∀ name ∈ (fillMap (·.name) (fun _ => some (0 : Int)) groups).keys,
      (fillMap (·.name) (fun _ => some (0 : Int)) groups).lookup name = some 0 := by
  have hlookup : ∀ group ∈ groups,
      (fillMap (·.name) (fun _ => some (0 : Int)) groups).lookup group.name = some 0 :=
    fun group hgroup => lookup_fillMap hnodup hgroup
  have hkeys : ∀ name, name ∈ (fillMap (·.name) (fun _ => some (0 : Int)) groups).keys ↔
      name ∈ groups.map (·.name) := by
    intro name
    rw [← AList.mem_keys, ← AList.lookup_isSome]
    constructor
    · intro hsome
      by_contra hmem
      rw [lookup_fillMap_eq_none hmem] at hsome
      cases hsome
    · intro hmem
      obtain ⟨group, hgroup, rfl⟩ := List.mem_map.mp hmem
      rw [hlookup group hgroup]
      rfl
  refine ⟨hkeys, fun name hname => ?_⟩
  obtain ⟨group, hgroup, rfl⟩ := List.mem_map.mp ((hkeys name).mp hname)
  exact hlookup group hgroup

theorem indegrees_balanced {graph : Graph} (hnodup : (groups.map (·.name)).Nodup)
    (hclosed : ∀ relation first second, Joins graph.edges relation first second →
      first ∈ groups.map (·.name) ∧ second ∈ groups.map (·.name)) :
    Balanced (graphSuccessors graph) (indegrees groups graph) ∧
      (indegrees groups graph).keys.Perm (groups.map (·.name)) := by
  obtain ⟨hkeys, hzero⟩ := keys_startCounters hnodup
  have hedge : ∀ edge ∈ graph.edges,
      edge.fromID ∈ groups.map (·.name) ∧ edge.toID ∈ groups.map (·.name) :=
    fun edge hmem => hclosed _ _ _ ⟨edge, hmem, rfl, rfl, rfl⟩
  obtain ⟨hb, hperm⟩ := Balanced.of_edges
    (fun name => (sortStable_perm _ _ : (graphSuccessors graph name).Perm _)) hzero
    (fun edge hmem => (hkeys _).mpr (hedge edge hmem).1)
    (fun edge hmem => (hkeys _).mpr (hedge edge hmem).2)
  refine ⟨hb, hperm.trans ?_⟩
  exact (List.perm_ext_iff_of_nodup (AList.keys_nodup _) hnodup).mpr hkeys

structure Scheduled (groups : List Group) (graph : Graph) (waves : List Wave) : Prop where
  placed : (waveGroups waves).flatten.Perm (groups.map (·.name))
  nonempty : [] ∉ waveGroups waves
  ordered : ∀ relation first second, Joins graph.edges relation first second →
    Precedes (waveGroups waves) first second
  tiered : ∀ wave ∈ waves,
    wave.shutdownTier = sharedShutdownTier wave.groups (graphShutdownTiers graph)

theorem compileGroups_ok {graph : Graph} (hnodup : (groups.map (·.name)).Nodup)
    (hclosed : ∀ relation first second, Joins graph.edges relation first second →
      first ∈ groups.map (·.name) ∧ second ∈ groups.map (·.name)) {steps : List CompiledStep}
    {waves : List Wave} {dur : Duration}
    (hrun : compileGroups groups graph = .ok (steps, waves, dur)) :
    Scheduled groups graph waves := by
  obtain ⟨hb, hkeys⟩ := indegrees_balanced hnodup hclosed
  unfold compileGroups at hrun
  split at hrun
  · cases hrun
  · rename_i descended hd
    obtain ⟨hplaced, hn, horders⟩ := descend_ok (fun wave => sortStable_perm _ wave) hb hd
    obtain ⟨hg, htiers⟩ := foldl_addWave groups (graphShutdownTiers graph) {} descended
    have hwaves : waves =
      (descended.foldl (addWave groups (graphShutdownTiers graph)) {}).waves := by
      simp only [Except.ok.injEq, Prod.mk.injEq] at hrun
      exact hrun.2.1.symm
    have hnames : waveGroups waves = descended := by
      rw [hwaves, hg]
      rfl
    refine ⟨?_, ?_, ?_, ?_⟩
    · rw [hnames]
      exact hplaced.trans hkeys
    · rwa [hnames]
    · intro relation first second hj
      rw [hnames]
      exact horders first (hkeys.mem_iff.mpr (hclosed relation first second hj).1) second
        (mem_graphSuccessors.mpr ⟨relation, hj⟩)
    · intro wave hwave
      rw [hwaves] at hwave
      rcases htiers wave hwave with hold | htier
      · cases hold
      · exact htier.1

theorem duration_of_compileGroups {graph : Graph} {steps : List CompiledStep} {waves : List Wave}
    {dur : Duration} (h : compileGroups groups graph = .ok (steps, waves, dur))
    {wave : Wave} (hwave : wave ∈ waves) :
    wave.duration = waveDuration (wave.groups.map (groupNamed groups)) := by
  unfold compileGroups at h
  split at h
  · cases h
  · rename_i descended _
    cases h
    rcases (foldl_addWave groups (graphShutdownTiers graph) {} descended).2 wave hwave with
      hold | hnew
    · cases hold
    · exact hnew.2

theorem duration_of_compileSchedule {input : StructuralInputs} {index : CommunicationIndex}
    {wave : Wave} (hwave : wave ∈ (compileSchedule input index).1.waves) :
    wave.duration = waveDuration (wave.groups.map (groupNamed input.groups)) := by
  unfold compileSchedule at hwave
  split at hwave
  · dsimp only at hwave
    split at hwave
    · cases hwave
    · rename_i steps waves dur hc
      exact duration_of_compileGroups hc hwave
  · cases hwave

theorem map_id_compileSteps (steps : List Step) :
    (compileSteps steps).1.map (·.id) = steps.map (·.id) := by
  unfold compileSteps
  exact map_withEarlier_singleton CompiledStep.id Step.id (fun _ _ => rfl) [] steps

end NutOperator.Planner
