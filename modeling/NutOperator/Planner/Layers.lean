import NutOperator.Graph.Layers
import NutOperator.Planner.WaveOrder

/-! The waves of a plan as the layers of its graph, the numbering of its steps, and its
estimated duration. -/
namespace NutOperator.Planner

open Data NutOperator.Graph List

structure Numbered (descended : Descended) : Prop where
  waves : descended.waves.map (·.index) = List.range descended.waves.length
  steps : descended.steps.map (·.index) = List.range descended.steps.length
  ids : descended.steps.map (·.id) = (waveGroups descended.waves).flatten
  cumulative : descended.cumulative = wrapDuration (descended.waves.map (·.duration)).sum

variable {groups : List Group}

theorem groupNamed_name (hnodup : (groups.map (·.name)).Nodup) {group : Group}
    (hgroup : group ∈ groups) : groupNamed groups group.name = group := by
  unfold groupNamed
  cases hf : groups.reverse.find? (·.name = group.name) with
  | none =>
    have hnone := List.find?_eq_none.mp hf group (mem_reverse.mpr hgroup)
    exact absurd (decide_eq_true rfl) hnone
  | some other =>
    have ho := mem_reverse.mp (mem_of_find?_eq_some hf)
    have hsame := List.find?_some hf
    exact inj_on_of_nodup_map hnodup ho hgroup (of_decide_eq_true hsame)

theorem Numbered.addWave {tiers : TierMap} {descended : Descended} {names : List String}
    (h : Numbered descended) (hnodup : (groups.map (·.name)).Nodup)
    (hnames : ∀ name ∈ names, name ∈ groups.map (·.name)) :
    Numbered (addWave groups tiers descended names) := by
  have hsame : (names.map (groupNamed groups)).map (·.name) = names := by
    rw [map_map]
    conv_rhs => rw [← map_id names]
    apply map_congr_left
    intro name hname
    obtain ⟨group, hg, rfl⟩ := mem_map.mp (hnames name hname)
    exact congrArg Group.name (groupNamed_name hnodup hg)
  constructor
  · simp [Planner.addWave, h.waves, range_succ]
  · simp only [Planner.addWave, map_append, h.steps, length_append, length_mapIdx,
      length_map, range_add]
    congr 1
    apply ext_getElem
    · simp
    · intro position _ _
      simp
  · simp only [Planner.addWave, map_append, h.ids, waveGroups, flatten_append]
    congr 1
    conv_rhs => rw [map_singleton, flatten_singleton, ← hsame]
    apply ext_getElem
    · simp
    · intro position _ _
      simp
  · simp only [Planner.addWave, map_append, map_singleton, sum_append,
      sum_singleton, h.cumulative, wrapDuration_add_wrapDuration]

theorem numbered_foldl_addWave {tiers : TierMap} {descended : Descended}
    {waves : List (List String)} (h : Numbered descended) (hnodup : (groups.map (·.name)).Nodup)
    (hnames : ∀ name ∈ waves.flatten, name ∈ groups.map (·.name)) :
    Numbered (waves.foldl (addWave groups tiers) descended) := by
  induction waves generalizing descended with
  | nil => exact h
  | cons names rest ih =>
    rw [flatten_cons] at hnames
    exact ih (h.addWave hnodup fun name hname => hnames name (mem_append_left _ hname))
      fun name hname => hnames name (mem_append_right _ hname)

theorem numbered_of_compileGroups {graph : Graph} (hnodup : (groups.map (·.name)).Nodup)
    (hclosed : ∀ relation first second, Joins graph.edges relation first second →
      first ∈ groups.map (·.name) ∧ second ∈ groups.map (·.name)) {steps : List CompiledStep}
    {waves : List Wave} {dur : Duration}
    (h : compileGroups groups graph = .ok (steps, waves, dur)) :
    Numbered ⟨steps, waves, dur⟩ ∧
      (waveGroups waves).IsChain (AfterWave (graphSuccessors graph)) := by
  have hplaced := (compileGroups_ok hnodup hclosed h).placed
  obtain ⟨hbalanced, -⟩ := indegrees_balanced hnodup hclosed
  unfold compileGroups at h
  split at h
  · cases h
  · rename_i descended hd
    have hg := (foldl_addWave groups (graphShutdownTiers graph) {} descended).1
    cases h
    rw [hg] at hplaced ⊢
    constructor
    · have he : Numbered {} := ⟨rfl, rfl, rfl, rfl⟩
      exact numbered_foldl_addWave he hnodup fun name hname => hplaced.mem_iff.mp hname
    · exact afterWave_of_descend (fun wave => sortStable_perm _ wave) hbalanced hd

theorem Scheduled.precedes {graph : Graph} {waves : List Wave} (h : Scheduled groups graph waves)
    (first second : String) (hsecond : second ∈ graphSuccessors graph first) :
    Precedes (waveGroups waves) first second := by
  obtain ⟨relation, hj⟩ := mem_graphSuccessors.mp hsecond
  exact h.ordered relation first second hj

theorem hasGroupCycle_iff {input : StructuralInputs} {index : CommunicationIndex}
    (hnodup : (input.groups.map (·.name)).Nodup) (hknown : KnownDependencies input.groups) :
    hasGroupCycle input index = true ↔
      ∃ stalled, compileGroups input.groups (buildGroupGraphForInputs input index) =
        .error stalled := by
  have hclosed : ∀ relation first second, Joins (buildGroupGraphForInputs input index).edges
    relation first second →
        first ∈ input.groups.map (·.name) ∧ second ∈ input.groups.map (·.name) :=
    fun _ _ _ => mem_names_of_joins_graph hknown
  have htargets : ∀ first, ∀ second ∈ graphSuccessors (buildGroupGraphForInputs input index) first,
      second ∈ ((buildGroupGraphForInputs input index).edges.map (·.toID)).toFinset := by
    intro first second hs
    obtain ⟨relation, edge, hedge, -, -, rfl⟩ := mem_graphSuccessors.mp hs
    exact mem_toFinset.mpr (mem_map_of_mem hedge)
  have hstarting : ∀ first, graphSuccessors (buildGroupGraphForInputs input index) first ≠ [] →
      first ∈ input.groups.map (·.name) := by
    intro first hsome
    obtain ⟨second, hs⟩ := exists_mem_of_ne_nil _ hsome
    obtain ⟨relation, hj⟩ := mem_graphSuccessors.mp hs
    exact (hclosed relation first second hj).1
  have hfuel : ((buildGroupGraphForInputs input index).edges.map (·.toID)).toFinset.card + 1 <
      (buildGroupGraphForInputs input index).edges.length + 2 := by
    have hcard := toFinset_card_le ((buildGroupGraphForInputs input index).edges.map (·.toID))
    rw [length_map] at hcard
    omega
  rw [hasGroupCycle, hasCycle_iff htargets hfuel hstarting]
  constructor
  · rintro ⟨name, hcycle⟩
    cases hrun : compileGroups input.groups (buildGroupGraphForInputs input index) with
    | error stalled => exact ⟨stalled, rfl⟩
    | ok result =>
      obtain ⟨steps, waves, dur⟩ := result
      exact absurd hcycle (acyclic_of_precedes (compileGroups_ok hnodup hclosed hrun).precedes)
  · rintro ⟨stalled, hrun⟩
    obtain ⟨hb, hkeys⟩ := indegrees_balanced hnodup hclosed
    unfold compileGroups at hrun
    split at hrun
    · rename_i hd
      apply exists_onCycle_of_descend (fun wave => sortStable_perm _ wave) hb _ hd
      rw [hkeys.length_eq, length_map]
    · cases hrun

/-- The longest declared duration of the named groups, where none is below zero. -/
structure Slowest (groups : List Group) (names : List String) (duration : Duration) : Prop where
  bound : ∀ group ∈ groups, group.name ∈ names → declaredGroupDuration group ≤ duration
  nonneg : 0 ≤ duration
  attained : duration = 0 ∨
    ∃ group ∈ groups, group.name ∈ names ∧ declaredGroupDuration group = duration

theorem foldl_max_spec (durs : List Duration) (start : Duration) :
    start ≤ durs.foldl max start ∧ (∀ d ∈ durs, d ≤ durs.foldl max start) ∧
      (durs.foldl max start = start ∨ durs.foldl max start ∈ durs) := by
  induction durs generalizing start with
  | nil => simp
  | cons first rest ih =>
    obtain ⟨hs, hb, ha⟩ := ih (max start first)
    rw [foldl_cons]
    refine ⟨(le_max_left _ _).trans hs, ?_, ?_⟩
    · exact forall_mem_cons.mpr ⟨(le_max_right _ _).trans hs, hb⟩
    · rcases ha with hmax | hmem
      · rcases max_choice start first with hleft | hr
        · exact .inl (hmax.trans hleft)
        · exact .inr (by rw [hmax, hr]; exact mem_cons_self)
      · exact .inr (mem_cons_of_mem _ hmem)

theorem slowest_waveDuration (hnodup : (groups.map (·.name)).Nodup) {names : List String}
    (hnames : ∀ name ∈ names, name ∈ groups.map (·.name)) :
    Slowest groups names (waveDuration (names.map (groupNamed groups))) := by
  obtain ⟨hs, hb, ha⟩ :=
    foldl_max_spec ((names.map (groupNamed groups)).map declaredGroupDuration) 0
  refine ⟨?_, hs, ?_⟩
  · intro group hgroup hname
    apply hb
    rw [← groupNamed_name hnodup hgroup]
    exact mem_map_of_mem (mem_map_of_mem hname)
  · rcases ha with hzero | hmem
    · exact .inl hzero
    · obtain ⟨_, hn, hd⟩ := mem_map.mp hmem
      obtain ⟨name, hname, rfl⟩ := mem_map.mp hn
      obtain ⟨group, hgroup, rfl⟩ := mem_map.mp (hnames name hname)
      rw [groupNamed_name hnodup hgroup] at hd
      exact .inr ⟨group, hgroup, hname, hd⟩

structure Layered (surviving : StructuralInputs) (plan : Plan) : Prop where
  placed : ∀ name ∈ surviving.groups.map (·.name), ∃! wave, wave ∈ plan.waves ∧ name ∈ wave.groups
  /-- The index of a wave is the length of the longest chain of predecessors of its groups. -/
  depth : ∀ wave ∈ plan.waves, ∀ name ∈ wave.groups,
    Depth (graphSuccessors plan.graph) name wave.index
  steps : plan.steps.map (·.id) = plan.groups ∧
    plan.steps.map (·.index) = List.range plan.steps.length
  slowest : ∀ wave ∈ plan.waves, Slowest surviving.groups wave.groups wave.duration
  duration : minDuration ≤ (plan.waves.map (·.duration)).sum →
    (plan.waves.map (·.duration)).sum ≤ maxDuration →
    plan.estimatedDuration = (plan.waves.map (·.duration)).sum

theorem CompiledFrom.layered {structural normalized surviving : StructuralInputs} {plan : Plan}
    {pruned : List String} (hcompiled : CompiledFrom structural plan normalized surviving pruned)
    (hgroups : structural.groups ≠ []) : Layered surviving plan := by
  have hwell := hcompiled.wellFormed
  obtain ⟨hg, hrun⟩ := hcompiled.compiledGroups hgroups
  have hc : ∀ relation first second, Joins plan.graph.edges relation first second →
      first ∈ surviving.groups.map (·.name) ∧ second ∈ surviving.groups.map (·.name) := by
    rw [hg]
    exact fun _ _ _ => mem_names_of_joins_graph hwell.known
  have hscheduled := compileGroups_ok hwell.groupNames hc hrun
  obtain ⟨hnumber, hbehind⟩ := numbered_of_compileGroups hwell.groupNames hc hrun
  have hnodup : (waveGroups plan.waves).flatten.Nodup :=
    hscheduled.placed.nodup_iff.mpr hwell.groupNames
  have hfound : ∀ wave ∈ plan.waves, plan.waves[wave.index]? = some wave := by
    intro wave hwave
    obtain ⟨position, hp⟩ := mem_iff_getElem?.mp hwave
    have hn : (plan.waves.map (·.index))[position]? = some wave.index := by
      rw [List.getElem?_map, hp, Option.map_some]
    rw [hnumber.waves] at hn
    obtain ⟨hlen, hsame⟩ := List.getElem?_eq_some_iff.mp hn
    rw [getElem_range] at hsame
    rw [← hsame]
    exact hp
  have hidx : ∀ wave ∈ plan.waves, (waveGroups plan.waves)[wave.index]? = some wave.groups := by
    intro wave hwave
    rw [waveGroups, List.getElem?_map, hfound wave hwave, Option.map_some]
  refine ⟨?_, ?_, ⟨hnumber.ids, hnumber.steps⟩, ?_, ?_⟩
  · intro name hname
    obtain ⟨names, hnames, hmem⟩ := mem_flatten.mp (hscheduled.placed.mem_iff.mpr hname)
    obtain ⟨wave, hwave, rfl⟩ := mem_map.mp hnames
    refine ⟨wave, ⟨hwave, hmem⟩, fun other ho => ?_⟩
    have hf := (waveIndex_eq_some hnodup).mpr ⟨_, hidx wave hwave, hmem⟩
    rw [(waveIndex_eq_some hnodup).mpr ⟨_, hidx other ho.1, ho.2⟩] at hf
    have hsame := hfound other ho.1
    rw [Option.some.inj hf, hfound wave hwave] at hsame
    exact (Option.some.inj hsame).symm
  · intro wave hwave name hname
    refine ⟨pathTo_of_afterWave hbehind (hidx wave hwave) hname, fun length hpath => ?_⟩
    exact le_of_pathTo hscheduled.precedes hpath
      ((waveIndex_eq_some hnodup).mpr ⟨_, hidx wave hwave, hname⟩)
  · intro wave hwave
    rw [duration_of_compileGroups hrun hwave]
    apply slowest_waveDuration hwell.groupNames
    intro name hname
    exact hscheduled.placed.mem_iff.mp (mem_flatten.mpr ⟨wave.groups, mem_map_of_mem hwave, hname⟩)
  · intro hlow hhigh
    have hwrap : plan.estimatedDuration =
        wrapDuration (plan.waves.map (·.duration)).sum := hnumber.cumulative
    rw [hwrap, wrapDuration_eq_self hlow hhigh]

/-- Accepted grouped plans are layered, and validation rejects exactly the graphs that
cannot be. -/
theorem plan_layered {hash : StableHash} {structural surviving : StructuralInputs}
    {telemetry : TelemetryInputs} {history : HistoryInputs} {plan : Plan}
    {diagnostics : List Diagnostic}
    (h : compileWithHistory hash structural telemetry history = .ok (plan, diagnostics))
    (hsurviving : survivingInputs hash structural = .ok surviving)
    (hgroups : structural.groups ≠ []) :
    Layered surviving plan ∧
    (∀ input index, (input.groups.map (·.name)).Nodup → KnownDependencies input.groups →
      (hasGroupCycle input index = true ↔ ∃ stalled,
        compileGroups input.groups (buildGroupGraphForInputs input index) = .error stalled)) ∧
    ∀ input index, hasError (validateStructuralInputsWithIndex input index) = false →
      ∃ result, compileGroups input.groups (buildGroupGraphForInputs input index) =
        .ok result := by
  obtain ⟨normalized, surviving', pruned, hsame, -, hc⟩ := compiledFrom_of_compile h
  obtain rfl := Except.ok.inj (hsurviving.symm.trans hsame)
  refine ⟨hc.layered hgroups, fun input index => hasGroupCycle_iff, ?_⟩
  intro input index hv
  have hwell := wellFormed_of_validated hv
  cases hrun : compileGroups input.groups (buildGroupGraphForInputs input index) with
  | ok result => exact ⟨result, rfl⟩
  | error stalled =>
    have hcycle := (hasGroupCycle_iff hwell.groupNames hwell.known).mpr ⟨stalled, hrun⟩
    unfold validateStructuralInputsWithIndex at hv
    rw [hasError_append, hcycle] at hv
    simp at hv

def pairedFlow : StructuralInputs :=
  { triggers := [{ type := "OnBattery" }]
    groups := [{ name := "a", timeout := 5 }, { name := "b", after := ["a"], timeout := 7 }] }

theorem plan_layered_two : ∃ plan diagnostics surviving,
    compile constantHash pairedFlow {} = .ok (plan, diagnostics) ∧
      survivingInputs constantHash pairedFlow = .ok surviving ∧ Layered surviving plan := by
  obtain ⟨⟨plan, diagnostics⟩, ha, -⟩ : ∃ accepted,
      compile constantHash pairedFlow {} = .ok accepted ∧
        waveGroups accepted.1.waves = [["a"], ["b"]] := exists_ok_of_map (by decide)
  obtain ⟨_, surviving, _, hs, -⟩ := compiledFrom_of_compile ha
  exact ⟨plan, diagnostics, surviving, ha, hs, (plan_layered ha hs (by decide)).1⟩

def negativeFlow : StructuralInputs :=
  { triggers := [{ type := "OnBattery" }]
    groups := [{ name := "a", timeout := -1 }] }

/-- The time of a wave starts from zero, so that a negative timeout is no maximum. -/
theorem negative_timeout_counts_as_zero :
    ∃ plan diagnostics, compile constantHash negativeFlow {} = .ok (plan, diagnostics) ∧
      waveGroups plan.waves = [["a"]] ∧ negativeFlow.groups.map declaredGroupDuration = [-1] ∧
      plan.estimatedDuration = 0 := by
  obtain ⟨⟨plan, diagnostics⟩, ha, hplan⟩ : ∃ accepted,
      compile constantHash negativeFlow {} = .ok accepted ∧
        (waveGroups accepted.1.waves, accepted.1.estimatedDuration) = ([["a"]], 0) :=
    exists_ok_of_map (by decide)
  obtain ⟨hw, hd⟩ := Prod.mk.inj hplan
  exact ⟨plan, diagnostics, ha, hw, by decide, hd⟩

end NutOperator.Planner
