import NutOperator.Planner.Survival

/-! The wave order of accepted grouped plans: declared orderings, node clearance
and shutdown tiers. -/
namespace NutOperator.Planner

open Data NutOperator.Graph List

def Plan.groups (plan : Plan) : List String := (waveGroups plan.waves).flatten

variable {structural normalized surviving : StructuralInputs} {plan : Plan} {pruned : List String}

section

variable (hcompiled : CompiledFrom structural plan normalized surviving pruned)
  (hgroups : structural.groups ≠ [])

include hcompiled hgroups

theorem CompiledFrom.mem_plan_groups {name : String} :
    name ∈ plan.groups ↔ name ∈ structural.groups.map (·.name) ∧ name ∉ pruned := by
  rw [Plan.groups, (hcompiled.scheduled hgroups).2.placed.mem_iff, hcompiled.mem_names]

theorem CompiledFrom.nodup_plan_groups : plan.groups.Nodup :=
  (hcompiled.scheduled hgroups).2.placed.nodup_iff.mpr hcompiled.wellFormed.groupNames

variable {relation : Relation} {first second : String}

theorem CompiledFrom.precedes (h : Joins plan.graph.edges relation first second) :
    Precedes (waveGroups plan.waves) first second :=
  (hcompiled.scheduled hgroups).2.ordered relation first second h

theorem CompiledFrom.joins : Joins plan.graph.edges relation first second ↔
      Joins (collectGroupGraphEdges surviving.groups surviving.tierPolicy) relation first second ∨
      Joins (collectNodeClearanceGraphEdges surviving.groups surviving.groupNodes) relation
        first second ∨
      Joins (collectCommunicationGraphEdges surviving.groups surviving.groupNodes
        (newCommunicationIndex normalized) surviving.communicationServices) relation
        first second := by
  rw [(hcompiled.scheduled hgroups).1, joins_buildGroupGraphForInputs]

theorem CompiledFrom.declares_iff : Declares surviving.groups relation first second ↔
      Declares structural.groups relation first second ∧ first ∈ plan.groups ∧
        second ∈ plan.groups := by
  constructor
  · intro hd
    obtain ⟨hf, hs⟩ := hcompiled.wellFormed.known.mem_names hd
    have hp := (hcompiled.scheduled hgroups).2.placed
    exact ⟨(hcompiled.declares.mp hd).1, hp.mem_iff.mpr hf, hp.mem_iff.mpr hs⟩
  · rintro ⟨hd, hf, hs⟩
    exact hcompiled.declares.mpr ⟨hd, ((hcompiled.mem_plan_groups hgroups).mp hf).2,
      ((hcompiled.mem_plan_groups hgroups).mp hs).2⟩

theorem CompiledFrom.joins_deduped (hdeclares : Declares structural.groups relation first second)
    (hjoins : Joins plan.graph.edges relation first second) :
    Joins (collectGroupGraphEdges surviving.groups surviving.tierPolicy) relation first second := by
  rcases (hcompiled.joins hgroups).mp hjoins with hg | hc | hcommand
  · exact hg
  · obtain ⟨rfl, -⟩ := of_joins_collectNodeClearanceGraphEdges hc
    exact hdeclares.elim
  · obtain ⟨rfl, -⟩ := of_joins_collectCommunicationGraphEdges hcommand
    exact hdeclares.elim

end

def DeclaredOrderKept (structural : StructuralInputs) (plan : Plan) : Prop :=
  ∀ relation first second, Declares structural.groups relation first second →
    first ∈ plan.groups → second ∈ plan.groups → Joins plan.graph.edges relation first second ∧
        Precedes (waveGroups plan.waves) first second

/-- No two orderings that the groups declare by the same field have different
endpoints with the same sanitised names. -/
def UnsharedIDs (groups : List Group) : Prop := ∀ relation first second first' second',
    Declares groups relation first second → Declares groups relation first' second' →
    safeGraphID first = safeGraphID first' → safeGraphID second = safeGraphID second' →
      first = first' ∧ second = second'

/-- An accepted plan keeps the declared orderings exactly when no two of those
among the groups that scoping leaves share an edge identifier. -/
theorem declaredOrderKept_iff {hash : StableHash} {structural surviving : StructuralInputs}
    {telemetry : TelemetryInputs} {history : HistoryInputs} {plan : Plan}
    {diagnostics : List Diagnostic}
    (h : compileWithHistory hash structural telemetry history = .ok (plan, diagnostics))
    (hsurviving : survivingInputs hash structural = .ok surviving)
    (hgroups : structural.groups ≠ []) :
    DeclaredOrderKept structural plan ↔ UnsharedIDs surviving.groups := by
  obtain ⟨normalized, surviving', pruned, hsame, -, hcompiled⟩ := compiledFrom_of_compile h
  obtain rfl := Except.ok.inj (hsurviving.symm.trans hsame)
  have hids := derivedIDs_groupEdges surviving.groups surviving.tierPolicy
  constructor
  · intro hkept relation first second first' second' hdeclares hdeclares' hsafe hsafe'
    obtain ⟨hdeclared, hfirst, hsecond⟩ := (hcompiled.declares_iff hgroups).mp hdeclares
    obtain ⟨hdeclared', hfirst', hsecond'⟩ := (hcompiled.declares_iff hgroups).mp hdeclares'
    obtain ⟨hjoins, -⟩ := hkept relation first second hdeclared hfirst hsecond
    obtain ⟨hjoins', -⟩ := hkept relation first' second' hdeclared' hfirst' hsecond'
    exact endpoints_eq_of_joins_dedupeGraphEdges hids
      (hcompiled.joins_deduped hgroups hdeclared hjoins)
      (hcompiled.joins_deduped hgroups hdeclared' hjoins') hsafe hsafe'
  · intro hunshared relation first second hdeclared hfirst hsecond
    have hrelation : relation ≠ .shutdownTier := by
      rintro rfl
      exact hdeclared
    have hdeclares := (hcompiled.declares_iff hgroups).mpr ⟨hdeclared, hfirst, hsecond⟩
    have hkept : Joins (collectGroupGraphEdges surviving.groups surviving.tierPolicy) relation
        first second := by
      apply joins_dedupeGraphEdges_of_unshared hids
      · exact joins_append.mpr (.inl (joins_declaredGroupEdges.mpr hdeclares))
      · intro first' second' hjoins' hsafe hsafe'
        rcases joins_append.mp hjoins' with hdeclares' | htier
        · exact hunshared relation first' second' first second
            (joins_declaredGroupEdges.mp hdeclares') hdeclares hsafe hsafe'
        · exact absurd (joins_collectShutdownTierGraphEdges.mp htier).1 hrelation
    have hedge := (hcompiled.joins hgroups).mpr (.inl hkept)
    exact ⟨hedge, hcompiled.precedes hgroups hedge⟩

/-- `a-b` and `a_b` share an identifier, so their two requirements on `c` do. -/
def collidingFlow : StructuralInputs :=
  { triggers := [{ type := "OnBattery" }]
    groups := [{ name := "a-b", requires := ["c"] }, { name := "a_b", requires := ["c"] },
        { name := "c" }, { name := "x", before := ["a-b"] }] }

theorem collidingFlow_loses_order :
    ∃ plan diagnostics, compile constantHash collidingFlow {} = .ok (plan, diagnostics) ∧
      waveGroups plan.waves = [["a_b", "x"], ["a-b", "c"]] ∧
      Declares collidingFlow.groups .requires "a-b" "c" ∧
      ¬ Precedes (waveGroups plan.waves) "a-b" "c" ∧ ¬ DeclaredOrderKept collidingFlow plan := by
  obtain ⟨⟨plan, diagnostics⟩, ha, hwaves⟩ : ∃ accepted,
      compile constantHash collidingFlow {} = .ok accepted ∧
        waveGroups accepted.1.waves = [["a_b", "x"], ["a-b", "c"]] :=
    exists_ok_of_map (by decide)
  have hd : Declares collidingFlow.groups .requires "a-b" "c" :=
    ⟨_, List.mem_cons_self, rfl, List.mem_singleton_self _⟩
  have hnot : ¬ Precedes (waveGroups plan.waves) "a-b" "c" := by
    rw [hwaves]
    decide
  refine ⟨plan, diagnostics, ha, hwaves, hd, hnot, fun hkept => hnot ?_⟩
  refine (hkept .requires "a-b" "c" hd ?_ ?_).2
  all_goals
    rw [Plan.groups, hwaves]
    decide

theorem unsharedIDs_of_distinctIDs {groups : List Group} (hknown : KnownDependencies groups)
    (hdistinct : DistinctIDs (groups.map (·.name))) : UnsharedIDs groups := by
  intro relation first second first' second' hdeclares hdeclares' hsafe hsafe'
  obtain ⟨hfirst, hsecond⟩ := hknown.mem_names hdeclares
  obtain ⟨hfirst', hsecond'⟩ := hknown.mem_names hdeclares'
  exact ⟨hdistinct first hfirst first' hfirst' hsafe, hdistinct second hsecond second'
    hsecond' hsafe'⟩

def layeredFlow : StructuralInputs :=
  { triggers := [{ type := "OnBattery" }]
    groups := [{ name := "database", requires := ["storage"], after := ["frontend"] },
        { name := "frontend", before := ["storage"] }, { name := "storage" }] }

theorem layeredFlow_keeps_order :
    ∃ plan diagnostics surviving, compileWithHistory constantHash layeredFlow {} {} =
        .ok (plan, diagnostics) ∧ survivingInputs constantHash layeredFlow = .ok surviving ∧
      UnsharedIDs surviving.groups ∧ DeclaredOrderKept layeredFlow plan := by
  obtain ⟨⟨plan, diagnostics⟩, haccepted, -⟩ : ∃ accepted,
      compileWithHistory constantHash layeredFlow {} {} = .ok accepted ∧
        waveGroups accepted.1.waves = [["frontend"], ["database"], ["storage"]] :=
    exists_ok_of_map (by decide)
  obtain ⟨surviving, hsurviving, hgroups⟩ : ∃ surviving,
      survivingInputs constantHash layeredFlow = .ok surviving ∧
        surviving.groups = layeredFlow.groups :=
    exists_ok_of_map (by decide)
  have hu : UnsharedIDs surviving.groups := by
    rw [hgroups]
    apply unsharedIDs_of_distinctIDs
    · unfold KnownDependencies
      decide
    · unfold DistinctIDs
      decide
  exact ⟨plan, diagnostics, surviving, haccepted, hsurviving, hu,
    (declaredOrderKept_iff haccepted hsurviving (by decide)).mpr hu⟩

/-- A node is worked on strictly before any other group powers it off. -/
theorem clearance_precedes_release {hash : StableHash} {structural : StructuralInputs}
    {telemetry : TelemetryInputs} {history : HistoryInputs} {plan : Plan}
    {diagnostics : List Diagnostic}
    (h : compileWithHistory hash structural telemetry history = .ok (plan, diagnostics))
    (hgroups : structural.groups ≠ [])
    (hdistinct : DistinctIDs (structural.groups.map (·.name))) {node first second : String}
    (hfirst : first ∈ plan.groups) (hsecond : second ∈ plan.groups)
    (hacts : ActsOn structural.groupNodes first node)
    (hreleases : Releases structural.groupNodes second node) (hne : first ≠ second) :
    Precedes (waveGroups plan.waves) first second := by
  obtain ⟨normalized, surviving, pruned, -, -, hcompiled⟩ := compiledFrom_of_compile h
  obtain ⟨hfirstName, hfirstKept⟩ := (hcompiled.mem_plan_groups hgroups).mp hfirst
  obtain ⟨hsecondName, hsecondKept⟩ := (hcompiled.mem_plan_groups hgroups).mp hsecond
  have hc : Joins (collectNodeClearanceGraphEdges surviving.groups surviving.groupNodes)
      .nodeClearance first second :=
    (joins_collectNodeClearanceGraphEdges (hcompiled.distinctIDs hdistinct)).mpr
      ⟨rfl, hcompiled.mem_names.mpr ⟨hfirstName, hfirstKept⟩,
        hcompiled.mem_names.mpr ⟨hsecondName, hsecondKept⟩, hne.symm, node,
        hcompiled.actsOn.mpr ⟨hacts, hfirstKept⟩, hcompiled.releases.mpr ⟨hreleases, hsecondKept⟩⟩
  exact hcompiled.precedes hgroups ((hcompiled.joins hgroups).mpr (.inr (.inl hc)))

def drainedFlow : StructuralInputs :=
  { triggers := [{ type := "OnBattery" }]
    groups := [{ name := "drain" }, { name := "power-off" }]
    groupNodes :=
      [{ group := "drain", acts := ["node-1"] }, { group := "power-off", releases := ["node-1"] }] }

theorem drainedFlow_clears_first :
    ∃ plan diagnostics, compileWithHistory constantHash drainedFlow {} {} =
        .ok (plan, diagnostics) ∧ DistinctIDs (drainedFlow.groups.map (·.name)) ∧
      Precedes (waveGroups plan.waves) "drain" "power-off" := by
  obtain ⟨⟨plan, diagnostics⟩, haccepted, hw⟩ : ∃ accepted,
      compileWithHistory constantHash drainedFlow {} {} = .ok accepted ∧
        waveGroups accepted.1.waves = [["drain"], ["power-off"]] :=
    exists_ok_of_map (by decide)
  have hd : DistinctIDs (drainedFlow.groups.map (·.name)) := by
    unfold DistinctIDs
    decide
  have hmem : ∀ name, name ∈ plan.groups ↔ name ∈ ["drain", "power-off"] := by
    intro name
    rw [Plan.groups, hw]
    rfl
  refine ⟨plan, diagnostics, haccepted, hd,
    clearance_precedes_release haccepted (by decide) hd ((hmem _).mpr (by decide))
      ((hmem _).mpr (by decide)) ⟨_, List.mem_cons_self, rfl, List.mem_singleton_self "node-1"⟩
      ⟨_, List.mem_cons_of_mem _ List.mem_cons_self, rfl, List.mem_singleton_self _⟩
      (by decide)⟩

section

variable (hcompiled : CompiledFrom structural plan normalized surviving pruned)
  (hgroups : structural.groups ≠ [])

include hcompiled hgroups

theorem CompiledFrom.lookup_graphShutdownTiers {name : String} (hname : name ∈ plan.groups) :
    (graphShutdownTiers plan.graph).lookup name =
      (effectiveShutdownTiers surviving.groups surviving.tierPolicy).lookup name := by
  obtain ⟨hg, hs⟩ := hcompiled.scheduled hgroups
  obtain ⟨group, hgroup, rfl⟩ := mem_map.mp (hs.placed.mem_iff.mp hname)
  have hv : groupVertex (effectiveShutdownTiers surviving.groups surviving.tierPolicy) group ∈
      plan.graph.vertices := by
    rw [hg]
    exact mem_vertices_buildGroupGraphForInputs.mpr ⟨group, hgroup, rfl⟩
  have hn : (plan.graph.vertices.map (·.id)).Nodup := by
    rw [hg, buildGroupGraphForInputs, sortGraph]
    refine ((sortStable_perm _ _).map _).nodup_iff.mpr ?_
    rw [map_map]
    exact hcompiled.wellFormed.groupNames
  exact lookup_fillMap hn hv

theorem CompiledFrom.tier_precedes (hdistinct : DistinctIDs (surviving.groups.map (·.name)))
    {first second : String} {higherTier lowerTier : Int}
    (hfirst : (effectiveShutdownTiers surviving.groups surviving.tierPolicy).lookup first =
      some higherTier)
    (hsecond : (effectiveShutdownTiers surviving.groups surviving.tierPolicy).lookup second =
      some lowerTier) (hlt : lowerTier < higherTier) :
    Precedes (waveGroups plan.waves) first second := by
  have hedge : ∀ first second, Joins (collectShutdownTierGraphEdges surviving.groups
      surviving.tierPolicy) .shutdownTier first second →
        Precedes (waveGroups plan.waves) first second := by
    intro first second hj
    exact hcompiled.precedes hgroups ((hcompiled.joins hgroups).mpr (.inl
      ((joins_collectGroupGraphEdges hcompiled.wellFormed.known hdistinct).mpr (.inr hj))))
  have hchain := transGen_of_tier_lt hfirst hsecond hlt
  clear hsecond
  induction hchain with
  | single hj => exact hedge _ _ hj
  | tail _ hj ih => exact ih.trans (hedge _ _ hj)

theorem CompiledFrom.tier_all_or_none : (∀ name ∈ plan.groups,
        (effectiveShutdownTiers surviving.groups surviving.tierPolicy).lookup name = none) ∨
      ∀ name ∈ plan.groups,
        ∃ tier, (effectiveShutdownTiers surviving.groups surviving.tierPolicy).lookup name =
          some tier := by
  have hwell := hcompiled.wellFormed
  have hplaced := (hcompiled.scheduled hgroups).2.placed
  by_cases hdef : (effectiveDefaultShutdownTier surviving.groups surviving.tierPolicy).isSome
  · obtain ⟨defaultTier, hdef⟩ := Option.isSome_iff_exists.mp hdef
    refine .inr fun name hname => ?_
    obtain ⟨group, hgroup, rfl⟩ := mem_map.mp (hplaced.mem_iff.mp hname)
    rw [lookup_effectiveShutdownTiers hwell.groupNames hgroup, hdef]
    cases group.shutdownTier with
    | none => exact ⟨defaultTier, rfl⟩
    | some tier => exact ⟨tier, rfl⟩
  · refine .inl fun name hname => ?_
    obtain ⟨group, hgroup, rfl⟩ := mem_map.mp (hplaced.mem_iff.mp hname)
    rw [lookup_effectiveShutdownTiers hwell.groupNames hgroup,
      Option.not_isSome_iff_eq_none.mp hdef, Option.or_none]
    by_contra htier
    obtain ⟨tier, htier⟩ := Option.ne_none_iff_exists'.mp htier
    exact hdef (default_isSome_of_tier hwell.tiers hgroup htier)

theorem CompiledFrom.wave_tier {wave : Wave} (hwave : wave ∈ plan.waves) {tier : Int} :
    wave.shutdownTier = some tier ↔ ∀ name ∈ wave.groups,
      (effectiveShutdownTiers surviving.groups surviving.tierPolicy).lookup name = some tier := by
  have hs := (hcompiled.scheduled hgroups).2
  have hmem : wave.groups ∈ waveGroups plan.waves := mem_map_of_mem hwave
  have hne : wave.groups ≠ [] := fun he => hs.nonempty (he ▸ hmem)
  rw [hs.tiered wave hwave, sharedShutdownTier_eq_some, and_iff_right hne]
  refine forall₂_congr fun name hname => ?_
  rw [hcompiled.lookup_graphShutdownTiers hgroups (mem_flatten.mpr ⟨_, hmem, hname⟩)]

theorem CompiledFrom.tier_unique (hdistinct : DistinctIDs (surviving.groups.map (·.name)))
    {wave : Wave} (hwave : wave ∈ plan.waves) {first second : String} (hfirst : first ∈ wave.groups)
    (hsecond : second ∈ wave.groups) {tier tier' : Int}
    (htier : (effectiveShutdownTiers surviving.groups surviving.tierPolicy).lookup first =
      some tier)
    (htier' : (effectiveShutdownTiers surviving.groups surviving.tierPolicy).lookup second =
      some tier') : tier = tier' := by
  have hn := hcompiled.nodup_plan_groups hgroups
  obtain ⟨i, hi⟩ := List.getElem?_of_mem (mem_map_of_mem hwave :
    wave.groups ∈ waveGroups plan.waves)
  rcases lt_trichotomy tier tier' with hlt | heq | hlt
  · exact absurd ((hcompiled.tier_precedes hgroups hdistinct htier' htier hlt).lt hn
      hi hsecond hi hfirst) (lt_irrefl i)
  · exact heq
  · exact absurd ((hcompiled.tier_precedes hgroups hdistinct htier htier' hlt).lt hn
      hi hfirst hi hsecond) (lt_irrefl i)

theorem CompiledFrom.exists_mem_wave {wave : Wave} (hwave : wave ∈ plan.waves) :
    ∃ name ∈ wave.groups, name ∈ plan.groups := by
  have hmem : wave.groups ∈ waveGroups plan.waves := mem_map_of_mem hwave
  obtain ⟨name, hname⟩ := exists_mem_of_ne_nil wave.groups
    fun he => (hcompiled.scheduled hgroups).2.nonempty (he ▸ hmem)
  exact ⟨name, hname, mem_flatten.mpr ⟨_, hmem, hname⟩⟩

theorem CompiledFrom.waves_tier_all_or_none
    (hdistinct : DistinctIDs (surviving.groups.map (·.name))) :
    (∀ wave ∈ plan.waves, wave.shutdownTier = none) ∨
      ∀ wave ∈ plan.waves, wave.shutdownTier.isSome = true := by
  rcases hcompiled.tier_all_or_none hgroups with hnone | hall
  · refine .inl fun wave hwave => ?_
    by_contra htier
    obtain ⟨tier, htier⟩ := Option.ne_none_iff_exists'.mp htier
    obtain ⟨name, hname, hp⟩ := hcompiled.exists_mem_wave hgroups hwave
    have hl := (hcompiled.wave_tier hgroups hwave).mp htier name hname
    rw [hnone name hp] at hl
    cases hl
  · refine .inr fun wave hwave => ?_
    obtain ⟨name, hname, hp⟩ := hcompiled.exists_mem_wave hgroups hwave
    obtain ⟨tier, htier⟩ := hall name hp
    have hwaveTier : wave.shutdownTier = some tier := by
      rw [hcompiled.wave_tier hgroups hwave]
      intro other ho
      obtain ⟨tier', htier'⟩ := hall other (mem_flatten.mpr ⟨_, mem_map_of_mem hwave, ho⟩)
      rw [htier', hcompiled.tier_unique hgroups hdistinct hwave hname ho htier htier']
    rw [hwaveTier]
    rfl

theorem CompiledFrom.waves_tier_descending
    (hdistinct : DistinctIDs (surviving.groups.map (·.name))) :
    plan.waves.Pairwise fun earlier later => ∀ tier tier',
      earlier.shutdownTier = some tier → later.shutdownTier = some tier' → tier' ≤ tier := by
  have hposition : ∀ {i : Nat} {wave : Wave}, plan.waves[i]? = some wave →
      (waveGroups plan.waves)[i]? = some wave.groups := by
    intro i wave hwave
    rw [waveGroups, List.getElem?_map, hwave]
    rfl
  rw [pairwise_iff_getElem]
  intro i j hi hj hij tier tier' htier htier'
  by_contra hlt
  obtain ⟨name, hname, -⟩ := hcompiled.exists_mem_wave hgroups (getElem_mem hi)
  obtain ⟨name', hname', -⟩ := hcompiled.exists_mem_wave hgroups (getElem_mem hj)
  have hp := hcompiled.tier_precedes hgroups hdistinct
    ((hcompiled.wave_tier hgroups (getElem_mem hj)).mp htier' name' hname')
    ((hcompiled.wave_tier hgroups (getElem_mem hi)).mp htier name hname) (not_le.mp hlt)
  have hback := hp.lt (hcompiled.nodup_plan_groups hgroups)
    (hposition (List.getElem?_eq_getElem hj)) hname' (hposition (List.getElem?_eq_getElem hi)) hname
  omega

end

structure TieredWaves (tierOf : String → Option Int) (waves : List Wave) : Prop where
  allOrNone : (∀ wave ∈ waves, wave.shutdownTier = none) ∨
    ∀ wave ∈ waves, wave.shutdownTier.isSome = true
  uniform : ∀ wave ∈ waves, ∀ tier, wave.shutdownTier = some tier →
    ∀ name ∈ wave.groups, tierOf name = some tier
  descending : waves.Pairwise fun earlier later => ∀ tier tier',
    earlier.shutdownTier = some tier → later.shutdownTier = some tier' → tier' ≤ tier
  ordered : ∀ first second higherTier lowerTier, tierOf first = some higherTier →
    tierOf second = some lowerTier → lowerTier < higherTier →
      Precedes (waveGroups waves) first second

theorem tieredWaves_of_compile {hash : StableHash} {structural surviving : StructuralInputs}
    {telemetry : TelemetryInputs} {history : HistoryInputs} {plan : Plan}
    {diagnostics : List Diagnostic}
    (h : compileWithHistory hash structural telemetry history = .ok (plan, diagnostics))
    (hsurviving : survivingInputs hash structural = .ok surviving)
    (hgroups : structural.groups ≠ []) (hdistinct : DistinctIDs (structural.groups.map (·.name))) :
    TieredWaves (fun name => (effectiveShutdownTiers surviving.groups
      surviving.tierPolicy).lookup name) plan.waves := by
  obtain ⟨normalized, surviving', pruned, hsame, -, hcompiled⟩ := compiledFrom_of_compile h
  obtain rfl := Except.ok.inj (hsurviving.symm.trans hsame)
  have hn := hcompiled.distinctIDs hdistinct
  refine ⟨hcompiled.waves_tier_all_or_none hgroups hn, ?_,
    hcompiled.waves_tier_descending hgroups hn, ?_⟩
  · intro wave hwave tier htier
    exact (hcompiled.wave_tier hgroups hwave).mp htier
  · intro first second higherTier lowerTier hhigh hl hlt
    exact hcompiled.tier_precedes hgroups hn hhigh hl hlt

def tieredFlow : StructuralInputs :=
  { triggers := [{ type := "OnBattery" }]
    tierPolicy := { definitions := [{ tier := 0 }, { tier := 3 }] }
    groups := [{ name := "batch" }, { name := "web", shutdownTier := some 2 }] }

theorem tieredFlow_descends :
    ∃ plan diagnostics surviving, compileWithHistory constantHash tieredFlow {} {} =
        .ok (plan, diagnostics) ∧ survivingInputs constantHash tieredFlow = .ok surviving ∧
      plan.waves.map (·.shutdownTier) = [some 3, some 2] ∧
      TieredWaves (fun name => (effectiveShutdownTiers surviving.groups
        surviving.tierPolicy).lookup name) plan.waves := by
  obtain ⟨⟨plan, diagnostics⟩, ha, hw⟩ : ∃ accepted,
      compileWithHistory constantHash tieredFlow {} {} = .ok accepted ∧
        accepted.1.waves.map (·.shutdownTier) = [some 3, some 2] :=
    exists_ok_of_map (by decide)
  obtain ⟨surviving, hs, -⟩ : ∃ surviving,
      survivingInputs constantHash tieredFlow = .ok surviving ∧ surviving.groups.length = 2 :=
    exists_ok_of_map (by decide)
  refine ⟨plan, diagnostics, surviving, ha, hs, hw,
    tieredWaves_of_compile ha hs (by decide) ?_⟩
  unfold DistinctIDs
  decide

end NutOperator.Planner
