import NutOperator.Planner.WaveOrder

/-! Scoping and the order of what remains. Orderings between two groups that a
plan keeps are kept; those that ran through an omitted group are not, except by
tier. -/
namespace NutOperator.Planner

open Data NutOperator.Graph

def unscopedGraph (normalized : StructuralInputs) : Graph :=
  buildGroupGraphForInputs normalized (newCommunicationIndex normalized)

def TiersKept (normalized : StructuralInputs) (plan : Plan) : Prop :=
  ∀ name ∈ plan.groups, (graphShutdownTiers plan.graph).lookup name =
    (effectiveShutdownTiers normalized.groups normalized.tierPolicy).lookup name

/-- An ordering of the unscoped graph that does not rest on an omitted group: a
tier edge while the tiers are kept, or an edge between groups of the plan. -/
def KeptEdge (normalized : StructuralInputs) (plan : Plan) (first second : String) : Prop :=
  ∃ relation, Joins (unscopedGraph normalized).edges relation first second ∧
    if relation = .shutdownTier then TiersKept normalized plan
    else first ∈ plan.groups ∧ second ∈ plan.groups

variable {first second : String}

theorem joins_tier_unscopedGraph {normalized : StructuralInputs}
    (h : Joins (unscopedGraph normalized).edges .shutdownTier first second) :
    ∃ higherTier lowerTier,
      (effectiveShutdownTiers normalized.groups normalized.tierPolicy).lookup first =
        some higherTier ∧
      (effectiveShutdownTiers normalized.groups normalized.tierPolicy).lookup second =
        some lowerTier ∧ lowerTier < higherTier := by
  rcases joins_buildGroupGraphForInputs.mp h with hg | hc | hcommand
  · rcases joins_append.mp (joins_of_joins_dedupeGraphEdges hg) with hd | htier
    · exact (joins_declaredGroupEdges.mp hd).elim
    · obtain ⟨-, higherTier, lowerTier, hf, hs, hlt, -⟩ :=
        joins_collectShutdownTierGraphEdges.mp htier
      exact ⟨higherTier, lowerTier, hf, hs, hlt⟩
  · cases (of_joins_collectNodeClearanceGraphEdges hc).1
  · cases (of_joins_collectCommunicationGraphEdges hcommand).1

section

variable {structural normalized surviving : StructuralInputs} {plan : Plan} {pruned : List String}
  (hcompiled : CompiledFrom structural plan normalized surviving pruned)
  (hgroups : structural.groups ≠ []) (hdistinct : DistinctIDs plan.groups)

include hcompiled hgroups

theorem CompiledFrom.mem_plan_groups_iff_surviving {name : String} :
    name ∈ plan.groups ↔ name ∈ surviving.groups.map (·.name) := by
  rw [hcompiled.mem_plan_groups hgroups, hcompiled.mem_names]

include hdistinct

theorem CompiledFrom.distinctIDs_surviving : DistinctIDs (surviving.groups.map (·.name)) := by
  intro first hf second hs
  exact hdistinct first ((hcompiled.mem_plan_groups_iff_surviving hgroups).mpr hf)
    second ((hcompiled.mem_plan_groups_iff_surviving hgroups).mpr hs)

theorem CompiledFrom.joins_of_unscoped {relation : Relation} (hrelation : relation ≠ .shutdownTier)
    (hfirst : first ∈ plan.groups) (hsecond : second ∈ plan.groups)
    (h : Joins (unscopedGraph normalized).edges relation first second) :
    Joins plan.graph.edges relation first second := by
  have hnames := hcompiled.distinctIDs_surviving hgroups hdistinct
  have hfirstName := (hcompiled.mem_plan_groups_iff_surviving hgroups).mp hfirst
  have hsecondName := (hcompiled.mem_plan_groups_iff_surviving hgroups).mp hsecond
  have hfirstKept := ((hcompiled.mem_plan_groups hgroups).mp hfirst).2
  have hsecondKept := ((hcompiled.mem_plan_groups hgroups).mp hsecond).2
  rw [hcompiled.joins hgroups]
  rcases joins_buildGroupGraphForInputs.mp h with hg | hcleared | hcommand
  · left
    rw [joins_collectGroupGraphEdges hcompiled.wellFormed.known hnames]
    rcases joins_append.mp (joins_of_joins_dedupeGraphEdges hg) with hd | htier
    · exact .inl (hcompiled.survival.declares.mpr
        ⟨joins_declaredGroupEdges.mp hd, hfirstKept, hsecondKept⟩)
    · exact absurd (joins_collectShutdownTierGraphEdges.mp htier).1 hrelation
  · right
    left
    rw [joins_collectNodeClearanceGraphEdges hnames]
    obtain ⟨hclears, -, -, hne, node, hacts, hr⟩ := of_joins_collectNodeClearanceGraphEdges hcleared
    exact ⟨hclears, hfirstName, hsecondName, hne, node,
      hcompiled.survival.actsOn.mpr ⟨hacts, hfirstKept⟩,
      hcompiled.survival.releases.mpr ⟨hr, hsecondKept⟩⟩
  · right
    right
    rw [joins_collectCommunicationGraphEdges hnames]
    obtain ⟨hpath, -, -, hneeds | ⟨hne, hs⟩⟩ := of_joins_collectCommunicationGraphEdges hcommand
    · exact ⟨hpath, hfirstName, hsecondName,
        .inl (hcompiled.survival.needsCarrier.mpr ⟨hneeds, hfirstKept, hsecondKept⟩)⟩
    · exact ⟨hpath, hfirstName, hsecondName,
        .inr ⟨hne, hcompiled.survival.releasesShared.mpr ⟨hs, hsecondKept⟩⟩⟩

/-- What a path of kept edges reaches from `first`: a group of the plan that runs
after it, or any group on a lower tier than such a group or `first` itself. -/
def Behind (normalized : StructuralInputs) (plan : Plan) (first name : String) : Prop :=
  (name ∈ plan.groups ∧ Precedes (waveGroups plan.waves) first name) ∨
    TiersKept normalized plan ∧ ∃ last ∈ plan.groups,
      (last = first ∨ Precedes (waveGroups plan.waves) first last) ∧
      ∃ higherTier lowerTier,
        (effectiveShutdownTiers normalized.groups normalized.tierPolicy).lookup last =
          some higherTier ∧
        (effectiveShutdownTiers normalized.groups normalized.tierPolicy).lookup name =
          some lowerTier ∧ lowerTier < higherTier

theorem CompiledFrom.precedes_of_behind {name : String}
    (hbehind : Behind normalized plan first name) (hname : name ∈ plan.groups) :
    Precedes (waveGroups plan.waves) first name := by
  rcases hbehind with ⟨-, hp⟩ | ⟨ht, last, hlast, hr, higherTier, lowerTier, hhigh, hl, hlt⟩
  · exact hp
  · have hstep : Precedes (waveGroups plan.waves) last name := by
      apply hcompiled.tier_precedes hgroups (hcompiled.distinctIDs_surviving hgroups hdistinct)
        _ _ hlt
      · rw [← hcompiled.lookup_graphShutdownTiers hgroups hlast, ht last hlast, hhigh]
      · rw [← hcompiled.lookup_graphShutdownTiers hgroups hname, ht name hname, hl]
    rcases hr with rfl | hp
    · exact hstep
    · exact hp.trans hstep

theorem CompiledFrom.behind_step {mid : String}
    (hreaches : mid = first ∧ first ∈ plan.groups ∨ Behind normalized plan first mid)
    (hedge : KeptEdge normalized plan mid second) : Behind normalized plan first second := by
  obtain ⟨relation, hjoins, hkept⟩ := hedge
  split at hkept
  · rename_i hrelation
    subst hrelation
    obtain ⟨middleTier, lowerTier, hmid, hl, hlt⟩ := joins_tier_unscopedGraph hjoins
    right
    refine ⟨hkept, ?_⟩
    rcases hreaches with ⟨rfl, hf⟩ | ⟨hg, hp⟩ | ⟨-, last, hlast, hb, higherTier,
      _, hhigh, hmid', hlt'⟩
    · exact ⟨mid, hf, .inl rfl, middleTier, lowerTier, hmid, hl, hlt⟩
    · exact ⟨mid, hg, .inr hp, middleTier, lowerTier, hmid, hl, hlt⟩
    · obtain rfl := Option.some.inj (hmid.symm.trans hmid')
      exact ⟨last, hlast, hb, higherTier, lowerTier, hhigh, hl, hlt.trans hlt'⟩
  · rename_i hrelation
    left
    have hstep := hcompiled.precedes hgroups
      (hcompiled.joins_of_unscoped hgroups hdistinct hrelation hkept.1 hkept.2 hjoins)
    refine ⟨hkept.2, ?_⟩
    rcases hreaches with ⟨rfl, -⟩ | hbehind
    · exact hstep
    · exact (hcompiled.precedes_of_behind hgroups hdistinct hbehind hkept.1).trans hstep

theorem CompiledFrom.behind_of_path (hfirst : first ∈ plan.groups)
    (hpath : Relation.TransGen (KeptEdge normalized plan) first second) :
    Behind normalized plan first second := by
  induction hpath with
  | single hedge => exact hcompiled.behind_step hgroups hdistinct (.inl ⟨rfl, hfirst⟩) hedge
  | tail _ hedge ih => exact hcompiled.behind_step hgroups hdistinct (.inr ih) hedge

end

/-- Groups of the plan keep the order that the unscoped graph gives them along
kept edges. -/
theorem precedes_of_kept_path {hash : StableHash} {structural normalized : StructuralInputs}
    {telemetry : TelemetryInputs} {history : HistoryInputs} {plan : Plan}
    {diagnostics : List Diagnostic}
    (h : compileWithHistory hash structural telemetry history = .ok (plan, diagnostics))
    (hprepared : prepareStructuralInputs hash structural = .ok normalized)
    (hgroups : structural.groups ≠ []) (hdistinct : DistinctIDs plan.groups)
    {first second : String} (hfirst : first ∈ plan.groups) (hsecond : second ∈ plan.groups)
    (hpath : Relation.TransGen (KeptEdge normalized plan) first second) :
    Precedes (waveGroups plan.waves) first second := by
  obtain ⟨normalized', surviving, pruned, -, hsame, hcompiled⟩ := compiledFrom_of_compile h
  obtain rfl := Except.ok.inj (hprepared.symm.trans hsame)
  exact hcompiled.precedes_of_behind hgroups hdistinct
    (hcompiled.behind_of_path hgroups hdistinct hfirst hpath) hsecond

def outageFlow (groups : List Group) (nodes : List (String × String)) : StructuralInputs :=
  { triggers := [{ type := "OnBattery", upsDevices := ["ups-a"] }]
    groups := groups
    powerDomains := [{ name := "rack-a", upsDevices := ["ups-a"], nodes := ["node-a"] },
        { name := "rack-b", upsDevices := ["ups-b"], nodes := ["node-b"] }]
    groupNodes := nodes.map fun (group, node) => { group := group, acts := [node] } }

def layeredRackFlow : StructuralInputs := outageFlow
    [{ name := "a", shutdownTier := some 6 }, { name := "b", shutdownTier := some 5 },
      { name := "c", shutdownTier := some 4, before := ["d"] },
      { name := "d", shutdownTier := some 4 }]
    [("a", "node-a"), ("b", "node-b"), ("c", "node-a"), ("d", "node-a")]

def GraphEdge.ordering (edge : GraphEdge) : Relation × String × String :=
  (edge.relation, edge.fromID, edge.toID)

theorem joins_iff_mem_ordering {edges : List GraphEdge} {relation : Relation} :
    Joins edges relation first second ↔ (relation, first, second) ∈ edges.map
      GraphEdge.ordering := by
  simp [Joins, GraphEdge.ordering]

theorem layeredRackFlow_keeps_order :
    ∃ plan diagnostics, compileWithHistory constantHash layeredRackFlow {} {} =
        .ok (plan, diagnostics) ∧ waveGroups plan.waves = [["a"], ["c"], ["d"]] ∧
      Precedes (waveGroups plan.waves) "a" "d" := by
  obtain ⟨normalized, hprepared, hview⟩ : ∃ normalized,
      prepareStructuralInputs constantHash layeredRackFlow = .ok normalized ∧
        ((unscopedGraph normalized).edges.map GraphEdge.ordering, ["a", "c", "d"].map
            (effectiveShutdownTiers normalized.groups normalized.tierPolicy).lookup) =
        ([(.shutdownTier, "a", "b"), (.shutdownTier, "b", "c"), (.shutdownTier, "b", "d"),
          (.before, "c", "d")], [some 6, some 4, some 4]) :=
    exists_ok_of_map (by decide)
  obtain ⟨⟨plan, diagnostics⟩, haccepted, hplan⟩ : ∃ accepted,
      compileWithHistory constantHash layeredRackFlow {} {} = .ok accepted ∧
        (waveGroups accepted.1.waves,
          ["a", "c", "d"].map (graphShutdownTiers accepted.1.graph).lookup) =
        ([["a"], ["c"], ["d"]], [some 6, some 4, some 4]) :=
    exists_ok_of_map (by decide)
  obtain ⟨hedges, ht⟩ := Prod.mk.inj hview
  obtain ⟨hwaves, hplanTiers⟩ := Prod.mk.inj hplan
  have hmem : plan.groups = ["a", "c", "d"] := by
    rw [Plan.groups, hwaves]
    rfl
  have hkept : TiersKept normalized plan := by
    intro name hname
    rw [hmem] at hname
    exact List.map_inj_left.mp (hplanTiers.trans ht.symm) name hname
  have htierEdge : ∀ first second,
      Joins (unscopedGraph normalized).edges .shutdownTier first second →
        KeptEdge normalized plan first second :=
    fun first second hj => ⟨.shutdownTier, hj, by rw [if_pos rfl]; exact hkept⟩
  have hd : KeptEdge normalized plan "c" "d" := by
    refine ⟨.before, ?_, ?_⟩
    · rw [joins_iff_mem_ordering, hedges]
      decide
    · rw [if_neg (by decide), hmem]
      decide
  simp only [joins_iff_mem_ordering, hedges] at htierEdge
  have hpath : Relation.TransGen (KeptEdge normalized plan) "a" "d" :=
    .tail (.tail (.single (htierEdge "a" "b" (by decide))) (htierEdge "b" "c" (by decide)))
      hd
  have hdistinct : DistinctIDs plan.groups := by
    rw [hmem]
    unfold DistinctIDs
    decide
  exact ⟨plan, diagnostics, haccepted, hwaves, precedes_of_kept_path haccepted hprepared
    (by decide) hdistinct (by rw [hmem]; decide) (by rw [hmem]; decide) hpath⟩

def OrderLost (flow : StructuralInputs) (first second : String) : Prop :=
  ∃ normalized plan diagnostics, prepareStructuralInputs constantHash flow = .ok normalized ∧
    compile constantHash flow {} = .ok (plan, diagnostics) ∧
    first ∈ plan.groups ∧ second ∈ plan.groups ∧
    Relation.TransGen (fun left right =>
      ∃ relation, Joins (unscopedGraph normalized).edges relation left right) first second ∧
    ¬ Precedes (waveGroups plan.waves) first second

theorem orderLost_of_runs {flow : StructuralInputs} (orderings : List (Relation × String × String))
    (waves : List (List String))
    (hprepared : (prepareStructuralInputs constantHash flow).toOption.map
      (fun normalized => (unscopedGraph normalized).edges.map GraphEdge.ordering) =
        some orderings) (hcompiled : (compile constantHash flow {}).toOption.map
      (fun accepted => waveGroups accepted.1.waves) = some waves)
    (hmem : first ∈ waves.flatten ∧ second ∈ waves.flatten)
    (hpath : Relation.TransGen (fun left right =>
      ∃ relation, (relation, left, right) ∈ orderings) first second)
    (hnot : ¬ Precedes waves first second) : OrderLost flow first second := by
  obtain ⟨normalized, hn, rfl⟩ := exists_ok_of_map hprepared
  obtain ⟨⟨plan, diagnostics⟩, ha, rfl⟩ := exists_ok_of_map hcompiled
  refine ⟨normalized, plan, diagnostics, hn, ha, hmem.1, hmem.2, ?_, hnot⟩
  simpa only [joins_iff_mem_ordering] using hpath

def routedFlow : StructuralInputs := outageFlow
    [{ name := "a", before := ["b"] }, { name := "b", before := ["c"] }, { name := "c" }]
    [("a", "node-a"), ("b", "node-b"), ("c", "node-a")]

def defaultedFlow : StructuralInputs := outageFlow
    [{ name := "a" }, { name := "b", shutdownTier := some 5 },
      { name := "c", shutdownTier := some 3 }]
    [("a", "node-a"), ("b", "node-b"), ("c", "node-a")]

/-- Without the omitted tier 5 two tier edges share an identifier. -/
def collidingTierFlow : StructuralInputs := outageFlow
    [{ name := "g-1", shutdownTier := some 6 }, { name := "x", shutdownTier := some 5 },
      { name := "h-1", shutdownTier := some 4 }, { name := "g_1", shutdownTier := some 3 },
      { name := "h_1", shutdownTier := some 2 }]
    [("g-1", "node-a"), ("x", "node-b"), ("h-1", "node-a"), ("g_1", "node-a"), ("h_1", "node-a")]

theorem scoping_loses_order :
    OrderLost routedFlow "a" "c" ∧ OrderLost defaultedFlow "a" "c" ∧
      OrderLost collidingTierFlow "g-1" "h-1" := by
  refine ⟨?_, ?_, ?_⟩
  · apply orderLost_of_runs [(.before, "a", "b"), (.before, "b", "c")] [["a", "c"]]
      (by decide) (by decide) (by decide) _ (by decide)
    exact .tail (b := "b") (.single ⟨.before, by decide⟩) ⟨.before, by decide⟩
  · apply orderLost_of_runs [(.shutdownTier, "a", "c"), (.shutdownTier, "b", "c")] [["a", "c"]]
      (by decide) (by decide) (by decide) _ (by decide)
    exact .single ⟨.shutdownTier, by decide⟩
  · apply orderLost_of_runs
      [(.shutdownTier, "g-1", "x"), (.shutdownTier, "g_1", "h_1"), (.shutdownTier, "h-1", "g_1"),
        (.shutdownTier, "x", "h-1")] [["g-1", "h-1"], ["g_1"], ["h_1"]]
      (by decide) (by decide) (by decide) _ (by decide)
    exact .tail (b := "x") (.single ⟨.shutdownTier, by decide⟩) ⟨.shutdownTier, by decide⟩

end NutOperator.Planner
