import NutOperator.Planner.WaveOrder

/-! Shutdown tiers across outages: an untiered group takes the default of the
groups it is planned with, which scoping can change. -/
namespace NutOperator.Planner

open List

open Data NutOperator.Graph

/-- The default tier of a plan: the configured one, or else the highest tier
among the definitions and the groups of the plan. -/
def planDefaultTier (structural : StructuralInputs) (plan : Plan) : Option Int :=
  effectiveDefaultShutdownTier (structural.groups.filter (·.name ∈ plan.groups))
    structural.tierPolicy

private theorem max?_congr {left right : List Int}
    (h : ∀ tier, tier ∈ left ↔ tier ∈ right) : left.max? = right.max? := by
  apply Option.ext
  intro tier
  rw [max?_eq_some_iff, max?_eq_some_iff]
  simp only [h]

theorem effectiveDefaultShutdownTier_congr {groups groups' : List Group}
    {policy policy' : TierPolicy} (hdef : policy.defaultTier = policy'.defaultTier)
    (hmentions : ∀ tier, tier ∈ mentionedTiers groups policy ↔
      tier ∈ mentionedTiers groups' policy') :
    effectiveDefaultShutdownTier groups policy = effectiveDefaultShutdownTier groups' policy' := by
  unfold effectiveDefaultShutdownTier
  rw [hdef, max?_congr hmentions]

def nodeTierOf (nodeTiers : List NodeTier) (node : String) : Option Int :=
  (fillMap (·.name) (fun node => some node.tier) nodeTiers).lookup node

/-- A group withholds the nodes it acts on that would power off before it stops,
unless it allows that. -/
theorem blockedBy_detectTierInversions {input : StructuralInputs}
    (hnodup : (input.groups.map (·.name)).Nodup) {group : Group} (hgroup : group ∈ input.groups)
    {node : String} :
    BlockedBy (blockedNodesFromInversions (detectTierInversions input)) node group.name ↔
      ActsOn input.groupNodes group.name node ∧ effectiveTierInversionPolicy group ≠ .allow ∧
        ∃ groupTier nodeTier, (effectiveShutdownTiers input.groups input.tierPolicy).lookup
          group.name =
            some groupTier ∧
          nodeTierOf input.nodeTiers node = some nodeTier ∧ groupTier < nodeTier := by
  have hpolicy : (fillMap (·.name) (fun group => some (effectiveTierInversionPolicy group))
      input.groups).lookup group.name = some (effectiveTierInversionPolicy group) :=
    lookup_fillMap hnodup hgroup
  simp only [blockedBy_inversions, detectTierInversions, mem_sortStable, mem_flatMap,
    ActsOn, nodeTierOf]
  constructor
  · rintro ⟨inversion, ⟨entry, hentry, hi⟩, hblocked, rfl, hname⟩
    split at hi
    · cases hi
    · rename_i groupTier htier
      obtain ⟨acted, hacted, hf⟩ := mem_filterMap.mp hi
      split at hf
      · cases hf
      · rename_i nodeTier hnode
        split at hf
        · cases hf
        · rename_i hlt
          cases hf
          dsimp only at hblocked hname hnode ⊢
          rw [hname, hpolicy] at hblocked
          exact ⟨⟨entry, hentry, hname, hacted⟩, hblocked, groupTier, nodeTier, hname ▸ htier,
            hnode, lt_of_not_ge hlt⟩
  · rintro ⟨⟨entry, hentry, hname, hacted⟩, hblocked, groupTier, nodeTier, htier, hnode, hlt⟩
    refine ⟨⟨group.name, node, groupTier, nodeTier, effectiveTierInversionPolicy group⟩,
      ⟨entry, hentry, ?_⟩, hblocked, rfl, rfl⟩
    rw [hname, htier]
    refine mem_filterMap.mpr ⟨node, hacted, ?_⟩
    simp [hnode, hpolicy, hlt]

section

variable {structural normalized surviving : StructuralInputs} {plan : Plan} {pruned : List String}
  (hcompiled : CompiledFrom structural plan normalized surviving pruned)
  (hgroups : structural.groups ≠ [])

include hcompiled hgroups

theorem CompiledFrom.exists_surviving {group : Group} (hgroup : group ∈ structural.groups)
    (hplan : group.name ∈ plan.groups) :
    ∃ scheduled ∈ surviving.groups, scheduled.name = group.name ∧
      scheduled.shutdownTier = group.shutdownTier ∧
      effectiveTierInversionPolicy scheduled = effectiveTierInversionPolicy group := by
  have hkept := ((hcompiled.mem_plan_groups hgroups).mp hplan).2
  refine ⟨scrubPrunedDependencies pruned (normalizeGroup group), ?_, rfl, rfl, rfl⟩
  exact hcompiled.survival.mem_groups.mpr
    ⟨normalizeGroup group, hcompiled.normalizes.mem_groups.mpr ⟨group, hgroup, rfl⟩, hkept, rfl⟩

theorem CompiledFrom.effectiveDefaultShutdownTier_eq :
    effectiveDefaultShutdownTier surviving.groups surviving.tierPolicy =
      planDefaultTier structural plan := by
  have hp : surviving.tierPolicy = normalizeTierPolicy structural.tierPolicy := by
    rw [hcompiled.survival.tierPolicy, hcompiled.normalizes.tierPolicy]
  apply effectiveDefaultShutdownTier_congr
  · rw [hp]
    rfl
  · intro tier
    rw [hp]
    simp only [mentionedTiers, normalizeTierPolicy, mem_append, mem_map,
      mem_sortStable, mem_filterMap, mem_filter, decide_eq_true_eq]
    apply or_congr_right
    constructor
    · rintro ⟨scheduled, hs, htier⟩
      obtain ⟨declared, hd, hkept, rfl⟩ := hcompiled.survival.mem_groups.mp hs
      obtain ⟨group, hgroup, rfl⟩ := hcompiled.normalizes.mem_groups.mp hd
      exact ⟨group, ⟨hgroup, (hcompiled.mem_plan_groups hgroups).mpr
        ⟨mem_map_of_mem hgroup, hkept⟩⟩, htier⟩
    · rintro ⟨group, ⟨hgroup, hplan⟩, htier⟩
      obtain ⟨scheduled, hs, -, hsame, -⟩ := hcompiled.exists_surviving hgroups hgroup hplan
      exact ⟨scheduled, hs, hsame.trans htier⟩

section

variable {group : Group} (hgroup : group ∈ structural.groups) (hplan : group.name ∈ plan.groups)
include hgroup hplan

theorem CompiledFrom.shutdownTier_eq : (graphShutdownTiers plan.graph).lookup group.name =
      group.shutdownTier.or (planDefaultTier structural plan) := by
  obtain ⟨scheduled, hs, hname, htier, -⟩ := hcompiled.exists_surviving hgroups hgroup hplan
  rw [hcompiled.lookup_graphShutdownTiers hgroups hplan, ← hname,
    lookup_effectiveShutdownTiers hcompiled.wellFormed.groupNames hs, htier,
    hcompiled.effectiveDefaultShutdownTier_eq hgroups]

theorem CompiledFrom.blockedBy_iff {node : String} :
    BlockedBy plan.blockedNodes node group.name ↔ ActsOn structural.groupNodes group.name node ∧
        effectiveTierInversionPolicy group ≠ .allow ∧
        ∃ groupTier nodeTier, (graphShutdownTiers plan.graph).lookup group.name = some groupTier ∧
          nodeTierOf (sortStable (byName (·.name)) structural.nodeTiers) node = some nodeTier ∧
          groupTier < nodeTier := by
  obtain ⟨scheduled, hs, hname, -, hp⟩ := hcompiled.exists_surviving hgroups hgroup hplan
  have hkept := ((hcompiled.mem_plan_groups hgroups).mp hplan).2
  have hn : surviving.nodeTiers = sortStable (byName (·.name)) structural.nodeTiers := by
    rw [hcompiled.survival.nodeTiers, hcompiled.normalizes.nodeTiers]
  rw [hcompiled.accepted.blocked, hcompiled.lookup_graphShutdownTiers hgroups hplan, ← hn,
    ← hp, ← hname,
    blockedBy_detectTierInversions hcompiled.wellFormed.groupNames hs]
  rw [hname, hcompiled.actsOn, and_iff_left hkept]

end

end

/-- Across two outages, a group of both plans keeps its tier exactly when it
declares one or the plans have the same default, and then withholds the same
nodes. -/
theorem scoped_tiers_agree {hash : StableHash} {structural : StructuralInputs}
    {scope scope' : Option ExecutionScope} {telemetry telemetry' : TelemetryInputs}
    {history history' : HistoryInputs} {plan plan' : Plan}
    {diagnostics diagnostics' : List Diagnostic}
    (h : compileWithHistory hash { structural with executionScope := scope } telemetry history =
      .ok (plan, diagnostics))
    (h' : compileWithHistory hash { structural with executionScope := scope' } telemetry'
      history' = .ok (plan', diagnostics'))
    {group : Group} (hgroup : group ∈ structural.groups) (hplan : group.name ∈ plan.groups)
    (hplan' : group.name ∈ plan'.groups) :
    ((graphShutdownTiers plan.graph).lookup group.name =
        (graphShutdownTiers plan'.graph).lookup group.name ↔
      group.shutdownTier.isSome ∨
        planDefaultTier structural plan = planDefaultTier structural plan') ∧
    (group.shutdownTier.isSome ∨
        planDefaultTier structural plan = planDefaultTier structural plan' →
      ∀ node, BlockedBy plan.blockedNodes node group.name ↔
        BlockedBy plan'.blockedNodes node group.name) := by
  obtain ⟨_, _, _, -, -, hcompiled⟩ := compiledFrom_of_compile h
  obtain ⟨_, _, _, -, -, hcomp'⟩ := compiledFrom_of_compile h'
  have hgroups := ne_nil_of_mem hgroup
  have htier : (graphShutdownTiers plan.graph).lookup group.name =
      group.shutdownTier.or (planDefaultTier structural plan) :=
    hcompiled.shutdownTier_eq hgroups hgroup hplan
  have htier' : (graphShutdownTiers plan'.graph).lookup group.name =
      group.shutdownTier.or (planDefaultTier structural plan') :=
    hcomp'.shutdownTier_eq hgroups hgroup hplan'
  have hagree : (graphShutdownTiers plan.graph).lookup group.name =
      (graphShutdownTiers plan'.graph).lookup group.name ↔ group.shutdownTier.isSome ∨
        planDefaultTier structural plan = planDefaultTier structural plan' := by
    rw [htier, htier']
    cases group.shutdownTier <;> simp
  refine ⟨hagree, fun hcond node => ?_⟩
  have hblocked : BlockedBy plan.blockedNodes node group.name ↔ _ :=
    hcompiled.blockedBy_iff hgroups hgroup hplan
  have hblocked' : BlockedBy plan'.blockedNodes node group.name ↔ _ :=
    hcomp'.blockedBy_iff hgroups hgroup hplan'
  rw [hagree.mpr hcond] at hblocked
  exact hblocked.trans hblocked'.symm

def untieredFlow : StructuralInputs :=
  { triggers := [{ type := "OnBattery", upsDevices := ["ups-a", "ups-b"] }]
    groups := [{ name := "web" }, { name := "batch", shutdownTier := some 5 },
        { name := "store", shutdownTier := some 3 }]
    powerDomains := [{ name := "rack-a", upsDevices := ["ups-a"], nodes := ["node-a", "node-c"] },
        { name := "rack-b", upsDevices := ["ups-b"], nodes := ["node-b"] }]
    nodeTiers := [{ name := "node-a", tier := 4 }]
    groupNodes := [{ group := "web", acts := ["node-a"] }, { group := "batch", acts := ["node-b"] },
        { group := "store", acts := ["node-c"] }] }

theorem exists_untieredPlan : ∃ accepted,
    compile constantHash { untieredFlow with executionScope := none } {} = .ok accepted ∧
      (waveGroups accepted.1.waves, (graphShutdownTiers accepted.1.graph).lookup "web",
        accepted.1.blockedNodes.map fun node => (node.name, node.groups)) =
      ([["batch", "web"], ["store"]], some 5, []) :=
  exists_ok_of_map (by decide)

theorem exists_untieredPlan_of_outage : ∃ accepted,
    compile constantHash { untieredFlow with executionScope := some ⟨["ups-a"]⟩ } {} =
        .ok accepted ∧
      (waveGroups accepted.1.waves, (graphShutdownTiers accepted.1.graph).lookup "web",
        accepted.1.blockedNodes.map fun node => (node.name, node.groups)) =
      ([["store", "web"]], some 3, [("node-a", ["web"])]) :=
  exists_ok_of_map (by decide)

/-- `store` declares its tier, so the outage of one rack leaves it there. -/
theorem untieredFlow_keeps_declared_tier :
    ∃ plan diagnostics plan' diagnostics',
      compileWithHistory constantHash { untieredFlow with executionScope := none } {} {} =
        .ok (plan, diagnostics) ∧
      compileWithHistory constantHash
          { untieredFlow with executionScope := some ⟨["ups-a"]⟩ } {} {} =
        .ok (plan', diagnostics') ∧
      (graphShutdownTiers plan.graph).lookup "store" =
        (graphShutdownTiers plan'.graph).lookup "store" := by
  obtain ⟨⟨plan, diagnostics⟩, haccepted, hview⟩ := exists_untieredPlan
  obtain ⟨⟨plan', diagnostics'⟩, haccepted', hview'⟩ := exists_untieredPlan_of_outage
  have hgroup : { name := "store", shutdownTier := some 3 } ∈ untieredFlow.groups := by decide
  have hagree := scoped_tiers_agree haccepted haccepted' hgroup
    (by rw [Plan.groups, (Prod.mk.inj hview).1]; decide)
    (by rw [Plan.groups, (Prod.mk.inj hview').1]; decide)
  exact ⟨plan, diagnostics, plan', diagnostics', haccepted, haccepted', hagree.1.mpr (.inl rfl)⟩

/-- `web` moves from tier 5 to tier 3 when `batch` is omitted, and is then the
reason to withhold `node-a`. -/
theorem untieredFlow_moves_tier :
    ∃ plan diagnostics plan' diagnostics',
      compile constantHash { untieredFlow with executionScope := none } {} =
        .ok (plan, diagnostics) ∧
      compile constantHash { untieredFlow with executionScope := some ⟨["ups-a"]⟩ } {} =
        .ok (plan', diagnostics') ∧
      "web" ∈ plan.groups ∧ "web" ∈ plan'.groups ∧
      (graphShutdownTiers plan.graph).lookup "web" = some 5 ∧
      (graphShutdownTiers plan'.graph).lookup "web" = some 3 ∧
      ¬ BlockedBy plan.blockedNodes "node-a" "web" ∧
      BlockedBy plan'.blockedNodes "node-a" "web" := by
  obtain ⟨⟨plan, diagnostics⟩, haccepted, hview⟩ := exists_untieredPlan
  obtain ⟨⟨plan', diagnostics'⟩, haccepted', hview'⟩ := exists_untieredPlan_of_outage
  simp only [Prod.mk.injEq] at hview hview'
  obtain ⟨hwaves, htier, hblocked⟩ := hview
  obtain ⟨hwaves', htier', hblocked'⟩ := hview'
  refine ⟨plan, diagnostics, plan', diagnostics', haccepted, haccepted', ?_, ?_, htier,
    htier', ?_, ?_⟩
  · rw [Plan.groups, hwaves]
    decide
  · rw [Plan.groups, hwaves']
    decide
  · rintro ⟨entry, he, -⟩
    rw [map_eq_nil_iff.mp hblocked] at he
    cases he
  · have hmem : ("node-a", ["web"]) ∈ plan'.blockedNodes.map fun node =>
        (node.name, node.groups) := by
      rw [hblocked']
      exact mem_singleton_self _
    obtain ⟨entry, he, heq⟩ := mem_map.mp hmem
    obtain ⟨hname, hgroups⟩ := Prod.mk.inj heq
    exact ⟨entry, he, hname, hgroups ▸ mem_singleton_self _⟩

end NutOperator.Planner
