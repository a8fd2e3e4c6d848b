import NutOperator.Planner.Communication
import NutOperator.Planner.Tiers

/-! Node clearance and tier inversion: what the nodes under a group imply for
its place in the plan. -/
namespace NutOperator.Planner

open Data List

def nodeClearanceEdge (group releaser node : String) : GraphEdge :=
  { id := graphEdgeID group releaser .nodeClearance, fromID := group, toID := releaser
    relation := .nodeClearance, provenance := .derived
    sources := [{ kind := "Node", name := node }]
    explanation :=
      s!"{group} runs before {releaser} because node {node} cannot power off until {group} " ++
        "has cleared it." }

def firstByID (edges : List GraphEdge) : List GraphEdge :=
  withEarlier (fun earlier edge => if earlier.any (·.id = edge.id) then [] else [edge]) [] edges

/-- Work on a node precedes its release by another group. -/
def nodeClearanceCandidates (groups : List Group) (membership : List GroupNodeMembership) :
    List GraphEdge :=
  (membership.filter fun entry => knownGroup groups entry.group).flatMap fun entry =>
    entry.acts.flatMap fun node =>
      ((sortStrings (releasers groups membership node)).filter (· ≠ entry.group)).map
        fun releaser =>
        nodeClearanceEdge entry.group releaser node

def collectNodeClearanceGraphEdges (groups : List Group)
    (membership : List GroupNodeMembership) : List GraphEdge :=
  sortStable (fun left right => decide (left.id < right.id))
    (firstByID (nodeClearanceCandidates groups membership))

/-- Informational: a default that was applied is neither an error nor a risk. -/
def reportDefaultedShutdownTiers (input : StructuralInputs) : List Diagnostic :=
  match effectiveDefaultShutdownTier input.groups input.tierPolicy with
  | none => []
  | some defaultTier =>
    (input.groups.filter fun group => group.name ≠ "" && group.shutdownTier.isNone).map
      fun group =>
        infoDiagnostic "ShutdownTierDefaulted"
          (s!"shutdown group {quote group.name} declares no tier and was placed at the " ++
            s!"default tier {defaultTier}") group.name

inductive TierInversionPolicy where
  | block
  | allow
deriving Repr, DecidableEq

structure TierInversion where
  (group node : String)
  (groupTier nodeTier : Int)
  policy : TierInversionPolicy
deriving Repr, DecidableEq

/-- Anything but an explicit `Allow` withholds the node. -/
def effectiveTierInversionPolicy (group : Group) : TierInversionPolicy :=
  if group.tierInversionPolicy = "Allow" then .allow else .block

def inversionLess (left right : TierInversion) : Bool :=
  if left.node ≠ right.node then decide (left.node < right.node)
  else decide (left.group < right.group)

def detectTierInversions (input : StructuralInputs) : List TierInversion :=
  let groupTiers := effectiveShutdownTiers input.groups input.tierPolicy
  let nodeTiers := fillMap (·.name) (fun node => some node.tier) input.nodeTiers
  let policies := fillMap (·.name) (fun group => some (effectiveTierInversionPolicy group))
    input.groups
  sortStable inversionLess (input.groupNodes.flatMap fun entry =>
      match groupTiers.lookup entry.group with
      | none => []
      | some groupTier =>
        entry.acts.filterMap fun node =>
          match nodeTiers.lookup node with
          | none => none
          | some nodeTier =>
            if nodeTier ≤ groupTier then none
            else
              some
                { group := entry.group, node := node, groupTier := groupTier
                  nodeTier := nodeTier, policy := (policies.lookup entry.group).getD .block })

def tierInversionDiagnostic (inversion : TierInversion) : Diagnostic :=
  match inversion.policy with
  | .allow =>
    warningDiagnostic "ShutdownTierInversionAllowed"
      (s!"shutdown group {quote inversion.group} is tier {inversion.groupTier} but runs on " ++
        s!"node {quote inversion.node} at tier {inversion.nodeTier}; the group sets " ++
        "tierInversionPolicy Allow, so the node powers off on schedule and this group goes " ++
        "down with it") inversion.group
  | .block =>
    warningDiagnostic "ShutdownTierInversion"
      (s!"shutdown group {quote inversion.group} is tier {inversion.groupTier} but runs on " ++
        s!"node {quote inversion.node} at tier {inversion.nodeTier}; the node is scheduled " ++
        "to power off before this group stops and is withheld from power-off") inversion.group

def validateTierInversion (input : StructuralInputs) : List Diagnostic :=
  sortStable (fun left right => decide (left.message < right.message))
    ((detectTierInversions input).map tierInversionDiagnostic)

def blockedNodesFromInversions (inversions : List TierInversion) : List BlockedNode :=
  let blocking := inversions.filter fun inversion => inversion.policy ≠ .allow
  (sortedUnique (blocking.map (·.node))).map fun node =>
    let causes := blocking.filter fun inversion => inversion.node = node
    let groups := sortStrings (causes.map (·.group))
    let nodeTier := (causes.head?.map (·.nodeTier)).getD 0
    { name := node, reason := "ShutdownTierInversion", nodeTier := nodeTier, groups := groups
      message := s!"node {quote node} is tier {nodeTier} but still runs {joinQuoted groups}, " ++
          "scheduled to stop later; the node is withheld from power-off" }

variable {relation : Relation} {first second : String} {groups : List Group}
  {membership : List GroupNodeMembership}

theorem joins_of_joins_firstByID {edges : List GraphEdge}
    (h : Joins (firstByID edges) relation first second) : Joins edges relation first second := by
  obtain ⟨edge, hedge, hj⟩ := h
  obtain ⟨before, value, after, rfl, hv⟩ := mem_withEarlier.mp hedge
  split at hv
  · cases hv
  · rw [mem_singleton] at hv
    exact ⟨edge, by simp [hv], hj⟩

theorem joins_firstByID {edges : List GraphEdge} (hids : DerivedIDs edges) {names : List String}
    (hdistinct : DistinctIDs names)
    (hnames : ∀ relation first second, Joins edges relation first second →
      first ∈ names ∧ second ∈ names) :
    Joins (firstByID edges) relation first second ↔ Joins edges relation first second := by
  refine ⟨joins_of_joins_firstByID, ?_⟩
  rintro ⟨edge, hedge, hrelation, rfl, rfl⟩
  -- the first edge with this identifier has the same endpoints
  obtain ⟨kept, hfind⟩ : ∃ kept, edges.find? (·.id = edge.id) = some kept := by
    rw [← Option.isSome_iff_exists, List.find?_isSome]
    exact ⟨edge, hedge, by simp⟩
  obtain ⟨hid, before, after, hs, hbefore⟩ := List.find?_eq_some_iff_append.mp hfind
  simp only [decide_eq_true_eq] at hid
  have hkept : kept ∈ edges := by simp [hs]
  have hsame := hid
  rw [hids kept hkept, hids edge hedge, graphEdgeID_inj] at hsame
  obtain ⟨hsafe, hrelation', hsafe'⟩ := hsame
  obtain ⟨hfrom, hto⟩ := hnames _ _ _ ⟨edge, hedge, rfl, rfl, rfl⟩
  obtain ⟨hfrom', hto'⟩ := hnames _ _ _ ⟨kept, hkept, rfl, rfl, rfl⟩
  refine ⟨kept, mem_withEarlier.mpr ⟨before, kept, after, hs, ?_⟩,
    hrelation'.trans hrelation, hdistinct _ hfrom' _ hfrom hsafe, hdistinct _ hto' _ hto hsafe'⟩
  rw [nil_append, if_neg]
  · exact mem_singleton_self kept
  · simpa [hid] using hbefore

theorem mem_nodeClearanceCandidates {edge : GraphEdge} :
    edge ∈ nodeClearanceCandidates groups membership ↔
      ∃ first second node, edge = nodeClearanceEdge first second node ∧
        first ∈ groups.map (·.name) ∧ second ∈ groups.map (·.name) ∧ second ≠ first ∧
        ActsOn membership first node ∧ Releases membership second node := by
  simp only [nodeClearanceCandidates, mem_flatMap, mem_filter, knownGroup_eq_true,
    mem_map, mem_sortStrings, decide_eq_true_eq]
  constructor
  · rintro ⟨entry, ⟨he, hknown⟩, node, hnode, releaser, ⟨hr, hne⟩, rfl⟩
    obtain ⟨hknown', hreleases⟩ := mem_releasers.mp hr
    exact ⟨entry.group, releaser, node, rfl, by simpa using hknown, by simpa using hknown', hne,
      ⟨entry, he, rfl, hnode⟩, hreleases⟩
  · rintro ⟨first, second, node, rfl, hf, hs, hne, ⟨entry, he, rfl, hnode⟩, hreleases⟩
    exact ⟨entry, ⟨he, by simpa using hf⟩, node, hnode, second,
      ⟨mem_releasers.mpr ⟨by simpa using hs, hreleases⟩, hne⟩, rfl⟩

def ClearsFor (groups : List Group) (membership : List GroupNodeMembership)
    (first second : String) : Prop :=
  first ∈ groups.map (·.name) ∧ second ∈ groups.map (·.name) ∧ second ≠ first ∧
    ∃ node, ActsOn membership first node ∧ Releases membership second node

theorem joins_nodeClearanceCandidates :
    Joins (nodeClearanceCandidates groups membership) relation first second ↔
      relation = .nodeClearance ∧ ClearsFor groups membership first second := by
  constructor
  · rintro ⟨edge, hedge, rfl, rfl, rfl⟩
    obtain ⟨first, second, node, rfl, hf, hs, hne, hnode⟩ :=
      mem_nodeClearanceCandidates.mp hedge
    exact ⟨rfl, hf, hs, hne, node, hnode⟩
  · rintro ⟨rfl, hf, hs, hne, node, hnode⟩
    exact ⟨nodeClearanceEdge first second node, mem_nodeClearanceCandidates.mpr
      ⟨first, second, node, rfl, hf, hs, hne, hnode⟩, rfl, rfl, rfl⟩

private theorem joins_collect_iff_firstByID :
    Joins (collectNodeClearanceGraphEdges groups membership) relation first second ↔
      Joins (firstByID (nodeClearanceCandidates groups membership)) relation first second := by
  simp only [Joins, collectNodeClearanceGraphEdges, mem_sortStable]

theorem of_joins_collectNodeClearanceGraphEdges
    (h : Joins (collectNodeClearanceGraphEdges groups membership) relation first second) :
    relation = .nodeClearance ∧ ClearsFor groups membership first second :=
  joins_nodeClearanceCandidates.mp (joins_of_joins_firstByID (joins_collect_iff_firstByID.mp h))

theorem joins_collectNodeClearanceGraphEdges (hdistinct : DistinctIDs (groups.map (·.name))) :
    Joins (collectNodeClearanceGraphEdges groups membership) relation first second ↔
      relation = .nodeClearance ∧ ClearsFor groups membership first second := by
  have hids : DerivedIDs (nodeClearanceCandidates groups membership) := by
    intro edge hedge
    obtain ⟨first, second, node, rfl, -⟩ := mem_nodeClearanceCandidates.mp hedge
    rfl
  rw [joins_collect_iff_firstByID, joins_firstByID hids hdistinct _, joins_nodeClearanceCandidates]
  intro relation first second hj
  obtain ⟨-, hf, hs, -⟩ := joins_nodeClearanceCandidates.mp hj
  exact ⟨hf, hs⟩

def BlockedBy (blocked : List BlockedNode) (node group : String) : Prop :=
  ∃ entry ∈ blocked, entry.name = node ∧ group ∈ entry.groups

theorem blockedBy_inversions {inversions : List TierInversion} {node group : String} :
    BlockedBy (blockedNodesFromInversions inversions) node group ↔
      ∃ inversion ∈ inversions, inversion.policy ≠ .allow ∧ inversion.node = node ∧
        inversion.group = group := by
  simp only [BlockedBy, blockedNodesFromInversions, mem_map, mem_sortedUnique]
  constructor
  · rintro ⟨_, ⟨name, -, rfl⟩, rfl, hg⟩
    simp only [mem_sortStrings, mem_map, mem_filter, decide_eq_true_eq] at hg
    obtain ⟨inversion, ⟨⟨hmem, hp⟩, hnode⟩, hg⟩ := hg
    exact ⟨inversion, hmem, hp, hnode, hg⟩
  · rintro ⟨inversion, hmem, hp, rfl, rfl⟩
    have hb : inversion ∈ inversions.filter fun inversion => inversion.policy ≠ .allow :=
      mem_filter.mpr ⟨hmem, by simpa using hp⟩
    refine ⟨_, ⟨inversion.node, ⟨inversion, hb, rfl⟩, rfl⟩, rfl, ?_⟩
    rw [mem_sortStrings]
    exact mem_map_of_mem (mem_filter.mpr ⟨hb, by simp⟩)

end NutOperator.Planner
