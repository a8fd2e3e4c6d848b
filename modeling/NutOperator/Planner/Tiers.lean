import NutOperator.Planner.GraphEdges

/-! Shutdown tiers. A higher tier stops earlier; tiers 0 and 1 are reserved. -/
namespace NutOperator.Planner

open Data List

abbrev TierMap := AList (fun _ : String => Int)

def mentionedTiers (groups : List Group) (policy : TierPolicy) : List Int :=
  policy.definitions.map (·.tier) ++ groups.filterMap (·.shutdownTier)

/-- Without a configured default, untiered groups get the highest tier present,
unless that is the reserved tier 0. -/
def effectiveDefaultShutdownTier (groups : List Group) (policy : TierPolicy) : Option Int :=
  match policy.defaultTier with
  | some tier => some tier
  | none =>
    match (mentionedTiers groups policy).max? with
    | some maxTier => if maxTier = 0 then none else some maxTier
    | none => none

def effectiveShutdownTiers (groups : List Group) (policy : TierPolicy) : TierMap :=
  let active := policy.defaultTier.isSome || policy.definitions ≠ [] ||
    groups.any (·.shutdownTier.isSome)
  if active then
    let defaultTier := effectiveDefaultShutdownTier groups policy
    fillMap (·.name) (fun group => group.shutdownTier.or defaultTier) groups
  else ∅

def groupsAtTier (groups : List Group) (tiers : TierMap) (tier : Int) : List String :=
  sortStrings ((groups.filter fun group => tiers.lookup group.name = some tier).map (·.name))

def occupiedTiers (groups : List Group) (tiers : TierMap) : List Int :=
  sortStable (fun left right => decide (left > right))
    (groups.filterMap fun group => tiers.lookup group.name).dedup

def shutdownTierEdge (fromID toID : String) (higherTier lowerTier : Int) : GraphEdge :=
  { id := graphEdgeID fromID toID .shutdownTier, fromID := fromID, toID := toID
    relation := .shutdownTier, provenance := .derived
    sources := [{ kind := "PowerManagementCluster", field := "spec.shutdownTiers" }]
    explanation :=
      s!"{fromID} runs before {toID} because shutdown tier {higherTier} stops before " ++
        s!"tier {lowerTier}." }

def collectShutdownTierGraphEdges (groups : List Group) (policy : TierPolicy) : List GraphEdge :=
  let tiers := effectiveShutdownTiers groups policy
  let occupied := occupiedTiers groups tiers
  (occupied.zip occupied.tail).flatMap fun (higherTier, lowerTier) =>
    (groupsAtTier groups tiers higherTier).flatMap fun fromID =>
      (groupsAtTier groups tiers lowerTier).map fun toID =>
        shutdownTierEdge fromID toID higherTier lowerTier

def shutdownTierPtr (groupName : String) (tiers : TierMap) : Option Int := tiers.lookup groupName

def sharedShutdownTier (groupNames : List String) (tiers : TierMap) : Option Int :=
  match groupNames with
  | [] => none
  | first :: rest =>
    match tiers.lookup first with
    | none => none
    | some tier => if rest.all (fun name => tiers.lookup name = some tier) then some tier else none

def graphShutdownTiers (graph : Graph) : TierMap := fillMap (·.id) (·.shutdownTier) graph.vertices

def normalizeTierPolicy (policy : TierPolicy) : TierPolicy :=
  { policy with
    definitions := sortStable (fun left right =>
        if left.tier ≠ right.tier then decide (left.tier < right.tier)
        else decide (left.name < right.name))
      policy.definitions
    selectorRules := sortStable (fun left right => decide (left.name < right.name))
      policy.selectorRules }

def validateTierDefinition (earlier : List TierDefinition) (definition : TierDefinition) :
    List Diagnostic :=
  (if definition.tier < 0 then
    [errorDiagnostic "ShutdownTierInvalid"
      s!"shutdown tier {definition.tier} must be zero or greater" definition.name]
  else []) ++
  (if definition.tier ∈ earlier.map (·.tier) then
    [errorDiagnostic "DuplicateShutdownTier"
      s!"shutdown tier {definition.tier} is defined more than once" s!"{definition.tier}"]
  else [])

def validateTierRule (earlier : List TierSelector) (rule : TierSelector) : List Diagnostic :=
  (if rule.name = "" then
    [errorDiagnostic "ShutdownTierRuleNameRequired"
      "every shutdown tier selector rule requires a name"]
  else []) ++
  (if rule.name ≠ "" ∧ rule.name ∈ earlier.map (·.name) then
    [errorDiagnostic "DuplicateShutdownTierRule"
      s!"shutdown tier selector rule {quote rule.name} is duplicated" rule.name]
  else []) ++
  (if rule.tier < 0 then
    [errorDiagnostic "ShutdownTierInvalid"
      s!"shutdown tier selector rule {quote rule.name} assigns invalid tier {rule.tier}" rule.name]
  else [])

def validateTierPolicy (policy : TierPolicy) : List Diagnostic :=
  (if policy.defaultTier.any (· < 2) then
    [errorDiagnostic "ShutdownTierDefaultReserved"
      "shutdown tier default must be 2 or greater; tiers 0 and 1 are reserved"]
  else []) ++
  withEarlier validateTierDefinition [] policy.definitions ++
  withEarlier validateTierRule [] policy.selectorRules

def validateGroupShutdownTier (group : Group) : List Diagnostic :=
  match group.shutdownTier with
  | none => []
  | some tier =>
    if tier < 0 then
      [errorDiagnostic "ShutdownTierInvalid"
        s!"shutdown group {quote group.name} has invalid shutdown tier {tier}" group.name]
    else if tier = 0 then
      [errorDiagnostic "ShutdownTierZeroTargeted"
        (s!"shutdown group {quote group.name} targets tier 0, which is excluded from " ++
          "orchestrated flow actions") group.name]
    else []

def validateGroupShutdownTiers (groups : List Group) : List Diagnostic :=
  groups.flatMap validateGroupShutdownTier

variable {groups : List Group} {policy : TierPolicy} {tier : Int}

variable {group : Group} {tiers : TierMap}

theorem lookup_effectiveShutdownTiers (hnodup : (groups.map (·.name)).Nodup)
    (hgroup : group ∈ groups) :
    (effectiveShutdownTiers groups policy).lookup group.name =
      group.shutdownTier.or (effectiveDefaultShutdownTier groups policy) := by
  unfold effectiveShutdownTiers
  dsimp only
  split
  · exact lookup_fillMap hnodup hgroup
  · rename_i hi
    -- an inactive policy mentions no tier at all
    simp only [ne_eq, Bool.or_eq_true, decide_eq_true_eq, any_eq_true, not_or, not_exists,
      not_and, Option.not_isSome_iff_eq_none, not_not] at hi
    obtain ⟨⟨hdef, hd⟩, hg⟩ := hi
    have hm : mentionedTiers groups policy = [] := by
      simpa [mentionedTiers, hd, filterMap_eq_nil_iff] using hg
    rw [AList.lookup_empty, hg group hgroup, effectiveDefaultShutdownTier, hdef, hm]
    rfl

theorem mem_of_lookup_effectiveShutdownTiers {name : String}
    (h : (effectiveShutdownTiers groups policy).lookup name = some tier) :
    name ∈ groups.map (·.name) := by
  by_contra hmem
  unfold effectiveShutdownTiers at h
  dsimp only at h
  split at h
  · rw [lookup_fillMap_eq_none hmem] at h
    cases h
  · rw [AList.lookup_empty] at h
    cases h

theorem mem_occupiedTiers : tier ∈ occupiedTiers groups tiers ↔
      ∃ name ∈ groups.map (·.name), tiers.lookup name = some tier := by
  simp [occupiedTiers]

theorem occupiedTiers_descending (groups : List Group) (tiers : TierMap) :
    (occupiedTiers groups tiers).Pairwise (· > ·) := by
  have hn : (occupiedTiers groups tiers).Nodup := sortStable_nodup.mpr (nodup_dedup _)
  have hs : (occupiedTiers groups tiers).Pairwise
      fun left right => decide (right > left) = false := by
    have htotal : Std.Total fun left right : Int => decide (right > left) = false :=
      ⟨fun left right => by simp only [decide_eq_false_iff_not]; omega⟩
    have htrans : IsTrans Int fun left right => decide (right > left) = false :=
      ⟨fun left mid right => by simp only [decide_eq_false_iff_not]; omega⟩
    exact pairwise_insertionSort _ _
  refine (hs.and hn).imp ?_
  rintro left right ⟨hle, hne⟩
  rw [decide_eq_false_iff_not] at hle
  omega

theorem mem_groupsAtTier {name : String} : name ∈ groupsAtTier groups tiers tier ↔
      name ∈ groups.map (·.name) ∧ tiers.lookup name = some tier := by
  simp only [groupsAtTier, mem_sortStrings, mem_map, mem_filter, decide_eq_true_eq]
  constructor
  · rintro ⟨group, ⟨hg, htier⟩, rfl⟩
    exact ⟨⟨group, hg, rfl⟩, htier⟩
  · rintro ⟨⟨group, hg, rfl⟩, htier⟩
    exact ⟨group, ⟨hg, htier⟩, rfl⟩

theorem joins_collectShutdownTierGraphEdges {relation : Relation} {first second : String} :
    Joins (collectShutdownTierGraphEdges groups policy) relation first second ↔
      relation = .shutdownTier ∧ ∃ higherTier lowerTier,
        (effectiveShutdownTiers groups policy).lookup first = some higherTier ∧
        (effectiveShutdownTiers groups policy).lookup second = some lowerTier ∧
        lowerTier < higherTier ∧
        ∀ between ∈ occupiedTiers groups (effectiveShutdownTiers groups policy),
          ¬ (lowerTier < between ∧ between < higherTier) := by
  have hn : ∀ higherTier lowerTier : Int, (higherTier, lowerTier) ∈ _ ↔ _ :=
    fun _ _ => mem_zip_tail (fun x y (h : x > y) => lt_asymm h)
      (occupiedTiers_descending groups (effectiveShutdownTiers groups policy))
  simp only [Joins, collectShutdownTierGraphEdges, mem_flatMap, Prod.exists, hn,
    mem_map, mem_groupsAtTier]
  constructor
  · rintro ⟨edge, ⟨higherTier, lowerTier, ⟨-, -, hlt, hbetween⟩, fromID, ⟨-, hfrom⟩, toID,
      ⟨-, hto⟩, rfl⟩, rfl, rfl, rfl⟩
    exact ⟨rfl, higherTier, lowerTier, hfrom, hto, hlt,
      fun between hmem hi => hbetween between hmem hi.symm⟩
  · rintro ⟨rfl, higherTier, lowerTier, hf, hs, hlt, hbetween⟩
    have hfirstMem := mem_of_lookup_effectiveShutdownTiers hf
    have hsecondMem := mem_of_lookup_effectiveShutdownTiers hs
    refine ⟨shutdownTierEdge first second higherTier lowerTier, ⟨higherTier, lowerTier,
      ⟨mem_occupiedTiers.mpr ⟨first, hfirstMem, hf⟩,
        mem_occupiedTiers.mpr ⟨second, hsecondMem, hs⟩, hlt,
        fun between hmem hi => hbetween between hmem hi.symm⟩,
      first, ⟨?_, hf⟩, second, ⟨?_, hs⟩, rfl⟩, rfl, rfl, rfl⟩
    · simpa using hfirstMem
    · simpa using hsecondMem

/-- Neighbouring tiers chain up: a higher tier precedes every lower one through
the occupied tiers between them. -/
theorem transGen_of_tier_lt {first second : String} {higherTier lowerTier : Int}
    (hfirst : (effectiveShutdownTiers groups policy).lookup first = some higherTier)
    (hsecond : (effectiveShutdownTiers groups policy).lookup second = some lowerTier)
    (hlt : lowerTier < higherTier) :
    Relation.TransGen (Joins (collectShutdownTierGraphEdges groups policy) .shutdownTier)
      first second := by
  -- induction on the width of the gap; an occupied tier inside splits it in two
  induction hgap : (higherTier - lowerTier).toNat using Nat.strong_induction_on
    generalizing first second higherTier lowerTier with
  | _ gap ih =>
    by_cases hi : ∃ between ∈ occupiedTiers groups (effectiveShutdownTiers groups policy),
        lowerTier < between ∧ between < higherTier
    · obtain ⟨between, hmem, hlow, hhigh⟩ := hi
      obtain ⟨mid, -, hmid⟩ := mem_occupiedTiers.mp hmem
      exact (ih _ (by omega) hfirst hmid hhigh rfl).trans
        (ih _ (by omega) hmid hsecond hlow rfl)
    · refine .single (joins_collectShutdownTierGraphEdges.mpr
        ⟨rfl, higherTier, lowerTier, hfirst, hsecond, hlt, ?_⟩)
      exact fun between hmem hboth => hi ⟨between, hmem, hboth⟩

theorem tier_pos_of_no_error (h : hasError (validateGroupShutdownTiers groups) = false)
    (hgroup : group ∈ groups) (htier : group.shutdownTier = some tier) : 0 < tier := by
  have hone := hasError_flatMap.mp h group hgroup
  unfold validateGroupShutdownTier at hone
  rw [htier] at hone
  dsimp only at hone
  split_ifs at hone with hneg hzero
  · simp at hone
  · simp at hone
  · omega

theorem default_isSome_of_tier (hvalue : hasError (validateGroupShutdownTiers groups) = false)
    (hgroup : group ∈ groups) (htier : group.shutdownTier = some tier) :
    (effectiveDefaultShutdownTier groups policy).isSome = true := by
  unfold effectiveDefaultShutdownTier
  split
  · rfl
  · have hmem : tier ∈ mentionedTiers groups policy :=
      mem_append_right _ (mem_filterMap.mpr ⟨group, hgroup, htier⟩)
    split
    · rename_i maxTier hmax
      have hle : tier ≤ maxTier := (List.max?_eq_some_iff.mp hmax).2 tier hmem
      have hpos := tier_pos_of_no_error hvalue hgroup htier
      rw [if_neg (by omega)]
      rfl
    · rename_i hmax
      rw [List.max?_eq_none_iff] at hmax
      rw [hmax] at hmem
      cases hmem

theorem sharedShutdownTier_eq_some {names : List String} :
    sharedShutdownTier names tiers = some tier ↔
      names ≠ [] ∧ ∀ name ∈ names, tiers.lookup name = some tier := by
  unfold sharedShutdownTier
  cases names with
  | nil => simp
  | cons first rest =>
    cases hf : tiers.lookup first with
    | none => simp [hf]
    | some firstTier =>
      simp only [all_eq_true, decide_eq_true_eq, ne_eq, reduceCtorEq, not_false_eq_true,
        true_and, forall_mem_cons, hf, Option.some.injEq]
      constructor
      · intro h
        split at h
        · rename_i hrest
          cases h
          exact ⟨rfl, hrest⟩
        · cases h
      · rintro ⟨rfl, hrest⟩
        rw [if_pos hrest]

end NutOperator.Planner
