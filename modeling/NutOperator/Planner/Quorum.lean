import NutOperator.Planner.ReleaseOrder

/-! Accepted plans keep the control plane in quorum until its terminal handoff. -/
namespace NutOperator.Planner

open Data NutOperator.Graph List

def releasedThrough (memberships : List GroupNodeMembership) (stages : List (List String))
    (position : Nat) : List String :=
  (stages.take (position + 1)).flatten.flatMap fun name =>
    (memberships.filter (·.group = name)).flatMap (·.releases)

def TerminalStage (stages : List (List String)) (position : Nat) : Prop :=
  position + 1 = stages.length ∧ ∃ name, stages[position]? = some [name]

structure QuorumKept (members : List ControlPlaneNode) (released : List String) : Prop where
  remaining : ∃ member ∈ members, member.name ∉ released
  voters : 0 < quorumSize members → quorumSize members / 2 + 1 ≤
      members.countP fun member => member.quorumMember && member.name ∉ released
  undeclared : 1 < members.length → quorumSize members = 0 →
    ∀ member ∈ members, member.name ∉ released

section

variable {members : List ControlPlaneNode} {releases : String → List String}

variable {released : List String}

theorem mem_releasedMembers {groups : List String} {node : String} :
    node ∈ releasedMembers members releases released groups ↔
      node ∈ released ∨ node ∈ members.map (·.name) ∧ ∃ name ∈ groups, node ∈ releases name := by
  simp only [releasedMembers, mem_dedup, mem_append, mem_filter, mem_flatMap, decide_eq_true_eq]
  exact or_congr_right and_comm

theorem foldl_releasedMembers (hnodup : released.Nodup) (stages : List (List String)) :
    (stages.foldl (releasedMembers members releases) released).Nodup ∧
      ∀ node, node ∈ stages.foldl (releasedMembers members releases) released ↔
        node ∈ released ∨ node ∈ members.map (·.name) ∧
          ∃ name ∈ stages.flatten, node ∈ releases name := by
  induction stages generalizing released with
  | nil => exact ⟨hnodup, by simp⟩
  | cons groups rest ih =>
    have hstep : (releasedMembers members releases released groups).Nodup := nodup_dedup _
    obtain ⟨hnodup', hmem⟩ := ih hstep
    refine ⟨hnodup', fun node => ?_⟩
    rw [foldl_cons, hmem, mem_releasedMembers, or_assoc, ← and_or_left]
    simp only [flatten_cons, mem_append, or_and_right, exists_or]

theorem length_released_voters (hnames : (members.map (·.name)).Nodup) (hnodup : released.Nodup) :
    (released.filter fun node =>
        node ∈ (members.filter (·.quorumMember)).map (·.name)).length =
      members.countP fun member => member.quorumMember && member.name ∈ released := by
  have hperm : (released.filter fun node =>
      node ∈ (members.filter (·.quorumMember)).map (·.name)).Perm
      ((members.filter fun member => member.quorumMember && member.name ∈ released).map
        (·.name)) := by
    rw [perm_ext_iff_of_nodup (hnodup.filter _) (hnames.sublist (filter_sublist.map _))]
    intro node
    simp only [mem_filter, mem_map, decide_eq_true_eq, Bool.and_eq_true]
    constructor
    · rintro ⟨hnode, member, ⟨hm, hvoter⟩, rfl⟩
      exact ⟨member, ⟨hm, hvoter, hnode⟩, rfl⟩
    · rintro ⟨member, ⟨hm, hvoter, hnode⟩, rfl⟩
      exact ⟨hnode, member, ⟨hm, hvoter⟩, rfl⟩
  rw [hperm.length_eq, length_map, countP_eq_length_filter]

theorem quorumSize_split (released : List String) : quorumSize members =
      (members.countP fun member => member.quorumMember && member.name ∈ released) +
        members.countP fun member => member.quorumMember && member.name ∉ released := by
  rw [quorumSize, countP_eq_countP_filter_add members _ fun member =>
    decide (member.name ∈ released), countP_filter, countP_filter]
  simp

theorem quorumKept_of_counts (hnames : (members.map (·.name)).Nodup) (hnodup : released.Nodup)
    (hsubset : ∀ node ∈ released, node ∈ members.map (·.name))
    (hremaining : (members.length : Int) - released.length ≠ 0)
    (hvote : 0 < quorumSize members → ((quorumSize members / 2 + 1 : Nat) : Int) ≤
      quorumSize members - (released.filter fun node =>
        node ∈ (members.filter (·.quorumMember)).map (·.name)).length)
    (hundeclared : ¬ (released ≠ [] ∧ 1 < members.length ∧ quorumSize members = 0)) :
    QuorumKept members released := by
  refine ⟨?_, ?_, ?_⟩
  · by_contra hall
    push Not at hall
    apply hremaining
    have hperm : released.Perm (members.map (·.name)) := by
      rw [perm_ext_iff_of_nodup hnodup hnames]
      refine fun node => ⟨hsubset node, fun hnode => ?_⟩
      obtain ⟨member, hmember, rfl⟩ := mem_map.mp hnode
      exact hall member hmember
    have hlen := hperm.length_eq
    rw [length_map] at hlen
    omega
  · intro hq
    have hle := hvote hq
    have hr := length_released_voters hnames hnodup
    have hs := @quorumSize_split members released
    omega
  · intro hmany hnone member hmember hr
    exact hundeclared ⟨ne_nil_of_mem hr, hmany, hnone⟩

end

variable {input : StructuralInputs} {releases : String → List String} {position : Nat}
  {released : List String}

theorem stageDiagnostics_stop {groups : List String} {last : Bool}
    (h : (stageDiagnostics input releases position released groups last).2 = true) :
    hasError (stageDiagnostics input releases position released groups last).1 = true := by
  unfold stageDiagnostics at h ⊢
  dsimp only at h ⊢
  split
  · simp
  · rename_i hu
    rw [if_neg hu] at h
    split
    · simp
    · rename_i hlost
      rw [if_neg hlost] at h
      cases h

theorem stageDiagnostics_continue {groups : List String} {last : Bool}
    (hopen : ¬ (last = true ∧ groups.length = 1))
    (h : (stageDiagnostics input releases position released groups last).2 = false) :
    (input.controlPlaneNodes.length : Int) - released.length ≠ 0 ∧
      (0 < quorumSize input.controlPlaneNodes →
        ((quorumSize input.controlPlaneNodes / 2 + 1 : Nat) : Int) ≤
          quorumSize input.controlPlaneNodes - (released.filter fun node =>
            node ∈ (input.controlPlaneNodes.filter (·.quorumMember)).map (·.name)).length) ∧
      ¬ (released ≠ [] ∧ 1 < input.controlPlaneNodes.length ∧
        quorumSize input.controlPlaneNodes = 0) := by
  have ht : (last && decide (groups.length = 1)) = false := by
    simpa using hopen
  unfold stageDiagnostics at h
  dsimp only at h
  rw [ht] at h
  split at h
  · cases h
  · rename_i hu
    split at h
    · cases h
    · rename_i hlost
      simp only [Bool.not_false, Bool.true_and, Bool.and_eq_true, decide_eq_true_eq,
        Bool.or_eq_true, not_or, not_and, not_lt] at hu hlost
      exact ⟨hlost.1, hlost.2, fun ⟨hr, hmany, hnone⟩ =>
        hu ⟨hr, hmany⟩ hnone⟩

theorem walkStages_cons {start : Nat} {groups : List String} {rest : List (List String)}
    (h : hasError (walkStages input releases start released (groups :: rest)) = false) :
    (stageDiagnostics input releases start
        (releasedMembers input.controlPlaneNodes releases released groups) groups
        (rest = [])).2 = false ∧
      hasError (walkStages input releases (start + 1)
        (releasedMembers input.controlPlaneNodes releases released groups) rest) = false := by
  rw [walkStages] at h
  split at h
  · rename_i diagnostics hs
    have hstop := stageDiagnostics_stop (congrArg Prod.snd hs)
    rw [hs, h] at hstop
    cases hstop
  · rename_i diagnostics hs
    rw [hasError_append, Bool.or_eq_false_iff] at h
    exact ⟨congrArg Prod.snd hs, h.2⟩

theorem walkStages_ok (hnames : (input.controlPlaneNodes.map (·.name)).Nodup)
    {stages : List (List String)} {start : Nat}
    (hsubset : ∀ node ∈ released, node ∈ input.controlPlaneNodes.map (·.name))
    (h : hasError (walkStages input releases start released stages) = false)
    (hposition : position < stages.length) (hterminal : ¬ TerminalStage stages position) :
    QuorumKept input.controlPlaneNodes
      ((stages.take (position + 1)).foldl (releasedMembers input.controlPlaneNodes releases)
        released) := by
  induction stages generalizing start released position with
  | nil => exact absurd hposition (Nat.not_lt_zero _)
  | cons groups rest ih =>
    obtain ⟨hstage, hrest⟩ := walkStages_cons h
    have hsubset' : ∀ node ∈ releasedMembers input.controlPlaneNodes releases released groups,
        node ∈ input.controlPlaneNodes.map (·.name) := by
      intro node hnode
      rcases mem_releasedMembers.mp hnode with hold | ⟨hname, -⟩
      · exact hsubset node hold
      · exact hname
    cases position with
    | zero =>
      have hopen : ¬ (decide (rest = []) = true ∧ groups.length = 1) := by
        rintro ⟨hlast, hlen⟩
        obtain ⟨name, rfl⟩ := length_eq_one_iff.mp hlen
        exact hterminal ⟨by rw [of_decide_eq_true hlast]; rfl, name, rfl⟩
      obtain ⟨hr, hvote, hu⟩ := stageDiagnostics_continue hopen hstage
      exact quorumKept_of_counts hnames (nodup_dedup _) hsubset' hr hvote hu
    | succ position =>
      refine ih hsubset' hrest (Nat.lt_of_succ_lt_succ hposition) ?_
      rintro ⟨hlast, name, hname⟩
      exact hterminal ⟨by rw [length_cons, ← hlast], name, hname⟩

theorem mem_controlPlaneReleases {memberships : List GroupNodeMembership}
    (hentities : (memberships.map (·.group)).Nodup) {name node : String} :
    node ∈ controlPlaneReleases memberships name ↔ Releases memberships name node := by
  unfold controlPlaneReleases Releases
  by_cases hname : name ∈ memberships.map (·.group)
  · obtain ⟨entry, hentry, rfl⟩ := mem_map.mp hname
    rw [lookup_fillMap hentities hentry]
    constructor
    · intro hnode
      exact ⟨entry, hentry, rfl, hnode⟩
    · rintro ⟨other, ho, hsame, hnode⟩
      rwa [← inj_on_of_nodup_map hentities ho hentry hsame]
  · rw [lookup_fillMap_eq_none hname]
    constructor
    · exact nofun
    · rintro ⟨entry, hentry, rfl, -⟩
      exact absurd (mem_map_of_mem hentry) hname

theorem mem_releasedThrough {memberships : List GroupNodeMembership} {stages : List (List String)}
    {node : String} :
    node ∈ releasedThrough memberships stages position ↔
      ∃ name ∈ (stages.take (position + 1)).flatten, Releases memberships name node := by
  simp [releasedThrough, Releases, and_assoc]

theorem QuorumKept.congr {members members' : List ControlPlaneNode} {released' : List String}
    (hperm : members.Perm members')
    (hreleased : ∀ member ∈ members, member.name ∈ released ↔ member.name ∈ released')
    (h : QuorumKept members released) : QuorumKept members' released' := by
  have hquorate : quorumSize members = quorumSize members' := hperm.countP_eq _
  refine ⟨?_, ?_, ?_⟩
  · obtain ⟨member, hmember, hkept⟩ := h.remaining
    exact ⟨member, hperm.mem_iff.mp hmember, (hreleased member hmember).not.mp hkept⟩
  · intro hpos
    rw [← hquorate] at hpos ⊢
    have hc : (members.countP fun member => member.quorumMember && member.name ∉ released) =
        members.countP fun member => member.quorumMember && member.name ∉ released' :=
      countP_congr fun member hmember => by simp [hreleased member hmember]
    rw [← hperm.countP_eq, ← hc]
    exact h.voters hpos
  · intro hmany hnone member hmember
    rw [← hperm.length_eq] at hmany
    rw [← hquorate] at hnone
    have hmember' := hperm.mem_iff.mpr hmember
    exact (hreleased member hmember').not.mp (h.undeclared hmany hnone member hmember')

/-- Before the terminal stage, what an accepted plan has released leaves the
control plane in quorum. -/
theorem quorum_kept_before_handoff {hash : StableHash} {structural : StructuralInputs}
    {telemetry : TelemetryInputs} {history : HistoryInputs} {plan : Plan}
    {diagnostics : List Diagnostic}
    (h : compileWithHistory hash structural telemetry history = .ok (plan, diagnostics))
    (hmembers : structural.controlPlaneNodes ≠ [])
    (hentries : (structural.groupNodes.map (·.group)).Nodup) {position : Nat}
    (hposition : position < plan.stages.length) (hopen : ¬ TerminalStage plan.stages position) :
    QuorumKept structural.controlPlaneNodes
      (releasedThrough structural.groupNodes plan.stages position) := by
  obtain ⟨normalized, surviving, pruned, -, -, hcompiled⟩ := compiledFrom_of_compile h
  have hperm : surviving.controlPlaneNodes.Perm structural.controlPlaneNodes := by
    rw [hcompiled.survival.controlPlane]
    exact hcompiled.normalizes.controlPlane
  have hentities' : (surviving.groupNodes.map (·.group)).Nodup := by
    rw [hcompiled.survival.groupNodes]
    refine List.Nodup.sublist (List.filter_sublist.map _) ?_
    have hsame := hcompiled.normalizes.groupNodes.map (·.group)
    rw [List.map_map] at hsame
    exact hsame.nodup_iff.mpr hentries
  have hchecked := hcompiled.accepted.controlPlane
  unfold controlPlaneDiagnostics at hchecked
  dsimp only at hchecked
  have hsome : surviving.controlPlaneNodes.map (·.name) ≠ [] := by
    rw [Ne, List.map_eq_nil_iff]
    rintro hnone
    rw [hnone] at hperm
    exact hmembers (List.nil_perm.mp hperm)
  rw [if_neg hsome] at hchecked
  split at hchecked
  · simp at hchecked
  · rename_i hv
    rw [not_or, not_not] at hv
    rw [hasError_append, Bool.or_eq_false_iff] at hchecked
    have hkept := walkStages_ok hv.1 (by simp) hchecked.1 hposition hopen
    refine hkept.congr hperm fun member hm => ?_
    rw [(foldl_releasedMembers List.nodup_nil _).2, mem_releasedThrough]
    simp only [List.not_mem_nil, false_or, List.mem_map_of_mem hm, true_and,
      mem_controlPlaneReleases hentities', hcompiled.releases]
    refine exists_congr fun name => and_congr_right fun hname => ?_
    have hkeptName : name ∉ pruned := by
      refine (hcompiled.not_pruned ?_).2
      obtain ⟨stage, hs, hmem⟩ := List.mem_flatten.mp hname
      exact List.mem_flatten.mpr ⟨stage, List.mem_of_mem_take hs, hmem⟩
    simp [hkeptName]

def handoffFlow : StructuralInputs :=
  { triggers := [{ type := "OnBattery" }]
    groups := [{ name := "spare", before := ["handoff"] }, { name := "handoff" }]
    groupNodes := [{ group := "spare", releases := ["cp-1"] },
        { group := "handoff", releases := ["cp-2", "cp-3"] }]
    controlPlaneNodes :=
      [{ name := "cp-1", quorumMember := true }, { name := "cp-2", quorumMember := true },
        { name := "cp-3", quorumMember := true }] }

theorem handoffFlow_keeps_quorum :
    ∃ plan diagnostics, compileWithHistory constantHash handoffFlow {} {} =
        .ok (plan, diagnostics) ∧ plan.stages = [["spare"], ["handoff"]] ∧
      QuorumKept handoffFlow.controlPlaneNodes
        (releasedThrough handoffFlow.groupNodes plan.stages 0) := by
  obtain ⟨⟨plan, diagnostics⟩, ha, hs⟩ : ∃ accepted,
      compileWithHistory constantHash handoffFlow {} {} = .ok accepted ∧
        accepted.1.stages = [["spare"], ["handoff"]] :=
    exists_ok_of_map (by decide)
  refine ⟨plan, diagnostics, ha, hs,
    quorum_kept_before_handoff ha (by decide) (by decide) ?_ ?_⟩
  · rw [hs]
    decide
  · rw [hs]
    rintro ⟨hlast, -⟩
    exact absurd hlast (by decide)

end NutOperator.Planner
