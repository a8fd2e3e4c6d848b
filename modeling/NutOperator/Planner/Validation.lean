import NutOperator.Graph.Cycle
import NutOperator.Planner.Artifacts
import NutOperator.Planner.Triggers

/-! Structural validation of the scoped inputs. -/
namespace NutOperator.Planner

open List

open Data NutOperator.Graph

/-- A repeated identifier is reported at its second occurrence only. -/
def validateStep (earlier : List Step) (step : Step) : List Diagnostic :=
  (if step.continueOnError then
    [errorDiagnostic "ContinueOnErrorUnsupported"
      "v1 stops after action failure; continueOnError must be false" step.id]
  else []) ++
  (if step.id = "" then
    [errorDiagnostic "StepIDRequired" "every shutdown step requires an id"]
  else if earlier.countP (·.id = step.id) = 1 then
    [errorDiagnostic "DuplicateStepID" s!"shutdown step id {quote step.id} is duplicated" step.id]
  else [])

def validateGroupName (earlier : List Group) (group : Group) : List Diagnostic :=
  if group.name = "" then
    [errorDiagnostic "GroupNameRequired" "every shutdown group requires a name"]
  else if earlier.countP (·.name = group.name) = 1 then
    [errorDiagnostic "DuplicateGroupName"
      s!"shutdown group name {quote group.name} is duplicated" group.name]
  else []

def validateGroupDependencies (groups : List Group) (group : Group) : List Diagnostic :=
  (group.requires ++ group.before ++ group.after).flatMap fun dependency =>
    if dependency ≠ "" ∧ dependency ∈ groups.map (·.name) then []
    else
      [errorDiagnostic "UnknownDependency"
        (s!"shutdown group {quote group.name} references unknown dependency " ++
          s!"{quote dependency}") group.name]

def hasGroupCycle (input : StructuralInputs) (index : CommunicationIndex) : Bool :=
  let graph := buildGroupGraphForInputs input index
  hasCycle (graphSuccessors graph) (graph.edges.length + 2) (input.groups.map (·.name))

def validateStructuralInputsWithIndex (input : StructuralInputs) (index : CommunicationIndex) :
    List Diagnostic :=
  (if input.abortBehavior ≠ "" ∧ input.abortBehavior ≠ "HaltAndSurface" then
    [errorDiagnostic "AbortBehaviorUnsupported" "v1 supports only HaltAndSurface abort behavior"]
  else []) ++
  (if input.abortNotify then
    [errorDiagnostic "AbortNotifyUnsupported"
      "abort-only notifications are unsupported; set abortPolicy.notify to false"]
  else []) ++
  validateTierPolicy input.tierPolicy ++
  validateTriggerCapabilities input ++
  (if input.triggers = [] then
    [errorDiagnostic "TriggersRequired" "at least one trigger definition is required"]
  else []) ++
  (if input.groups = [] ∧ input.steps = [] then
    [errorDiagnostic "PlanRequired" "groups or steps require at least one shutdown action"]
  else []) ++
  (if input.groups ≠ [] ∧ input.steps ≠ [] then
    [warningDiagnostic "GroupsPreferred" "groups are present, so linear steps are ignored"]
  else []) ++
  withEarlier validateStep [] input.steps ++
  withEarlier validateGroupName [] input.groups ++
  validateGroupShutdownTiers input.groups ++
  reportDefaultedShutdownTiers input ++
  validateTierInversion input ++
  input.groups.flatMap (validateGroupDependencies input.groups) ++
  (if hasGroupCycle input index then
    [errorDiagnostic "DependencyCycle" "shutdown groups contain a dependency cycle"]
  else [])

/-- What validation without an error establishes about the actions. -/
structure WellFormed (input : StructuralInputs) : Prop where
  groupNames : (input.groups.map (·.name)).Nodup
  groupNamed : ∀ group ∈ input.groups, group.name ≠ ""
  stepIDs : (input.steps.map (·.id)).Nodup
  known : KnownDependencies input.groups
  tiers : hasError (validateGroupShutdownTiers input.groups) = false
  actions : input.groups ≠ [] ∨ input.steps ≠ []
  stepNamed : ∀ step ∈ input.steps, step.id ≠ ""

private theorem nodup_of_no_repeat {name : α → String} {values : List α}
    (h : ∀ before value after, values = before ++ value :: after →
      before.countP (name · = name value) ≠ 1) : (values.map name).Nodup := by
  -- the second occurrence of a repeated name has exactly one equal before it
  induction values using reverseRecOn with
  | nil => exact nodup_nil
  | append_singleton values value ih =>
    have hinitial : (values.map name).Nodup := by
      apply ih
      intro before value' after hs
      exact h before value' (after ++ [value]) (by simp [hs])
    rw [map_append, map_singleton, nodup_append]
    refine ⟨hinitial, nodup_singleton _, ?_⟩
    intro left hleft right hr heq
    rw [mem_singleton] at hr
    apply h values value [] rfl
    have hmem : name value ∈ values.map name := by rwa [← hr, ← heq]
    have hc := count_eq_one_of_mem hinitial hmem
    rw [count, countP_map] at hc
    rw [← hc]
    apply countP_congr
    intro other _
    simp

theorem validateStep_ok {earlier : List Step} {step : Step}
    (h : hasError (validateStep earlier step) = false) :
    step.id ≠ "" ∧ earlier.countP (·.id = step.id) ≠ 1 := by
  rw [validateStep, hasError_append, Bool.or_eq_false_iff] at h
  obtain ⟨-, h⟩ := h
  split_ifs at h with hid hc
  · simp at h
  · simp at h
  · exact ⟨hid, hc⟩

theorem validateGroupName_ok {earlier : List Group} {group : Group}
    (h : hasError (validateGroupName earlier group) = false) :
    group.name ≠ "" ∧ earlier.countP (·.name = group.name) ≠ 1 := by
  unfold validateGroupName at h
  split_ifs at h with hname hc
  · simp at h
  · simp at h
  · exact ⟨hname, hc⟩

theorem validateGroupDependencies_ok {groups : List Group} {group : Group}
    (h : hasError (validateGroupDependencies groups group) = false) {dependency : String}
    (hdepends : dependency ∈ group.requires ++ group.before ++ group.after) :
    dependency ∈ groups.map (·.name) := by
  have hone := hasError_flatMap.mp h dependency hdepends
  split_ifs at hone with hk
  · exact hk.2
  · simp at hone

theorem wellFormed_of_validated {input : StructuralInputs} {index : CommunicationIndex}
    (h : hasError (validateStructuralInputsWithIndex input index) = false) : WellFormed input := by
  unfold validateStructuralInputsWithIndex at h
  simp only [hasError_append, Bool.or_eq_false_iff] at h
  obtain ⟨⟨⟨⟨⟨⟨⟨⟨⟨⟨⟨⟨⟨-, -⟩, -⟩, -⟩, -⟩, hplan⟩, -⟩, hsteps⟩, hg⟩, ht⟩, -⟩, -⟩, hdepends⟩, -⟩ := h
  rw [hasError_withEarlier] at hsteps hg
  rw [hasError_flatMap] at hdepends
  refine ⟨?_, ?_, ?_, ?_, ht, ?_, ?_⟩
  · apply nodup_of_no_repeat
    intro before group after hsplit
    exact (validateGroupName_ok (hg before group after hsplit)).2
  · intro group hgroup
    obtain ⟨before, after, hsplit⟩ := append_of_mem hgroup
    exact (validateGroupName_ok (hg before group after hsplit)).1
  · apply nodup_of_no_repeat
    intro before step after hsplit
    exact (validateStep_ok (hsteps before step after hsplit)).2
  · intro group hgroup dependency hd
    exact validateGroupDependencies_ok (hdepends group hgroup) hd
  · by_contra hnone
    rw [not_or, not_not, not_not] at hnone
    rw [if_pos hnone] at hplan
    simp at hplan
  · intro step hstep
    obtain ⟨before, after, hsplit⟩ := append_of_mem hstep
    exact (validateStep_ok (hsteps before step after hsplit)).1

end NutOperator.Planner
