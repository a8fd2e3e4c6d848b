import NutOperator.Data.Duration
import NutOperator.Planner.Nodes

/-! The plan graph and what is derived from it for people: the startup
projection, explanations and diagrams. -/
namespace NutOperator.Planner

open Data List

def declaredEdge (relation : Relation) (fromID toID owner field explanation : String) :
    GraphEdge :=
  { id := graphEdgeID fromID toID relation, fromID := fromID, toID := toID, relation := relation
    provenance := .declared
    sources := [{ kind := VertexKind.shutdownGroup.text, name := owner, field := field }]
    explanation := explanation }

def requiresEdge (group dependency : String) : GraphEdge :=
  declaredEdge .requires group dependency group "spec.groups[].requires"
    (s!"{group} runs before {dependency} because {group} requires {dependency} to remain " ++
      "available during shutdown.")

def beforeEdge (group dependency : String) : GraphEdge :=
  declaredEdge .before group dependency group "spec.groups[].before"
    s!"{group} runs before {dependency} because {group} declares before: {dependency}."

def afterEdge (group dependency : String) : GraphEdge :=
  declaredEdge .after dependency group group "spec.groups[].after"
    s!"{dependency} runs before {group} because {group} declares after: {dependency}."

def declaredGroupEdges (groups : List Group) : List GraphEdge := groups.flatMap fun group =>
    group.requires.map (requiresEdge group.name) ++ group.before.map (beforeEdge group.name) ++
      group.after.map (afterEdge group.name)

def collectGroupGraphEdges (groups : List Group) (policy : TierPolicy) : List GraphEdge :=
  dedupeGraphEdges (declaredGroupEdges groups ++ collectShutdownTierGraphEdges groups policy)

def groupVertex (tiers : TierMap) (group : Group) : GraphVertex :=
  { id := group.name, kind := .shutdownGroup, label := group.name, action := group.action
    shutdownTier := shutdownTierPtr group.name tiers
    targetSummary := summarizeTarget group.target }

def buildGroupGraphForInputs (input : StructuralInputs) (index : CommunicationIndex) : Graph :=
  let tiers := effectiveShutdownTiers input.groups input.tierPolicy
  sortGraph
    { vertices := input.groups.map (groupVertex tiers)
      edges := collectGroupGraphEdges input.groups input.tierPolicy ++
          collectNodeClearanceGraphEdges input.groups input.groupNodes ++
          collectCommunicationGraphEdges input.groups input.groupNodes index
            input.communicationServices }

def stepVertex (step : Step) : GraphVertex :=
  { id := step.id, kind := .shutdownStep, label := step.id, action := step.action
    targetSummary := summarizeTarget step.target }

def linearOrderEdge (previous step : Step) : GraphEdge :=
  { id := graphEdgeID previous.id step.id .linearOrder, fromID := previous.id, toID := step.id
    relation := .linearOrder, provenance := .policy
    sources := [{ kind := VertexKind.shutdownStep.text, field := "spec.steps" }]
    explanation :=
      s!"{previous.id} runs before {step.id} because linear steps preserve declared order." }

def buildStepGraph (steps : List Step) : Graph := sortGraph
    { vertices := steps.map stepVertex
      edges := (steps.zip steps.tail).map fun (previous, step) => linearOrderEdge previous step }

def advisoryStartupWaves (shutdownWaves : List Wave) : List Wave := withEarlier
    (fun earlier source =>
      [{ index := earlier.length
         shutdownTier := source.shutdownTier, groups := sortStrings source.groups
         duration := source.duration
         cumulativeDuration := wrapDuration ((earlier.map (·.duration)).sum + source.duration) }])
    [] shutdownWaves.reverse

def graphExplanations (graph : Graph) (shutdownWaveCount startupWaveCount : Nat) :
    List Explanation :=
  (graph.edges.map fun edge =>
    { id := "edge-" ++ edge.id, subject := edge.id, reason := edge.relation.text
      message := edge.explanation }) ++
  [{ id := "plan-compiled"
     subject := "plan", reason := "PlanCompiled"
     message :=
       s!"compiled {graph.vertices.length} graph vertices and {graph.edges.length} graph " ++
         s!"edges into {shutdownWaveCount} shutdown wave(s)." }] ++
  (if 0 < startupWaveCount then
    [{ id := "startup-projection"
       subject := "startupWaves", reason := "AdvisoryStartupProjection"
       message :=
         s!"projected {startupWaveCount} advisory startup wave(s) by reversing the shutdown " ++
           "dependency order." }]
  else [])

def diagramLabel (vertex : GraphVertex) : String :=
  if vertex.action = "" then vertex.label else vertex.label ++ "\\n" ++ vertex.action

/-- Sanitised identifiers; the second vertex with the same one gets the suffix
`_1`, the third `_2`, and so on. -/
def diagramNodeIDs (vertices : List GraphVertex) : AList (fun _ : String => String) :=
  fillMap Prod.fst (fun pair => some pair.2) (withEarlier (fun earlier vertex =>
        let base := safeGraphID vertex.id
        let count := earlier.countP fun other => safeGraphID other.id = base
        [(vertex.id, if 0 < count then s!"{base}_{count}" else base)])
      [] vertices)

def diagramNodeID (nodeIDs : AList (fun _ : String => String)) (name : String) : String :=
  (nodeIDs.lookup name).getD ""

def renderMermaid (graph : Graph) : String :=
  let nodeID := diagramNodeID (diagramNodeIDs graph.vertices)
  "flowchart TD\n" ++ join (graph.vertices.map fun vertex =>
      s!"  {nodeID vertex.id}[{quote (diagramLabel vertex)}]\n") "" ++
    join (graph.edges.map fun edge =>
      s!"  {nodeID edge.fromID} -->|{edge.relation.text}| {nodeID edge.toID}\n") ""

def renderGraphvizDOT (graph : Graph) : String :=
  "digraph shutdown_plan \x7b\n" ++ "  rankdir=LR;\n" ++ join (graph.vertices.map fun vertex =>
      s!"  {quote vertex.id} [label={quote (diagramLabel vertex)}];\n") "" ++
    join (graph.edges.map fun edge =>
      s!"  {quote edge.fromID} -> {quote edge.toID} [label={quote edge.relation.text}];\n") "" ++
    "\x7d\n"

def renderD2 (graph : Graph) : String := join (graph.vertices.map fun vertex =>
    s!"{safeGraphID vertex.id}: {quote (diagramLabel vertex)}\n") "" ++
  join (graph.edges.map fun edge =>
    s!"{safeGraphID edge.fromID} -> {safeGraphID edge.toID}: {edge.relation.text}\n") ""

def renderDiagramExports (graph : Graph) : DiagramExports :=
  if graph.vertices = [] then {}
  else
    { mermaid := renderMermaid graph, graphvizDOT := renderGraphvizDOT graph, d2 := renderD2 graph }

def Declares (groups : List Group) : Relation → String → String → Prop
  | .requires, first, second => ∃ group ∈ groups, group.name = first ∧ second ∈ group.requires
  | .before, first, second => ∃ group ∈ groups, group.name = first ∧ second ∈ group.before
  | .after, first, second => ∃ group ∈ groups, group.name = second ∧ first ∈ group.after
  | _, _, _ => False

variable {groups : List Group} {relation : Relation} {first second : String}

theorem joins_declaredGroupEdges : Joins (declaredGroupEdges groups) relation first second ↔
      Declares groups relation first second := by
  simp only [Joins, declaredGroupEdges, mem_flatMap, mem_append, mem_map]
  constructor
  · rintro ⟨edge, ⟨group, hgroup, (⟨dependency, hdepends, rfl⟩ | ⟨dependency, hdepends, rfl⟩) |
      ⟨dependency, hdepends, rfl⟩⟩, rfl, rfl, rfl⟩
    all_goals exact ⟨group, hgroup, rfl, hdepends⟩
  · cases relation with
    | requires =>
      rintro ⟨group, hgroup, rfl, hdepends⟩
      exact ⟨requiresEdge group.name second,
        ⟨group, hgroup, .inl (.inl ⟨second, hdepends, rfl⟩)⟩, rfl, rfl, rfl⟩
    | before =>
      rintro ⟨group, hgroup, rfl, hdepends⟩
      exact ⟨beforeEdge group.name second,
        ⟨group, hgroup, .inl (.inr ⟨second, hdepends, rfl⟩)⟩, rfl, rfl, rfl⟩
    | after =>
      rintro ⟨group, hgroup, rfl, hdepends⟩
      exact ⟨afterEdge group.name first, ⟨group, hgroup, .inr ⟨first, hdepends, rfl⟩⟩,
        rfl, rfl, rfl⟩
    | linearOrder | shutdownTier | nodeClearance | communicationPath => exact False.elim

theorem derivedIDs_groupEdges (groups : List Group) (policy : TierPolicy) :
    DerivedIDs (declaredGroupEdges groups ++ collectShutdownTierGraphEdges groups policy) := by
  intro edge hedge
  rcases mem_append.mp hedge with hd | htier
  · simp only [declaredGroupEdges, mem_flatMap, mem_append, mem_map] at hd
    obtain ⟨group, -, (⟨dependency, -, rfl⟩ | ⟨dependency, -, rfl⟩) | ⟨dependency, -, rfl⟩⟩ := hd
    all_goals rfl
  · simp only [collectShutdownTierGraphEdges, mem_flatMap, mem_map] at htier
    obtain ⟨_, -, _, -, _, -, rfl⟩ := htier
    rfl

variable {policy : TierPolicy} {input : StructuralInputs} {index : CommunicationIndex}

theorem mem_names_of_joins_tier
    (h : Joins (collectShutdownTierGraphEdges groups policy) relation first second) :
    first ∈ groups.map (·.name) ∧ second ∈ groups.map (·.name) := by
  obtain ⟨-, higherTier, lowerTier, hf, hs, -⟩ := joins_collectShutdownTierGraphEdges.mp h
  exact ⟨mem_of_lookup_effectiveShutdownTiers hf, mem_of_lookup_effectiveShutdownTiers hs⟩

def KnownDependencies (groups : List Group) : Prop :=
  ∀ group ∈ groups, ∀ dependency ∈ group.requires ++ group.before ++ group.after,
    dependency ∈ groups.map (·.name)

section

variable (hknown : KnownDependencies groups)

include hknown

theorem KnownDependencies.mem_names (h : Declares groups relation first second) :
    first ∈ groups.map (·.name) ∧ second ∈ groups.map (·.name) := by
  cases relation with
  | after =>
    obtain ⟨group, hg, rfl, hd⟩ := h
    exact ⟨hknown group hg first (by simp [hd]), mem_map_of_mem hg⟩
  | linearOrder | shutdownTier | nodeClearance | communicationPath => exact h.elim
  | _ =>
    obtain ⟨group, hg, rfl, hd⟩ := h
    exact ⟨mem_map_of_mem hg, hknown group hg second (by simp [hd])⟩

theorem mem_names_of_joins_groupEdges
    (h : Joins (declaredGroupEdges groups ++ collectShutdownTierGraphEdges groups policy)
      relation first second) : first ∈ groups.map (·.name) ∧ second ∈ groups.map (·.name) := by
  rcases joins_append.mp h with hd | htier
  · exact hknown.mem_names (joins_declaredGroupEdges.mp hd)
  · exact mem_names_of_joins_tier htier

/-- With distinct identifiers, de-duplication loses no ordering. -/
theorem joins_collectGroupGraphEdges (hdistinct : DistinctIDs (groups.map (·.name))) :
    Joins (collectGroupGraphEdges groups policy) relation first second ↔
      Declares groups relation first second ∨
        Joins (collectShutdownTierGraphEdges groups policy) relation first second := by
  rw [collectGroupGraphEdges, joins_dedupeGraphEdges (derivedIDs_groupEdges groups policy)
    hdistinct (fun _ _ _ => mem_names_of_joins_groupEdges hknown), joins_append,
    joins_declaredGroupEdges]

end

theorem joins_buildGroupGraphForInputs :
    Joins (buildGroupGraphForInputs input index).edges relation first second ↔
      Joins (collectGroupGraphEdges input.groups input.tierPolicy) relation first second ∨
      Joins (collectNodeClearanceGraphEdges input.groups input.groupNodes) relation first second ∨
      Joins (collectCommunicationGraphEdges input.groups input.groupNodes index
        input.communicationServices) relation first second := by
  rw [buildGroupGraphForInputs, sortGraph, joins_sortEdges, joins_append, joins_append, or_assoc]

theorem mem_names_of_joins_graph (hknown : KnownDependencies input.groups)
    (h : Joins (buildGroupGraphForInputs input index).edges relation first second) :
    first ∈ input.groups.map (·.name) ∧ second ∈ input.groups.map (·.name) := by
  rcases joins_buildGroupGraphForInputs.mp h with hg | hc | hcommand
  · exact mem_names_of_joins_groupEdges hknown (joins_of_joins_dedupeGraphEdges hg)
  · obtain ⟨-, hf, hs, -⟩ := of_joins_collectNodeClearanceGraphEdges hc
    exact ⟨hf, hs⟩
  · obtain ⟨-, hf, hs, -⟩ := of_joins_collectCommunicationGraphEdges hcommand
    exact ⟨hf, hs⟩

theorem mem_vertices_buildGroupGraphForInputs {vertex : GraphVertex} :
    vertex ∈ (buildGroupGraphForInputs input index).vertices ↔ ∃ group ∈ input.groups,
      groupVertex (effectiveShutdownTiers input.groups input.tierPolicy) group = vertex := by
  simp [buildGroupGraphForInputs, sortGraph]

end NutOperator.Planner
