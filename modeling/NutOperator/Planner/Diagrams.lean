import NutOperator.Planner.Artifacts

/-! When the rendered diagrams draw the graph: each is the text of statements about nodes
and connections, and statements with one identifier draw one node. -/
namespace NutOperator.Planner

open Data List

structure Diagram where
  nodes : List (String × String)
  connections : List (String × String × String)

def graphDiagram (nodeID : String → String) (graph : Graph) : Diagram :=
  { nodes := graph.vertices.map fun vertex => (nodeID vertex.id, diagramLabel vertex)
    connections := graph.edges.map fun edge =>
      (nodeID edge.fromID, edge.relation.text, nodeID edge.toID) }

def mermaidDiagram (graph : Graph) : Diagram :=
  graphDiagram (diagramNodeID (diagramNodeIDs graph.vertices)) graph

def Diagram.mermaid (diagram : Diagram) : String :=
  "flowchart TD\n" ++ join (diagram.nodes.map fun (node, label) =>
      s!"  {node}[{quote label}]\n") "" ++
    join (diagram.connections.map fun (first, label, second) =>
      s!"  {first} -->|{label}| {second}\n") ""

def Diagram.graphvizDOT (diagram : Diagram) : String :=
  "digraph shutdown_plan \x7b\n" ++ "  rankdir=LR;\n" ++
    join (diagram.nodes.map fun (node, label) =>
      s!"  {quote node} [label={quote label}];\n") "" ++
    join (diagram.connections.map fun (first, label, second) =>
      s!"  {quote first} -> {quote second} [label={quote label}];\n") "" ++ "\x7d\n"

def Diagram.d2 (diagram : Diagram) : String :=
  join (diagram.nodes.map fun (node, label) => s!"{node}: {quote label}\n") "" ++
    join (diagram.connections.map fun (first, label, second) =>
      s!"{first} -> {second}: {label}\n") ""

/-- One node for each vertex, and one connection for each edge between their nodes. -/
structure Diagram.Draws (diagram : Diagram) (graph : Graph) : Prop where
  statements : ∃ nodeID, diagram = graphDiagram nodeID graph
  distinct : (diagram.nodes.map (·.1)).Nodup
  ends : ∀ connection ∈ diagram.connections,
    connection.1 ∈ diagram.nodes.map (·.1) ∧ connection.2.2 ∈ diagram.nodes.map (·.1)

def JoinsVertices (graph : Graph) : Prop := ∀ edge ∈ graph.edges,
  edge.fromID ∈ graph.vertices.map (·.id) ∧ edge.toID ∈ graph.vertices.map (·.id)

theorem draws_graphDiagram {nodeID : String → String} {graph : Graph} :
    (graphDiagram nodeID graph).Draws graph ↔
      ((graph.vertices.map (·.id)).map nodeID).Nodup ∧ ∀ edge ∈ graph.edges,
        nodeID edge.fromID ∈ (graph.vertices.map (·.id)).map nodeID ∧
          nodeID edge.toID ∈ (graph.vertices.map (·.id)).map nodeID := by
  have hids : (graphDiagram nodeID graph).nodes.map (·.1) =
      (graph.vertices.map (·.id)).map nodeID := by
    rw [graphDiagram, map_map, map_map]
    rfl
  constructor
  · intro h
    rw [← hids]
    exact ⟨h.distinct, fun edge hedge => h.ends _ (mem_map_of_mem hedge)⟩
  · rintro ⟨hn, hends⟩
    rw [← hids] at hn hends
    exact ⟨⟨nodeID, rfl⟩, hn, forall_mem_map.mpr hends⟩

theorem diagramNodeID_eq {vertices : List GraphVertex} (hnodup : (vertices.map (·.id)).Nodup)
    (hdistinct : DistinctIDs (vertices.map (·.id))) {name : String}
    (hname : name ∈ vertices.map (·.id)) :
    diagramNodeID (diagramNodeIDs vertices) name = safeGraphID name := by
  have hlookup : (diagramNodeIDs vertices).lookup name = some (safeGraphID name) := by
    apply lookup_fillMap_of_forall
    · obtain ⟨vertex, hv, rfl⟩ := mem_map.mp hname
      obtain ⟨before, after, rfl⟩ := append_of_mem hv
      exact ⟨_, mem_withEarlier.mpr ⟨before, vertex, after, rfl, mem_singleton_self _⟩, rfl⟩
    · intro pair hpair hkey
      obtain ⟨before, vertex, after, rfl, hmade⟩ := mem_withEarlier.mp hpair
      obtain rfl := mem_singleton.mp hmade
      obtain rfl : vertex.id = name := hkey
      have hnone : (before.countP fun other =>
          safeGraphID other.id = safeGraphID vertex.id) = 0 := by
        rw [countP_eq_zero]
        intro other ho hsame
        have hid := hdistinct other.id (mem_map_of_mem (mem_append_left _ ho)) vertex.id hname
          (of_decide_eq_true hsame)
        rw [map_append, map_cons] at hnodup
        exact disjoint_of_nodup_append hnodup (mem_map_of_mem ho) (hid ▸ mem_cons_self)
      simp [hnone]
  rw [diagramNodeID, hlookup]
  rfl

/-- The diagrams draw a graph exactly when its edges join its vertices and no two vertices
share a sanitised identifier. -/
theorem diagrams_draw_iff (graph : Graph) (hdistinct : (graph.vertices.map (·.id)).Nodup) :
    (renderMermaid graph = (mermaidDiagram graph).mermaid ∧
      renderGraphvizDOT graph = (graphDiagram id graph).graphvizDOT ∧
      renderD2 graph = (graphDiagram safeGraphID graph).d2) ∧
    ((mermaidDiagram graph).Draws graph ∧ (graphDiagram id graph).Draws graph ∧
        (graphDiagram safeGraphID graph).Draws graph ↔
      JoinsVertices graph ∧ DistinctIDs (graph.vertices.map (·.id))) := by
  refine ⟨⟨?_, ?_, ?_⟩, ?_, ?_⟩
  · rw [Diagram.mermaid, mermaidDiagram, graphDiagram, map_map, map_map]
    rfl
  · unfold renderGraphvizDOT Diagram.graphvizDOT graphDiagram
    simp only [map_map, Function.comp_def, id_eq]
  · rw [Diagram.d2, graphDiagram, map_map, map_map]
    rfl
  · rintro ⟨-, hdot, hd⟩
    rw [draws_graphDiagram, map_id] at hdot
    refine ⟨hdot.2, fun first hfirst second hsecond => ?_⟩
    exact inj_on_of_nodup_map (draws_graphDiagram.mp hd).1 hfirst hsecond
  · rintro ⟨hends, hdist⟩
    have hdraws : ∀ nodeID : String → String, (∀ first ∈ graph.vertices.map (·.id),
        ∀ second ∈ graph.vertices.map (·.id), nodeID first = nodeID second → first = second) →
          (graphDiagram nodeID graph).Draws graph := by
      intro nodeID hinj
      refine draws_graphDiagram.mpr ⟨hdistinct.map_on hinj, fun edge hedge => ?_⟩
      exact (hends edge hedge).imp mem_map_of_mem mem_map_of_mem
    refine ⟨hdraws _ ?_, hdraws _ fun _ _ _ _ => id, hdraws _ hdist⟩
    intro first hfirst second hsecond hsame
    rw [diagramNodeID_eq hdistinct hdist hfirst, diagramNodeID_eq hdistinct hdist hsecond] at hsame
    exact hdist first hfirst second hsecond hsame

def orderedVertices (names : List String) : Graph :=
  { vertices := names.map fun name => { id := name, kind := .shutdownGroup, label := name }
    edges := (names.zip names.tail).map fun (first, second) => beforeEdge first second }

theorem diagrams_draw_two : ((orderedVertices ["drain", "power-off"]).vertices.map (·.id)).Nodup ∧
      (mermaidDiagram (orderedVertices ["drain", "power-off"])).Draws
        (orderedVertices ["drain", "power-off"]) := by
  refine ⟨by decide, ((diagrams_draw_iff _ (by decide)).2.mpr ⟨?_, ?_⟩).1⟩
  · unfold JoinsVertices
    decide
  · unfold DistinctIDs
    decide

/-- D2 writes two vertices under one identifier, and a suffix meets a vertex of that name. -/
theorem diagrams_merge_vertices :
    (let graph := orderedVertices ["a-b", "a_b"]
     (graph.vertices.map (·.id)).Nodup ∧ JoinsVertices graph ∧
       renderD2 graph = "a_b: \"a-b\"\na_b: \"a_b\"\na_b -> a_b: Before\n" ∧
       ¬ (graphDiagram safeGraphID graph).Draws graph) ∧
    (let graph := orderedVertices ["a-b", "a_b", "a_b_1"]
     (graph.vertices.map (·.id)).Nodup ∧ JoinsVertices graph ∧
       graph.vertices.map (fun vertex => diagramNodeID (diagramNodeIDs graph.vertices) vertex.id) =
         ["a_b", "a_b_1", "a_b_1"] ∧
       ¬ (mermaidDiagram graph).Draws graph) := by
  unfold JoinsVertices
  refine ⟨⟨by decide, by decide, by decide, ?_⟩, by decide, by decide, by decide, ?_⟩
  all_goals exact fun h => absurd h.distinct (by decide)

end NutOperator.Planner
