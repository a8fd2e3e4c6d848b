import NutOperator.Data.Sorting
import NutOperator.Planner.Text

/-! Edge identifiers, de-duplication and successor lists of the plan graph. -/
namespace NutOperator.Planner

open Data List

def Relation.text : Relation → String
  | .requires => "Requires"
  | .before => "Before"
  | .after => "After"
  | .linearOrder => "LinearOrder"
  | .shutdownTier => "ShutdownTier"
  | .nodeClearance => "NodeClearance"
  | .communicationPath => "CommunicationPath"

def Relation.lower : Relation → String
  | .requires => "requires"
  | .before => "before"
  | .after => "after"
  | .linearOrder => "linearorder"
  | .shutdownTier => "shutdowntier"
  | .nodeClearance => "nodeclearance"
  | .communicationPath => "communicationpath"

def VertexKind.text : VertexKind → String
  | .shutdownGroup => "ShutdownGroup"
  | .shutdownStep => "ShutdownStep"

def safeGraphRune (r : Char) : Char :=
  if ('a' ≤ r ∧ r ≤ 'z') ∨ ('A' ≤ r ∧ r ≤ 'Z') ∨ ('0' ≤ r ∧ r ≤ '9') then r else '_'

/-- Letters and digits are kept and every other rune becomes an underscore, so
different names can share an identifier. -/
def safeGraphID (value : String) : String :=
  if value.toList = [] then "node" else String.ofList (value.toList.map safeGraphRune)

def graphEdgeID (fromID toID : String) (relation : Relation) : String :=
  safeGraphID fromID ++ "-" ++ relation.lower ++ "-" ++ safeGraphID toID

example : graphEdgeID "db-1" "c" .requires = graphEdgeID "db_1" "c" .requires := by decide

theorem dash_not_mem_safeGraphID (value : String) : '-' ∉ (safeGraphID value).toList := by
  unfold safeGraphID
  split
  · decide
  · rw [String.toList_ofList, mem_map]
    rintro ⟨r, -, hr⟩
    unfold safeGraphRune at hr
    split at hr
    · rename_i hsafe
      subst hr
      revert hsafe
      decide
    · revert hr
      decide

theorem Relation.dash_not_mem_lower (relation : Relation) : '-' ∉ relation.lower.toList := by
  cases relation <;> decide

theorem Relation.lower_injective {left right : Relation} (h : left.lower = right.lower) :
    left = right := by
  revert h
  cases left <;> cases right <;> decide

theorem graphEdgeID_toList (fromID toID : String) (relation : Relation) :
    (graphEdgeID fromID toID relation).toList = (safeGraphID fromID).toList ++ '-' ::
        (relation.lower.toList ++ '-' :: (safeGraphID toID).toList) := by
  simp [graphEdgeID]

private theorem split_at_separator {separator : α} {left left' right right' : List α}
    (hleft : separator ∉ left) (hleft' : separator ∉ left')
    (h : left ++ separator :: right = left' ++ separator :: right') : left = left' ∧ right =
    right' := by
  induction left generalizing left' with
  | nil =>
    cases left' with
    | nil => exact ⟨rfl, (List.cons.inj h).2⟩
    | cons head tail => exact absurd (List.cons.inj h).1 (by rintro rfl; simp at hleft')
  | cons head tail ih =>
    cases left' with
    | nil => exact absurd (List.cons.inj h).1 (by rintro rfl; simp at hleft)
    | cons head' tail' =>
      obtain ⟨rfl, hrest⟩ := List.cons.inj h
      obtain ⟨rfl, hr⟩ := ih (fun hmem => hleft (mem_cons_of_mem _ hmem))
        (fun hmem => hleft' (mem_cons_of_mem _ hmem)) hrest
      exact ⟨rfl, hr⟩

variable {relation : Relation} {first second : String} {edges : List GraphEdge}

/-- No part of an identifier contains the separator, so an identifier
determines its relation and both sanitised endpoints. -/
theorem graphEdgeID_inj {fromID toID fromID' toID' : String} {relation' : Relation} :
    graphEdgeID fromID toID relation = graphEdgeID fromID' toID' relation' ↔
      safeGraphID fromID = safeGraphID fromID' ∧ relation = relation' ∧
        safeGraphID toID = safeGraphID toID' := by
  constructor
  · intro h
    have hl := congrArg String.toList h
    rw [graphEdgeID_toList, graphEdgeID_toList] at hl
    obtain ⟨hfrom, hrest⟩ := split_at_separator (dash_not_mem_safeGraphID _)
      (dash_not_mem_safeGraphID _) hl
    obtain ⟨hr, hto⟩ := split_at_separator (Relation.dash_not_mem_lower _)
      (Relation.dash_not_mem_lower _) hrest
    exact ⟨String.toList_injective hfrom, Relation.lower_injective (String.toList_injective hr),
      String.toList_injective hto⟩
  · rintro ⟨hfrom, rfl, hto⟩
    rw [graphEdgeID, graphEdgeID, hfrom, hto]

/-- No two of the names share a sanitised identifier. -/
def DistinctIDs (names : List String) : Prop :=
  ∀ first ∈ names, ∀ second ∈ names, safeGraphID first = safeGraphID second → first = second

def Joins (edges : List GraphEdge) (relation : Relation) (first second : String) : Prop :=
  ∃ edge ∈ edges, edge.relation = relation ∧ edge.fromID = first ∧ edge.toID = second

theorem joins_append {left right : List GraphEdge} : Joins (left ++ right) relation first second ↔
      Joins left relation first second ∨ Joins right relation first second := by
  simp only [Joins, mem_append, or_and_right, exists_or]

def edgeLess (left right : GraphEdge) : Bool :=
  if left.fromID ≠ right.fromID then decide (left.fromID < right.fromID)
  else if left.toID ≠ right.toID then decide (left.toID < right.toID)
  else decide (left.relation.text < right.relation.text)

def sortEdges (edges : List GraphEdge) : List GraphEdge := sortStable edgeLess edges

@[simp] theorem mem_sortEdges {edge : GraphEdge} : edge ∈ sortEdges edges ↔ edge ∈ edges :=
  mem_sortStable

theorem joins_sortEdges :
    Joins (sortEdges edges) relation first second ↔ Joins edges relation first second := by
  simp only [Joins, mem_sortEdges]

def sortGraph (graph : Graph) : Graph :=
  { vertices := sortStable (fun left right => decide (left.id < right.id)) graph.vertices
    edges := sortEdges graph.edges }

/-- Filling a map keyed by identifier keeps the last edge of each identifier. -/
def lastByID : List GraphEdge → List GraphEdge
  | [] => []
  | edge :: rest =>
    if rest.any (fun other => other.id = edge.id) then lastByID rest
    else edge :: lastByID rest

def dedupeGraphEdges (edges : List GraphEdge) : List GraphEdge := sortEdges (lastByID edges)

theorem mem_of_mem_lastByID {edge : GraphEdge} (h : edge ∈ lastByID edges) : edge ∈ edges := by
  induction edges with
  | nil => exact h
  | cons head tail ih =>
    rw [lastByID] at h
    split at h
    · exact mem_cons_of_mem _ (ih h)
    · rcases mem_cons.mp h with rfl | h
      · exact mem_cons_self
      · exact mem_cons_of_mem _ (ih h)

theorem exists_mem_lastByID {edge : GraphEdge} (h : edge ∈ edges) :
    ∃ kept ∈ lastByID edges, kept.id = edge.id := by
  induction edges generalizing edge with
  | nil => cases h
  | cons head tail ih =>
    rw [lastByID]
    by_cases hl : tail.any (fun other => other.id = head.id) = true
    · rw [if_pos hl]
      rcases mem_cons.mp h with rfl | h
      · obtain ⟨other, ho, hid⟩ := any_eq_true.mp hl
        obtain ⟨kept, hkept, hsame⟩ := ih ho
        exact ⟨kept, hkept, hsame.trans (of_decide_eq_true hid)⟩
      · exact ih h
    · rw [if_neg hl]
      rcases mem_cons.mp h with rfl | h
      · exact ⟨edge, mem_cons_self, rfl⟩
      · obtain ⟨kept, hkept, hid⟩ := ih h
        exact ⟨kept, mem_cons_of_mem _ hkept, hid⟩

theorem eq_of_mem_lastByID {left right : GraphEdge} (hleft : left ∈ lastByID edges)
    (hright : right ∈ lastByID edges) (hid : left.id = right.id) : left = right := by
  induction edges with
  | nil => cases hleft
  | cons head tail ih =>
    rw [lastByID] at hleft hright
    split at hleft
    · rename_i hl
      rw [if_pos hl] at hright
      exact ih hleft hright
    · rename_i hl
      rw [if_neg hl] at hright
      have hf : ∀ edge ∈ tail, edge.id ≠ head.id := by
        simpa using hl
      rcases mem_cons.mp hleft with rfl | hleftTail
      · rcases mem_cons.mp hright with rfl | hrightTail
        · rfl
        · exact absurd hid.symm (hf right (mem_of_mem_lastByID hrightTail))
      · rcases mem_cons.mp hright with rfl | hrightTail
        · exact absurd hid (hf left (mem_of_mem_lastByID hleftTail))
        · exact ih hleftTail hrightTail

theorem joins_of_joins_dedupeGraphEdges (h : Joins (dedupeGraphEdges edges) relation first second) :
    Joins edges relation first second := by
  rw [dedupeGraphEdges, joins_sortEdges] at h
  obtain ⟨edge, hedge, hj⟩ := h
  exact ⟨edge, mem_of_mem_lastByID hedge, hj⟩

def DerivedIDs (edges : List GraphEdge) : Prop :=
  ∀ edge ∈ edges, edge.id = graphEdgeID edge.fromID edge.toID edge.relation

/-- An edge survives unless another edge of its relation has different endpoints
with the same sanitised names. -/
theorem joins_dedupeGraphEdges_of_unshared (hids : DerivedIDs edges)
    (hjoins : Joins edges relation first second)
    (hunshared : ∀ first' second', Joins edges relation first' second' →
      safeGraphID first' = safeGraphID first → safeGraphID second' = safeGraphID second →
        first' = first ∧ second' = second) :
    Joins (dedupeGraphEdges edges) relation first second := by
  rw [dedupeGraphEdges, joins_sortEdges]
  obtain ⟨edge, hedge, hr, hfirst, hsecond⟩ := hjoins
  obtain ⟨kept, hkept, hid⟩ := exists_mem_lastByID hedge
  have hmem := mem_of_mem_lastByID hkept
  rw [hids kept hmem, hids edge hedge, graphEdgeID_inj, hr, hfirst, hsecond] at hid
  obtain ⟨hsafe, hsame, hsafe'⟩ := hid
  obtain ⟨hfirst', hsecond'⟩ := hunshared kept.fromID kept.toID ⟨kept, hmem, hsame, rfl, rfl⟩
    hsafe hsafe'
  exact ⟨kept, hkept, hsame, hfirst', hsecond'⟩

theorem endpoints_eq_of_joins_dedupeGraphEdges (hids : DerivedIDs edges) {first' second' : String}
    (hjoins : Joins (dedupeGraphEdges edges) relation first second)
    (hjoins' : Joins (dedupeGraphEdges edges) relation first' second')
    (hsafe : safeGraphID first = safeGraphID first')
    (hsafe' : safeGraphID second = safeGraphID second') : first = first' ∧ second = second' := by
  rw [dedupeGraphEdges, joins_sortEdges] at hjoins hjoins'
  obtain ⟨left, hleft, hrelation, rfl, rfl⟩ := hjoins
  obtain ⟨right, hr, hrelation', rfl, rfl⟩ := hjoins'
  have hid : left.id = right.id := by
    rw [hids left (mem_of_mem_lastByID hleft), hids right (mem_of_mem_lastByID hr)]
    exact graphEdgeID_inj.mpr ⟨hsafe, hrelation.trans hrelation'.symm, hsafe'⟩
  rw [eq_of_mem_lastByID hleft hr hid]
  exact ⟨rfl, rfl⟩

theorem joins_dedupeGraphEdges (hids : DerivedIDs edges) {names : List String}
    (hdistinct : DistinctIDs names)
    (hnames : ∀ relation first second, Joins edges relation first second →
      first ∈ names ∧ second ∈ names) :
    Joins (dedupeGraphEdges edges) relation first second ↔ Joins edges relation first second := by
  refine ⟨joins_of_joins_dedupeGraphEdges, fun hjoins => ?_⟩
  apply joins_dedupeGraphEdges_of_unshared hids hjoins
  intro first' second' hjoins' hsafe hsafe'
  obtain ⟨hfirst, hsecond⟩ := hnames relation first second hjoins
  obtain ⟨hfirst', hsecond'⟩ := hnames relation first' second' hjoins'
  exact ⟨hdistinct _ hfirst' _ hfirst hsafe, hdistinct _ hsecond' _ hsecond hsafe'⟩

def graphSuccessors (graph : Graph) (name : String) : List String :=
  sortStrings ((graph.edges.filter fun edge => edge.fromID = name).map (·.toID))

theorem mem_graphSuccessors {graph : Graph} : second ∈ graphSuccessors graph first ↔
      ∃ relation, Joins graph.edges relation first second := by
  simp only [graphSuccessors, mem_sortStrings, mem_map, mem_filter, decide_eq_true_eq, Joins]
  constructor
  · rintro ⟨edge, ⟨hedge, hf⟩, hs⟩
    exact ⟨edge.relation, edge, hedge, rfl, hf, hs⟩
  · rintro ⟨relation, edge, hedge, -, hf, hs⟩
    exact ⟨edge, ⟨hedge, hf⟩, hs⟩

end NutOperator.Planner
