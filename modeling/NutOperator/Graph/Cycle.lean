import Mathlib.Data.Finset.Card
import Mathlib.Logic.Relation

/-! Depth-first search for a cycle. A vertex under exploration that is reached
again closes a cycle; a finished vertex is not explored twice. -/
namespace NutOperator.Graph

open List

variable {V : Type*} [DecidableEq V]

structure Exploration (V : Type*) where
  (visiting visited : List V := [])

def visitAll (visit : Exploration V → V → Bool × Exploration V) :
    Exploration V → List V → Bool × Exploration V
  | state, [] => (false, state)
  | state, vertex :: rest =>
    match visit state vertex with
    | (true, state) => (true, state)
    | (false, state) => visitAll visit state rest

/-- Nested visits hold distinct vertices, so `fuel` above the number of vertices
is never used up. -/
def explore (successors : V → List V) : Nat → Exploration V → V → Bool × Exploration V
  | 0, state, _ => (false, state)
  | fuel + 1, state, vertex =>
    if vertex ∈ state.visiting then (true, state)
    else if vertex ∈ state.visited then (false, state)
    else
      match visitAll (explore successors fuel)
          { state with visiting := vertex :: state.visiting } (successors vertex) with
      | (true, state) => (true, state)
      | (false, state) =>
        (false, { visiting := state.visiting.erase vertex, visited := vertex :: state.visited })

def hasCycle (successors : V → List V) (fuel : Nat) (vertices : List V) : Bool :=
  (visitAll (explore successors fuel) {} vertices).1

def Next (successors : V → List V) (vertex next : V) : Prop := next ∈ successors vertex

def OnCycle (successors : V → List V) (vertex : V) : Prop :=
  Relation.TransGen (Next successors) vertex vertex

/-- No edge leads out of the visited vertices, and none of them is on a cycle. -/
structure Explored (successors : V → List V) (visited : List V) : Prop where
  closed : ∀ vertex ∈ visited, ∀ next ∈ successors vertex, next ∈ visited
  acyclic : ∀ vertex ∈ visited, ¬OnCycle successors vertex

section

variable {successors : V → List V} {visited : List V} {vertex : V}

omit [DecidableEq V] in
theorem Explored.reached {other : V} (h : Explored successors visited) (hvertex : vertex ∈ visited)
    (hreaches : Relation.TransGen (Next successors) vertex other) : other ∈ visited := by
  induction hreaches with
  | single hnext => exact h.closed _ hvertex _ hnext
  | tail _ hnext ih => exact h.closed _ ih _ hnext

omit [DecidableEq V] in
theorem Explored.cons (h : Explored successors visited) (hvertex : vertex ∉ visited)
    (hnext : ∀ next ∈ successors vertex, next ∈ visited) :
    Explored successors (vertex :: visited) := by
  constructor
  · intro other ho next hedge
    cases mem_cons.mp ho with
    | inl heq => exact mem_cons_of_mem _ (hnext next (heq ▸ hedge))
    | inr hmem => exact mem_cons_of_mem _ (h.closed other hmem next hedge)
  · intro other ho hcycle
    cases mem_cons.mp ho with
    | inr hmem => exact h.acyclic other hmem hcycle
    | inl heq =>
      subst heq
      obtain ⟨first, hf, hrest⟩ := Relation.TransGen.head'_iff.mp hcycle
      rcases Relation.reflTransGen_iff_eq_or_transGen.mp hrest with hself | hr
      · exact hvertex (hself ▸ hnext first hf)
      · exact hvertex (h.reached (hnext first hf) hr)

/-- What a visit of some vertices leaves: a cycle that was found, or more that is
explored. -/
structure Settled (successors : V → List V) (before : Exploration V) (vertices : List V)
    (result : Bool × Exploration V) : Prop where
  found : result.1 = true → ∃ vertex, OnCycle successors vertex
  visiting : result.1 = false → result.2.visiting = before.visiting
  kept : result.1 = false → ∀ vertex ∈ before.visited, vertex ∈ result.2.visited
  reached : result.1 = false → ∀ vertex ∈ vertices, vertex ∈ result.2.visited
  explored : result.1 = false → Explored successors result.2.visited
  apart : result.1 = false → ∀ vertex ∈ result.2.visited, vertex ∉ result.2.visiting

structure Exploration.Sound (successors : V → List V) (state : Exploration V) : Prop where
  explored : Explored successors state.visited
  apart : ∀ vertex ∈ state.visited, vertex ∉ state.visiting

omit [DecidableEq V] in
theorem visitAll_settled {visit : Exploration V → V → Bool × Exploration V}
    {st : Exploration V} {vertices : List V} (hstate : st.Sound successors)
    (hvisit : ∀ start : Exploration V, start.Sound successors →
      start.visiting = st.visiting → ∀ vertex ∈ vertices,
        Settled successors start [vertex] (visit start vertex)) :
    Settled successors st vertices (visitAll visit st vertices) := by
  induction vertices generalizing st with
  | nil =>
    exact ⟨nofun, fun _ => rfl, fun _ _ hmem => hmem, fun _ _ hmem => (by cases hmem),
      fun _ => hstate.explored, fun _ => hstate.apart⟩
  | cons vertex rest ih =>
    have hfirst := hvisit st hstate rfl vertex mem_cons_self
    rw [visitAll]
    split
    · rename_i later heq
      rw [heq] at hfirst
      exact ⟨fun _ => hfirst.found rfl, nofun, nofun, nofun, nofun, nofun⟩
    · rename_i later heq
      rw [heq] at hfirst
      have hl : later.Sound successors := ⟨hfirst.explored rfl, hfirst.apart rfl⟩
      have hrest := ih hl fun start hs hv other ho =>
        hvisit start hs (hv.trans (hfirst.visiting rfl)) other (mem_cons_of_mem _ ho)
      refine ⟨hrest.found, fun hnone => (hrest.visiting hnone).trans (hfirst.visiting rfl),
        fun hnone other ho => hrest.kept hnone other (hfirst.kept rfl other ho), ?_,
        hrest.explored, hrest.apart⟩
      intro hnone other ho
      cases mem_cons.mp ho with
      | inl heq =>
        exact hrest.kept hnone other (hfirst.reached rfl other (heq ▸ mem_cons_self))
      | inr hmem => exact hrest.reached hnone other hmem

theorem card_unopened_lt {all : Finset V} {before after : List V} (hvertex : vertex ∈ all)
    (hfresh : vertex ∉ before) (hmore : ∀ other, other ∈ before ∨ other = vertex → other ∈ after) :
    (all \ after.toFinset).card < (all \ before.toFinset).card := by
  apply Finset.card_lt_card
  rw [Finset.ssubset_iff_of_subset]
  · exact ⟨vertex, by simp [hvertex, hfresh], by simp [hmore vertex (.inr rfl)]⟩
  · intro other ho
    simp only [Finset.mem_sdiff, mem_toFinset] at ho ⊢
    exact ⟨ho.1, fun hb => ho.2 (hmore other (.inl hb))⟩

/-- Every nested visit opens a vertex, so that more fuel than there are unopened
vertices is enough. -/
theorem explore_settled {all : Finset V} (hall : ∀ vertex, ∀ next ∈ successors vertex, next ∈ all)
    {fuel : Nat} {state : Exploration V} (hstate : state.Sound successors)
    (hvertex : vertex ∈ all) (hfuel : (all \ state.visiting.toFinset).card < fuel)
    (hopen : ∀ opened ∈ state.visiting, Relation.TransGen (Next successors) opened vertex) :
    Settled successors state [vertex] (explore successors fuel state vertex) := by
  induction fuel generalizing state vertex with
  | zero => exact absurd hfuel (Nat.not_lt_zero _)
  | succ fuel ih =>
    rw [explore]
    split
    · rename_i hvisited
      exact ⟨fun _ => ⟨vertex, hopen vertex hvisited⟩, nofun, nofun, nofun, nofun, nofun⟩
    · rename_i hfresh
      split
      · rename_i hv
        exact ⟨nofun, fun _ => rfl, fun _ _ hmem => hmem,
          fun _ other hother => mem_singleton.mp hother ▸ hv,
          fun _ => hstate.explored, fun _ => hstate.apart⟩
      · rename_i hunvisited
        have hless : (all \ (vertex :: state.visiting).toFinset).card < fuel := by
          have hfewer : (all \ (vertex :: state.visiting).toFinset).card <
              (all \ state.visiting.toFinset).card :=
            card_unopened_lt hvertex hfresh fun other hother => by simpa [or_comm] using hother
          omega
        have ho : ({ state with visiting := vertex :: state.visiting } :
            Exploration V).Sound successors := by
          refine ⟨hstate.explored, fun other hother hmem => ?_⟩
          cases mem_cons.mp hmem with
          | inl heq => exact hunvisited (heq ▸ hother)
          | inr hmem => exact hstate.apart other hother hmem
        have hnext : Settled successors { state with visiting := vertex :: state.visiting }
            (successors vertex) (visitAll (explore successors fuel)
              { state with visiting := vertex :: state.visiting } (successors vertex)) := by
          apply visitAll_settled ho
          intro start hs hvisited next hedge
          apply ih hs (hall vertex next hedge)
          · rw [hvisited]
            exact hless
          · intro opened hmem
            rw [hvisited] at hmem
            cases mem_cons.mp hmem with
            | inl heq => exact heq ▸ .single hedge
            | inr hmem => exact (hopen opened hmem).tail hedge
        split
        · rename_i later heq
          rw [heq] at hnext
          exact ⟨fun _ => hnext.found rfl, nofun, nofun, nofun, nofun, nofun⟩
        · rename_i later heq
          rw [heq] at hnext
          have hvisited : later.visiting = vertex :: state.visiting := hnext.visiting rfl
          have hnotYet : vertex ∉ later.visited := fun hmem =>
            hnext.apart rfl vertex hmem (hvisited ▸ mem_cons_self)
          refine ⟨nofun, fun _ => ?_, fun _ other hmem => mem_cons_of_mem _
            (hnext.kept rfl other hmem), fun _ other hmem => mem_singleton.mp hmem ▸
            mem_cons_self, fun _ => (hnext.explored rfl).cons hnotYet (hnext.reached rfl),
            fun _ other hmem hother => ?_⟩
          · dsimp only
            rw [hvisited, erase_cons_head]
          · dsimp only at hmem hother
            rw [hvisited, erase_cons_head] at hother
            cases mem_cons.mp hmem with
            | inl heq => exact hfresh (heq ▸ hother)
            | inr hmem =>
              exact hnext.apart rfl other hmem (hvisited ▸ mem_cons_of_mem _ hother)

theorem hasCycle_iff {all : Finset V} {vertices : List V} {fuel : Nat}
    (hall : ∀ vertex, ∀ next ∈ successors vertex, next ∈ all)
    (hfuel : all.card + 1 < fuel)
    (hstarting : ∀ vertex, successors vertex ≠ [] → vertex ∈ vertices) :
    hasCycle successors fuel vertices = true ↔ ∃ vertex, OnCycle successors vertex := by
  have he : ({} : Exploration V).Sound successors := ⟨⟨nofun, nofun⟩, nofun⟩
  have hsettled : Settled successors {} vertices
    (visitAll (explore successors fuel) {} vertices) := by
    apply visitAll_settled he
    intro start hs hv vertex _
    have hwider : ∀ other, ∀ next ∈ successors other, next ∈ insert vertex all :=
      fun other next hnext => Finset.mem_insert_of_mem (hall other next hnext)
    apply explore_settled hwider hs (Finset.mem_insert_self _ _)
    · rw [hv]
      exact lt_of_le_of_lt (by simpa using Finset.card_insert_le vertex all) hfuel
    · rw [hv]
      exact nofun
  constructor
  · exact hsettled.found
  · rintro ⟨vertex, hcycle⟩
    by_contra hnone
    obtain ⟨next, hnext, -⟩ := Relation.TransGen.head'_iff.mp hcycle
    have hvertex := hstarting vertex (ne_nil_of_mem hnext)
    have hfalse := Bool.not_eq_true _ |>.mp hnone
    exact (hsettled.explored hfalse).acyclic vertex (hsettled.reached hfalse vertex hvertex) hcycle

end

end NutOperator.Graph
