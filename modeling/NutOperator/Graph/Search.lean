import Mathlib.Data.List.Dedup
import Mathlib.Data.List.Induction
import Mathlib.Data.List.Perm.Subperm
import Mathlib.Logic.Relation

/-! Breadth-first search over labelled edges. Each vertex is discovered once,
together with the edges of the path that found it, so cycles are bounded. -/
namespace NutOperator.Graph

open List

variable {V E : Type*} [DecidableEq V]

structure Search (V E : Type*) where
  paths : List (V × List E)
  queue : List V

def Search.seen (state : Search V E) : List V := state.paths.map Prod.fst

def Search.pathTo (state : Search V E) (vertex : V) : List E := (state.paths.lookup vertex).getD []

def Search.start (seeds : List V) : Search V E := ⟨seeds.dedup.map (·, []), seeds.dedup⟩

section

variable (out : V → List E) (target : E → V)

def discover (origin : V) (state : Search V E) (edge : E) : Search V E :=
  if target edge ∈ state.seen then state
  else
    ⟨state.paths ++ [(target edge, state.pathTo origin ++ [edge])], state.queue ++ [target edge]⟩

def expand (state : Search V E) (vertex : V) : Search V E :=
  (out vertex).foldl (discover target vertex) state

/-- The queue loop; every round takes one vertex off the queue. -/
def search : Nat → Search V E → Search V E
  | 0, state => state
  | fuel + 1, state =>
    match state.queue with
    | [] => state
    | vertex :: rest => search fuel (expand out target { state with queue := rest } vertex)

def Edge (first second : V) : Prop := ∃ edge ∈ out first, target edge = second

end

variable {out : V → List E} {target : E → V}

@[simp] theorem seen_start (seeds : List V) :
    (Search.start seeds : Search V E).seen = seeds.dedup := by
  simp [Search.start, Search.seen, Function.comp_def]

theorem Search.pathTo_mem {state : Search V E} {vertex : V} (h : vertex ∈ state.seen) :
    (vertex, state.pathTo vertex) ∈ state.paths := by
  obtain ⟨entry, hmem, rfl⟩ := mem_map.mp h
  have hsome : (state.paths.lookup entry.1).isSome :=
    lookup_isSome_iff.mpr ⟨entry, hmem, beq_self_eq_true _⟩
  obtain ⟨path, hl⟩ := Option.isSome_iff_exists.mp hsome
  obtain ⟨before, after, hpaths, -⟩ := lookup_eq_some_iff.mp hl
  rw [Search.pathTo, hl, hpaths]
  exact mem_append_right _ mem_cons_self

theorem Search.pathTo_eq {state : Search V E} (hnodup : state.seen.Nodup) {vertex : V}
    {path : List E}
    (h : (vertex, path) ∈ state.paths) : state.pathTo vertex = path :=
  congrArg Prod.snd (inj_on_of_nodup_map hnodup (Search.pathTo_mem (mem_map_of_mem h)) h rfl)

theorem exists_fresh (target : E → V) {origin : V} {state : Search V E}
    (horigin : origin ∈ state.seen) (hnodup : state.seen.Nodup) (edges : List E) :
    ∃ fresh ⊆ edges, edges.foldl (discover target origin) state =
        ⟨state.paths ++ fresh.map (fun edge => (target edge, state.pathTo origin ++ [edge])),
          state.queue ++ fresh.map target⟩ ∧
      (state.seen ++ fresh.map target).Nodup ∧
      ∀ edge ∈ edges, target edge ∈ state.seen ++ fresh.map target := by
  induction edges using reverseRecOn with
  | nil => exact ⟨[], by simpa using hnodup⟩
  | append_singleton edges edge ih =>
    obtain ⟨fresh, hsub, hstate, hfresh, hall⟩ := ih
    have hseen : (edges.foldl (discover target origin) state).seen =
        state.seen ++ fresh.map target := by
      simp [hstate, Search.seen, Function.comp_def]
    have hpath : (edges.foldl (discover target origin) state).pathTo origin =
        state.pathTo origin := by
      apply Search.pathTo_eq (hseen ▸ hfresh)
      rw [hstate]
      exact mem_append_left _ (Search.pathTo_mem horigin)
    rw [foldl_append, foldl_cons, foldl_nil, discover, hseen, hpath, hstate]
    split
    · rename_i hmem
      exact ⟨fresh, by grind, rfl, hfresh, by grind⟩
    · rename_i hmem
      refine ⟨fresh ++ [edge], by grind, by simp, ?_, by grind⟩
      simpa [← append_assoc] using hfresh.concat hmem

/-- Discovered vertices are distinct and come from the seeds; those no longer
queued have all their targets discovered. -/
structure Search.Invariant (out : V → List E) (target : E → V) (seeds : List V)
    (state : Search V E) : Prop where
  nodup : state.seen.Nodup
  covers : ∀ vertex ∈ seeds, vertex ∈ state.seen
  reached : ∀ vertex ∈ state.seen,
    ∃ seed ∈ seeds, Relation.ReflTransGen (Edge out target) seed vertex
  queued : ∀ vertex ∈ state.queue, vertex ∈ state.seen
  expanded : ∀ vertex ∈ state.seen, vertex ∉ state.queue →
    ∀ edge ∈ out vertex, target edge ∈ state.seen

theorem Search.start_invariant (out : V → List E) (target : E → V) (seeds : List V) :
    (Search.start seeds : Search V E).Invariant out target seeds where
  nodup := by rw [seen_start]; exact nodup_dedup _
  covers := by simp
  reached := by
    intro vertex hv
    rw [seen_start, mem_dedup] at hv
    exact ⟨vertex, hv, .refl⟩
  queued := by simp [Search.start, Search.seen]
  expanded := by
    intro vertex hv hnot
    rw [seen_start] at hv
    exact absurd hv hnot

variable {seeds targets : List V}

variable {state : Search V E} {fuel : Nat}

section

variable {vertex : V} {rest : List V} (hinv : state.Invariant out target seeds)
  (hq : state.queue = vertex :: rest)

include hinv hq

theorem Search.Invariant.exists_expand :
    ∃ fresh ⊆ out vertex, Graph.expand out target { state with queue := rest } vertex =
        ⟨state.paths ++ fresh.map (fun edge => (target edge, state.pathTo vertex ++ [edge])),
          rest ++ fresh.map target⟩ ∧
      (state.seen ++ fresh.map target).Nodup ∧
      ∀ edge ∈ out vertex, target edge ∈ state.seen ++ fresh.map target :=
  @exists_fresh V E _ target vertex { state with queue := rest } (hinv.queued vertex (by simp [hq]))
    hinv.nodup (out vertex)

theorem Search.Invariant.expand :
    (Graph.expand out target { state with queue := rest } vertex).Invariant out target seeds := by
  obtain ⟨fresh, hsub, hstate, hn, hall⟩ := hinv.exists_expand hq
  have hseen :
    (⟨state.paths ++ fresh.map (fun edge => (target edge, state.pathTo vertex ++ [edge])),
      rest ++ fresh.map target⟩ : Search V E).seen = state.seen ++ fresh.map target := by
    simp [Search.seen, Function.comp_def]
  have hvertex : vertex ∈ state.seen := hinv.queued vertex (by simp [hq])
  rw [hstate]
  refine ⟨hseen ▸ hn, ?_, ?_, ?_, ?_⟩
  · intro seed hseed
    rw [hseen]
    exact mem_append_left _ (hinv.covers seed hseed)
  · intro other hother
    rw [hseen] at hother
    obtain hold | hf := mem_append.mp hother
    · exact hinv.reached other hold
    · obtain ⟨edge, hedge, rfl⟩ := mem_map.mp hf
      obtain ⟨seed, hseed, hpath⟩ := hinv.reached vertex hvertex
      exact ⟨seed, hseed, hpath.tail ⟨edge, hsub hedge, rfl⟩⟩
  · intro other hother
    rw [hseen]
    obtain hold | hf := mem_append.mp hother
    · exact mem_append_left _ (hinv.queued other (by simp [hq, hold]))
    · exact mem_append_right _ hf
  · intro other hother hnot edge hedge
    rw [hseen] at hother ⊢
    rw [mem_append, not_or] at hnot
    have hold : other ∈ state.seen := (mem_append.mp hother).resolve_right hnot.2
    by_cases hc : other = vertex
    · subst hc
      exact hall edge hedge
    · apply mem_append_left
      apply hinv.expanded other hold _ edge hedge
      simp [hq, hc, hnot.1]

end

theorem Search.Invariant.search (hinv : state.Invariant out target seeds) (fuel : Nat) :
    (Graph.search out target fuel state).Invariant out target seeds := by
  induction fuel generalizing state with
  | zero => exact hinv
  | succ fuel ih =>
    rw [Graph.search]
    split
    · exact hinv
    · rename_i vertex rest hq
      exact ih (hinv.expand hq)

omit [DecidableEq V] in
theorem Search.Invariant.length_seen_le (hinv : state.Invariant out target seeds)
    (htargets : ∀ vertex, ∀ edge ∈ out vertex, target edge ∈ targets) :
    state.seen.length ≤ seeds.length + targets.length := by
  rw [← length_append]
  apply (subperm_of_subset hinv.nodup _).length_le
  intro vertex hv
  obtain ⟨seed, hseed, hpath⟩ := hinv.reached vertex hv
  cases hpath with
  | refl => exact mem_append_left _ hseed
  | tail _ hedge =>
    obtain ⟨edge, hmem, rfl⟩ := hedge
    exact mem_append_right _ (htargets _ edge hmem)

/-- Enough fuel empties the queue: every round removes one queued vertex, and a
vertex is queued only when it is discovered. -/
theorem queue_search_eq_nil (htargets : ∀ vertex, ∀ edge ∈ out vertex, target edge ∈ targets)
    (hinv : state.Invariant out target seeds)
    (hfuel : seeds.length + targets.length + state.queue.length ≤ fuel + state.seen.length) :
    (search out target fuel state).queue = [] := by
  induction fuel generalizing state with
  | zero =>
    have hlen := hinv.length_seen_le htargets
    exact eq_nil_of_length_eq_zero (by rw [search]; omega)
  | succ fuel ih =>
    rw [search]
    split
    · assumption
    · rename_i vertex rest hq
      apply ih (hinv.expand hq)
      obtain ⟨fresh, -, hstate, -⟩ := hinv.exists_expand hq
      rw [hq, length_cons] at hfuel
      simp only [hstate, Search.seen, length_append, length_map] at hfuel ⊢
      omega

theorem queue_search_start_eq_nil (htargets : ∀ vertex, ∀ edge ∈ out vertex, target edge ∈ targets)
    (hfuel : seeds.length + targets.length ≤ fuel) :
    (search out target fuel (Search.start seeds)).queue = [] := by
  apply queue_search_eq_nil htargets (Search.start_invariant out target seeds)
  rw [seen_start, Search.start]
  exact Nat.add_le_add_right hfuel _

/-- With enough fuel the search discovers exactly the vertices reachable from
its seeds. -/
theorem mem_seen_search (htargets : ∀ vertex, ∀ edge ∈ out vertex, target edge ∈ targets)
    (hfuel : seeds.length + targets.length ≤ fuel) {vertex : V} :
    vertex ∈ (search out target fuel (Search.start seeds)).seen ↔
      ∃ seed ∈ seeds, Relation.ReflTransGen (Edge out target) seed vertex := by
  have hinv := (Search.start_invariant out target seeds).search fuel
  constructor
  · exact hinv.reached vertex
  · rintro ⟨seed, hseed, hpath⟩
    have he := queue_search_start_eq_nil htargets hfuel
    induction hpath with
    | refl => exact hinv.covers seed hseed
    | tail _ hedge ih =>
      obtain ⟨edge, hmem, rfl⟩ := hedge
      exact hinv.expanded _ ih (by simp [he]) edge hmem

inductive Walk (out : V → List E) (target : E → V) (origin : V) : List E → V → Prop
  | nil : Walk out target origin [] origin
  | snoc {path : List E} {vertex : V} {edge : E} (walk : Walk out target origin path vertex)
      (hedge : edge ∈ out vertex) : Walk out target origin (path ++ [edge]) (target edge)

/-- Vertices are found in layers: those queued are at most one step apart, and no
vertex is further than a step beyond any that leads to it. -/
structure Search.Layered (out : V → List E) (target : E → V) (seeds : List V)
    (state : Search V E) : Prop where
  walks : ∀ vertex ∈ state.seen, ∃ seed ∈ seeds, Walk out target seed (state.pathTo vertex) vertex
  seeded : ∀ seed ∈ seeds, state.pathTo seed = []
  sorted : state.queue.Pairwise fun first second =>
    (state.pathTo first).length ≤ (state.pathTo second).length
  shallow : ∀ vertex ∈ state.seen, ∀ queued ∈ state.queue,
    (state.pathTo vertex).length ≤ (state.pathTo queued).length + 1
  closed : ∀ vertex ∈ state.seen, vertex ∉ state.queue → ∀ edge ∈ out vertex,
    (state.pathTo (target edge)).length ≤ (state.pathTo vertex).length + 1

theorem Search.start_layered (out : V → List E) (target : E → V) (seeds : List V) :
    (Search.start seeds : Search V E).Layered out target seeds := by
  have hpath : ∀ vertex ∈ seeds, (Search.start seeds : Search V E).pathTo vertex = [] := by
    intro vertex hvertex
    apply Search.pathTo_eq
    · rw [seen_start]
      exact nodup_dedup _
    · simpa [Search.start] using hvertex
  constructor
  · intro vertex hvertex
    rw [seen_start, mem_dedup] at hvertex
    exact ⟨vertex, hvertex, hpath vertex hvertex ▸ .nil⟩
  · exact hpath
  · apply pairwise_of_forall_mem_list
    intro first hf second hs
    simp [hpath first (mem_dedup.mp hf)]
  · simp +contextual [hpath, seen_start]
  · intro vertex hvertex hnot
    rw [seen_start] at hvertex
    exact absurd hvertex hnot

theorem Search.Layered.expand {vertex : V} {rest : List V} (h : state.Layered out target seeds)
    (hinv : state.Invariant out target seeds) (hq : state.queue = vertex :: rest) :
    (Graph.expand out target { state with queue := rest } vertex).Layered out target seeds := by
  have hnodup := (hinv.expand hq).nodup
  obtain ⟨fresh, hsub, hstate, -, hall⟩ := hinv.exists_expand hq
  have hvertex : vertex ∈ state.seen := hinv.queued vertex (by simp [hq])
  generalize Graph.expand out target { state with queue := rest } vertex = next at hnodup hstate ⊢
  have hpaths := congrArg Search.paths hstate
  have hqueue := congrArg Search.queue hstate
  have hseen : next.seen = state.seen ++ fresh.map target := by
    simp [Search.seen, hpaths, Function.comp_def]
  have hold : ∀ other ∈ state.seen, next.pathTo other = state.pathTo other := fun other hother =>
    Search.pathTo_eq hnodup (hpaths ▸ mem_append_left _ (Search.pathTo_mem hother))
  have hnew : ∀ edge ∈ fresh, next.pathTo (target edge) = state.pathTo vertex ++ [edge] :=
    fun edge hedge => Search.pathTo_eq hnodup
      (hpaths ▸ mem_append_right _ (mem_map_of_mem hedge))
  have hbound : ∀ other ∈ next.seen,
      (next.pathTo other).length ≤ (state.pathTo vertex).length + 1 := by
    rw [hseen, forall_mem_append, forall_mem_map]
    refine ⟨fun other hother => ?_, fun edge hedge => ?_⟩
    · rw [hold other hother]
      exact h.shallow other hother vertex (by simp [hq])
    · simp [hnew edge hedge]
  obtain ⟨hfirst, hrest⟩ := pairwise_cons.mp (hq ▸ h.sorted)
  have hmem : ∀ other ∈ rest, other ∈ state.seen := fun other hother =>
    hinv.queued other (by simp [hq, hother])
  constructor
  · rw [hseen, forall_mem_append, forall_mem_map]
    refine ⟨fun other hother => hold other hother ▸ h.walks other hother, fun edge hedge => ?_⟩
    obtain ⟨seed, hseed, hwalk⟩ := h.walks vertex hvertex
    exact ⟨seed, hseed, hnew edge hedge ▸ hwalk.snoc (hsub hedge)⟩
  · intro seed hseed
    rw [hold seed (hinv.covers seed hseed), h.seeded seed hseed]
  · rw [hqueue, pairwise_append, pairwise_map]
    refine ⟨hrest.imp_of_mem ?_, pairwise_of_forall_mem_list ?_, ?_⟩
    · intro first second hf hs hle
      rwa [hold first (hmem first hf), hold second (hmem second hs)]
    · intro first hf second hs
      simp [hnew first hf, hnew second hs]
    · intro first hf second hs
      obtain ⟨edge, hedge, rfl⟩ := mem_map.mp hs
      rw [hnew edge hedge, length_append, length_singleton]
      exact hbound first (hseen ▸ mem_append_left _ (hmem first hf))
  · intro other hother
    rw [hqueue, forall_mem_append, forall_mem_map]
    have hle := hbound other hother
    refine ⟨fun queued hqueued => ?_, fun edge hedge => ?_⟩
    · have hnext := hfirst queued hqueued
      rw [hold queued (hmem queued hqueued)]
      omega
    · rw [hnew edge hedge, length_append]
      omega
  · intro other hother hnot edge hedge
    rw [hseen, mem_append] at hother
    rw [hqueue, mem_append, not_or] at hnot
    have hin := hother.resolve_right hnot.2
    rw [hold other hin]
    by_cases hc : other = vertex
    · subst hc
      exact hbound _ (hseen ▸ hall edge hedge)
    · have hout : other ∉ state.queue := by simp [hq, hc, hnot.1]
      rw [hold _ (hinv.expanded other hin hout edge hedge)]
      exact h.closed other hin hout edge hedge

section

variable (h : state.Layered out target seeds) (hinv : state.Invariant out target seeds)
include h hinv

/-- A search that has come to its end found a shortest walk to every vertex. -/
theorem Search.Layered.search (fuel : Nat) :
    (Graph.search out target fuel state).Layered out target seeds := by
  induction fuel generalizing state with
  | zero => exact h
  | succ fuel ih =>
    rw [Graph.search]
    split
    · exact h
    · rename_i vertex rest hq
      exact ih (h.expand hinv hq) (hinv.expand hq)

theorem Search.Layered.length_le (hq : state.queue = []) {seed : V} (hseed : seed ∈ seeds)
    {path : List E} {vertex : V} (hwalk : Walk out target seed path vertex) :
    vertex ∈ state.seen ∧ (state.pathTo vertex).length ≤ path.length := by
  induction hwalk with
  | nil => simp [h.seeded seed hseed, hinv.covers seed hseed]
  | snoc walk hedge ih =>
    have hstep := h.closed _ ih.1 (by simp [hq]) _ hedge
    refine ⟨hinv.expanded _ ih.1 (by simp [hq]) _ hedge, ?_⟩
    rw [length_append, length_singleton]
    omega

end

end NutOperator.Graph
