import Mathlib.Data.List.AList
import Mathlib.Data.List.Perm.Basic
import Mathlib.Tactic.Ring

/-! Descent of a finite graph into waves by predecessor counters. A wave is
every vertex whose counter is zero; it is removed together with the counts it
contributed. Counters live in a finite map, as an implementation keeps them. -/
namespace NutOperator.Graph

open List

variable {V : Type*} [DecidableEq V]

abbrev Counters (V : Type*) := AList (fun _ : V => Int)

def bump (delta : Int) (counters : Counters V) (vertex : V) : Counters V :=
  counters.insert vertex ((counters.lookup vertex).getD 0 + delta)

def ready (counters : Counters V) : List V :=
  counters.keys.filter fun vertex => counters.lookup vertex = some 0

def release (successors : V → List V) (counters : Counters V) (vertex : V) : Counters V :=
  (successors vertex).foldl (bump (-1)) (counters.erase vertex)

/-- The wave loop. `arrange` orders a wave for presentation; `fuel` bounds the
number of rounds. The error holds the vertices still waiting when a round
finds none that is ready. -/
def descend (successors : V → List V) (arrange : List V → List V) :
    Nat → Counters V → Except (List V) (List (List V))
  | 0, counters => if counters.keys = [] then .ok [] else .error counters.keys
  | fuel + 1, counters =>
    if counters.keys = [] then .ok []
    else
      let wave := arrange (ready counters)
      if wave = [] then .error counters.keys
      else
        match descend successors arrange fuel (wave.foldl (release successors) counters) with
        | .error stalled => .error stalled
        | .ok waves => .ok (wave :: waves)

/-- Every counter is the number of edges into its vertex from waiting vertices,
and edges from waiting vertices stay among them. -/
structure Balanced (successors : V → List V) (counters : Counters V) : Prop where
  count : ∀ vertex ∈ counters.keys,
    counters.lookup vertex = some ((counters.keys.flatMap successors).count vertex : Int)
  closed : ∀ vertex ∈ counters.keys, ∀ next ∈ successors vertex, next ∈ counters.keys

variable {counters : Counters V} {vertex first second : V} {successors : V → List V} {wave : List V}
  {waves : List (List V)}

theorem keys_bump_perm (delta : Int) (hvertex : vertex ∈ counters.keys) :
    (bump delta counters vertex).keys.Perm counters.keys := by
  rw [bump, AList.keys_insert]
  exact (perm_cons_erase hvertex).symm

theorem foldl_bump {vertices : List V} (delta : Int)
    (hvertices : ∀ vertex ∈ vertices, vertex ∈ counters.keys) :
    (vertices.foldl (bump delta) counters).keys.Perm counters.keys ∧
      ∀ vertex ∈ counters.keys, (vertices.foldl (bump delta) counters).lookup vertex =
        some ((counters.lookup vertex).getD 0 + delta * (vertices.count vertex : Int)) := by
  induction vertices generalizing counters with
  | nil =>
    refine ⟨.refl _, fun vertex hvertex => ?_⟩
    have hsome := AList.lookup_isSome.mpr (AList.mem_keys.mpr hvertex)
    obtain ⟨value, hv⟩ := Option.isSome_iff_exists.mp hsome
    simp [hv]
  | cons head tail ih =>
    have hhead : head ∈ counters.keys := hvertices head mem_cons_self
    have hkeys := keys_bump_perm delta hhead
    have htail : ∀ vertex ∈ tail, vertex ∈ (bump delta counters head).keys := by
      intro vertex hvertex
      exact hkeys.mem_iff.mpr (hvertices vertex (mem_cons_of_mem _ hvertex))
    obtain ⟨hperm, hl⟩ := ih htail
    refine ⟨hperm.trans hkeys, fun vertex hvertex => ?_⟩
    rw [foldl_cons, hl vertex (hkeys.mem_iff.mpr hvertex)]
    by_cases hsame : vertex = head
    · subst hsame
      simp only [bump, AList.lookup_insert, Option.getD_some, count_cons_self,
        Nat.cast_add, Nat.cast_one]
      congr 1
      ring
    · rw [bump, AList.lookup_insert_ne hsame, count_cons_of_ne (Ne.symm hsame)]

theorem flatMap_filter_perm (source : E → V) {vertices : List V} (hnodup : vertices.Nodup)
    {edges : List E} (hcover : ∀ edge ∈ edges, source edge ∈ vertices) :
    (vertices.flatMap fun vertex => edges.filter (source · = vertex)).Perm edges := by
  induction vertices generalizing edges with
  | nil =>
    cases edges with
    | nil => exact .refl _
    | cons head tail => exact absurd (hcover head mem_cons_self) not_mem_nil
  | cons vertex rest ih =>
    rw [nodup_cons] at hnodup
    have hrest : ∀ edge ∈ edges.filter (fun edge => !decide (source edge = vertex)),
        source edge ∈ rest := by
      intro edge hedge
      obtain ⟨hmem, hother⟩ := mem_filter.mp hedge
      exact (mem_cons.mp (hcover edge hmem)).resolve_left (by simpa using hother)
    have hsame : (rest.flatMap fun other => edges.filter (source · = other)) =
        rest.flatMap fun other =>
          (edges.filter fun edge => !decide (source edge = vertex)).filter (source · = other) := by
      apply flatMap_congr
      intro other hother
      rw [filter_filter]
      apply filter_congr
      intro edge _
      by_cases heq : source edge = other
      · have hne : other ≠ vertex := fun h => hnodup.1 (h ▸ hother)
        simp [heq, hne]
      · simp [heq]
    rw [flatMap_cons, hsame]
    exact ((ih hnodup.2 hrest).append_left _).trans (filter_append_perm _ _)

theorem Balanced.of_edges {source target : E → V} {edges : List E} (hsuccessor : ∀ vertex,
      (successors vertex).Perm ((edges.filter (source · = vertex)).map target))
    (hzero : ∀ vertex ∈ counters.keys, counters.lookup vertex = some 0)
    (hsourced : ∀ edge ∈ edges, source edge ∈ counters.keys)
    (htarget : ∀ edge ∈ edges, target edge ∈ counters.keys) :
    Balanced successors ((edges.map target).foldl (bump 1) counters) ∧
      ((edges.map target).foldl (bump 1) counters).keys.Perm counters.keys := by
  have ht : ∀ vertex ∈ edges.map target, vertex ∈ counters.keys := by
    intro vertex hvertex
    obtain ⟨edge, hedge, rfl⟩ := mem_map.mp hvertex
    exact htarget edge hedge
  obtain ⟨hperm, hl⟩ := foldl_bump 1 ht
  have hall : (((edges.map target).foldl (bump 1) counters).keys.flatMap successors).Perm
      (edges.map target) := by
    refine (hperm.flatMap_right successors).trans ?_
    refine (List.Perm.flatMap_left _ fun vertex _ => hsuccessor vertex).trans ?_
    rw [← map_flatMap]
    exact (flatMap_filter_perm source counters.keys_nodup hsourced).map target
  refine ⟨⟨fun vertex hvertex => ?_, fun vertex hvertex next hnext => ?_⟩, hperm⟩
  · have hkey := hperm.mem_iff.mp hvertex
    rw [hl vertex hkey, hzero vertex hkey, hall.count_eq]
    simp
  · obtain ⟨edge, hedge, rfl⟩ := mem_map.mp ((hsuccessor vertex).mem_iff.mp hnext)
    exact hperm.mem_iff.mpr (htarget edge (mem_of_mem_filter hedge))

theorem mem_keys_of_lookup {count : Int} (h : counters.lookup vertex = some count) :
    vertex ∈ counters.keys := by
  apply AList.mem_keys.mp
  apply AList.lookup_isSome.mp
  simp [h]

theorem mem_ready : vertex ∈ ready counters ↔ counters.lookup vertex = some 0 := by
  simpa [ready] using mem_keys_of_lookup

section

variable (hbalanced : Balanced successors counters) (hready : counters.lookup vertex = some 0)

include hbalanced hready

theorem Balanced.not_mem_successors : ∀ other ∈ counters.keys, vertex ∉ successors other := by
  intro other ho hmem
  have hv : vertex ∈ counters.keys := hbalanced.closed other ho vertex hmem
  have hc := hbalanced.count vertex hv
  rw [hready, Option.some.injEq] at hc
  have hzero : (counters.keys.flatMap successors).count vertex = 0 := by omega
  exact count_eq_zero.mp hzero (mem_flatMap.mpr ⟨other, ho, hmem⟩)

theorem keys_release_perm :
    (release successors counters vertex).keys.Perm (counters.keys.erase vertex) ∧
      ∀ other ∈ counters.keys.erase vertex, (release successors counters vertex).lookup other =
          some ((counters.lookup other).getD 0 - ((successors vertex).count other : Int)) := by
  have hv := mem_keys_of_lookup hready
  have hs : ∀ next ∈ successors vertex, next ∈ (counters.erase vertex).keys := by
    intro next hnext
    rw [AList.keys_erase, counters.keys_nodup.mem_erase_iff]
    refine ⟨?_, hbalanced.closed vertex hv next hnext⟩
    rintro rfl
    exact hbalanced.not_mem_successors hready next hv hnext
  obtain ⟨hperm, hl⟩ := foldl_bump (-1) hs
  rw [AList.keys_erase] at hperm
  refine ⟨hperm, fun other ho => ?_⟩
  have hne : other ≠ vertex := (counters.keys_nodup.mem_erase_iff.mp ho).1
  rw [release, hl other (by rwa [AList.keys_erase]), AList.lookup_erase_ne hne]
  congr 1
  ring

theorem Balanced.release : Balanced successors (release successors counters vertex) := by
  obtain ⟨hperm, hl⟩ := keys_release_perm hbalanced hready
  have hv := mem_keys_of_lookup hready
  constructor
  · intro other hother
    have hmem := hperm.mem_iff.mp hother
    have hs : (counters.keys.flatMap successors).count other = (successors vertex).count other +
          ((counters.keys.erase vertex).flatMap successors).count other := by
      rw [((perm_cons_erase hv).flatMap_right successors).count_eq, flatMap_cons, count_append]
    rw [hl other hmem, hbalanced.count other (mem_of_mem_erase hmem),
      (hperm.flatMap_right successors).count_eq, Option.getD_some, hs]
    congr 1
    push_cast
    ring
  · intro other hother next hnext
    have hmem := mem_of_mem_erase (hperm.mem_iff.mp hother)
    apply hperm.mem_iff.mpr
    apply counters.keys_nodup.mem_erase_iff.mpr
    refine ⟨?_, hbalanced.closed other hmem next hnext⟩
    rintro rfl
    exact hbalanced.not_mem_successors hready other hmem hnext

theorem release_keeps_ready {other : V} (hother : counters.lookup other = some 0)
    (hne : other ≠ vertex) : (release successors counters vertex).lookup other = some 0 := by
  have hmem : other ∈ counters.keys.erase vertex :=
    counters.keys_nodup.mem_erase_iff.mpr ⟨hne, mem_keys_of_lookup hother⟩
  rw [(keys_release_perm hbalanced hready).2 other hmem, hother]
  have hzero : (successors vertex).count other = 0 :=
    count_eq_zero.mpr (hbalanced.not_mem_successors hother vertex (mem_keys_of_lookup hready))
  simp [hzero]

end

theorem Balanced.foldl_release (hbalanced : Balanced successors counters) (hnodup : wave.Nodup)
    (hready : ∀ vertex ∈ wave, counters.lookup vertex = some 0) :
    Balanced successors (wave.foldl (Graph.release successors) counters) ∧
      (wave ++ (wave.foldl (Graph.release successors) counters).keys).Perm counters.keys := by
  induction wave generalizing counters with
  | nil => exact ⟨hbalanced, .refl _⟩
  | cons head tail ih =>
    have hhead := hready head mem_cons_self
    obtain ⟨hnot, htail⟩ := nodup_cons.mp hnodup
    have hrest : ∀ vertex ∈ tail,
        (Graph.release successors counters head).lookup vertex = some 0 := by
      intro vertex hv
      apply release_keeps_ready hbalanced hhead (hready vertex (mem_cons_of_mem _ hv))
      rintro rfl
      exact hnot hv
    obtain ⟨hb, hperm⟩ := ih (hbalanced.release hhead) htail hrest
    refine ⟨hb, ?_⟩
    rw [foldl_cons, cons_append]
    exact ((hperm.trans (keys_release_perm hbalanced hhead).1).cons head).trans
      (perm_cons_erase (mem_keys_of_lookup hhead)).symm

def waveIndex (waves : List (List V)) (vertex : V) : Option Nat :=
  waves.findIdx? fun wave => vertex ∈ wave

def Precedes (waves : List (List V)) (first second : V) : Prop :=
  ∃ i j, waveIndex waves first = some i ∧ waveIndex waves second = some j ∧ i < j

theorem waveIndex_cons (wave : List V) (waves : List (List V)) (vertex : V) :
    waveIndex (wave :: waves) vertex =
      if vertex ∈ wave then some 0 else (waveIndex waves vertex).map (· + 1) := by
  simp [waveIndex, List.findIdx?_cons]

theorem exists_waveIndex (h : vertex ∈ waves.flatten) : ∃ i, waveIndex waves vertex = some i := by
  apply Option.isSome_iff_exists.mp
  rw [waveIndex, List.findIdx?_isSome, any_eq_true]
  obtain ⟨wave, hwave, hv⟩ := mem_flatten.mp h
  exact ⟨wave, hwave, decide_eq_true hv⟩

instance (waves : List (List V)) (first second : V) : Decidable (Precedes waves first second) :=
  decidable_of_iff (∃ i ∈ waveIndex waves first, ∃ j ∈ waveIndex waves second, i < j) (by
      simp [Precedes])

theorem waveIndex_eq_some (hnodup : waves.flatten.Nodup) {i : Nat} :
    waveIndex waves vertex = some i ↔ ∃ wave, waves[i]? = some wave ∧ vertex ∈ wave := by
  induction waves generalizing i with
  | nil => simp [waveIndex]
  | cons wave rest ih =>
    rw [flatten_cons, nodup_append] at hnodup
    obtain ⟨-, hrest, hdisjoint⟩ := hnodup
    rw [waveIndex_cons]
    split
    · rename_i hmem
      cases i with
      | zero => simp [hmem]
      | succ i =>
        simp only [Option.some.injEq, Nat.right_eq_add, Nat.add_eq_zero_iff, one_ne_zero, and_false,
          List.getElem?_cons_succ, false_iff, not_exists, not_and]
        intro other ho hmem'
        exact hdisjoint vertex hmem vertex (mem_flatten.mpr ⟨other, mem_of_getElem? ho, hmem'⟩) rfl
    · rename_i hmem
      cases i with
      | zero => simp [hmem]
      | succ i => simp [ih hrest]

theorem Precedes.irrefl : ¬ Precedes waves vertex vertex := by
  rintro ⟨i, j, hi, hj, hlt⟩
  rw [hi, Option.some.injEq] at hj
  omega

theorem Precedes.trans {third : V} (h : Precedes waves first second)
    (h' : Precedes waves second third) : Precedes waves first third := by
  obtain ⟨i, j, hi, hj, hij⟩ := h
  obtain ⟨j', k, hj', hk, hjk⟩ := h'
  rw [hj, Option.some.injEq] at hj'
  exact ⟨i, k, hi, hk, by omega⟩

theorem Precedes.lt (hnodup : waves.flatten.Nodup) (h : Precedes waves first second) {i j : Nat}
    {wave' : List V} (hwave : waves[i]? = some wave) (hfirst : first ∈ wave)
    (hwave' : waves[j]? = some wave') (hsecond : second ∈ wave') : i < j := by
  obtain ⟨i', j', hi, hj, hlt⟩ := h
  rw [(waveIndex_eq_some hnodup).mpr ⟨wave, hwave, hfirst⟩, Option.some.injEq] at hi
  rw [(waveIndex_eq_some hnodup).mpr ⟨wave', hwave', hsecond⟩, Option.some.injEq] at hj
  omega

theorem getLast?_eq_of_all_precede (hnodup : waves.flatten.Nodup) (hnonempty : [] ∉ waves)
    (hvertex : vertex ∈ waves.flatten)
    (hall : ∀ other ∈ waves.flatten, other ≠ vertex → Precedes waves other vertex) :
    waves.getLast? = some [vertex] := by
  obtain rfl | ⟨earlier, last, rfl⟩ := eq_nil_or_concat' waves
  · cases hvertex
  have hlast : ∀ other ∈ last, waveIndex (earlier ++ [last]) other = some earlier.length :=
    fun other ho => (waveIndex_eq_some hnodup).mpr ⟨last, by simp, ho⟩
  -- nothing but the vertex can sit in the last wave
  have honly : ∀ other ∈ last, other = vertex := by
    intro other ho
    by_contra hne
    obtain ⟨i, j, hi, hj, hlt⟩ := hall other (by simp [ho]) hne
    obtain ⟨wave, hwave, -⟩ := (waveIndex_eq_some hnodup).mp hj
    have hlen := (List.getElem?_eq_some_iff.mp hwave).1
    rw [hlast other ho, Option.some.injEq] at hi
    rw [length_append, length_singleton] at hlen
    omega
  have hone : last = [vertex] := by
    have hlastNodup : last.Nodup := (nodup_flatten.mp hnodup).1 last (by simp)
    have hsame := eq_replicate_of_mem honly
    have hpos := length_pos_of_ne_nil fun he : last = [] => hnonempty (by simp [he])
    rw [hsame, nodup_replicate] at hlastNodup
    rw [hsame, show last.length = 1 by omega, replicate_one]
  rw [getLast?_concat, hone]

theorem precedes_cons_of_mem (hfirst : first ∈ wave) (hsecond : second ∉ wave)
    (hlater : second ∈ waves.flatten) : Precedes (wave :: waves) first second := by
  obtain ⟨j, hj⟩ := exists_waveIndex hlater
  refine ⟨0, j + 1, ?_, ?_, by omega⟩
  · rw [waveIndex_cons, if_pos hfirst]
  · rw [waveIndex_cons, if_neg hsecond, hj]
    rfl

theorem Precedes.cons (h : Precedes waves first second) (hfirst : first ∉ wave)
    (hsecond : second ∉ wave) : Precedes (wave :: waves) first second := by
  obtain ⟨i, j, hi, hj, hlt⟩ := h
  refine ⟨i + 1, j + 1, ?_, ?_, by omega⟩
  · rw [waveIndex_cons, if_neg hfirst, hi]
    rfl
  · rw [waveIndex_cons, if_neg hsecond, hj]
    rfl

/-- A finished descent places every vertex once, and every edge leads from an
earlier wave to a later one. -/
theorem descend_ok {arrange : List V → List V} (harranged : ∀ wave, (arrange wave).Perm wave)
    {fuel : Nat} (hbalanced : Balanced successors counters)
    (hrun : descend successors arrange fuel counters = .ok waves) :
    waves.flatten.Perm counters.keys ∧ [] ∉ waves ∧
      ∀ vertex ∈ counters.keys, ∀ next ∈ successors vertex, Precedes waves vertex next := by
  induction fuel generalizing counters waves with
  | zero =>
    rw [descend] at hrun
    split at hrun
    · rename_i he
      cases hrun
      simp [he]
    · cases hrun
  | succ fuel ih =>
    rw [descend] at hrun
    split at hrun
    · rename_i he
      cases hrun
      simp [he]
    dsimp only at hrun
    split at hrun
    · cases hrun
    rename_i hwave
    split at hrun
    · cases hrun
    rename_i rest hrest
    cases hrun
    have hperm := harranged (ready counters)
    have hzero : ∀ vertex ∈ arrange (ready counters), counters.lookup vertex = some 0 :=
      fun vertex hvertex => mem_ready.mp (hperm.mem_iff.mp hvertex)
    have hn : (arrange (ready counters)).Nodup :=
      hperm.nodup_iff.mpr (counters.keys_nodup.filter _)
    obtain ⟨hb, hkeys⟩ := hbalanced.foldl_release hn hzero
    obtain ⟨hflat, hne, hedges⟩ := ih hb hrest
    have hall : (arrange (ready counters) ++ rest.flatten).Perm counters.keys :=
      (hflat.append_left _).trans hkeys
    refine ⟨by simpa using hall, ?_, ?_⟩
    · intro hmem
      rcases mem_cons.mp hmem with heq | hmem
      · exact hwave heq.symm
      · exact hne hmem
    · intro vertex hvertex next hnext
      -- The successor of a waiting vertex is never ready, so it is in a later wave.
      have hlater : next ∉ arrange (ready counters) := fun hmem =>
        hbalanced.not_mem_successors (hzero next hmem) vertex hvertex hnext
      have hnextKey : next ∈ rest.flatten := by
        have hmem := hall.mem_iff.mpr (hbalanced.closed vertex hvertex next hnext)
        exact (mem_append.mp hmem).resolve_left hlater
      by_cases hf : vertex ∈ arrange (ready counters)
      · exact precedes_cons_of_mem hf hlater hnextKey
      · have hrestKey : vertex ∈ (List.foldl (release successors) counters
            (arrange (ready counters))).keys := by
          have hmem := hkeys.mem_iff.mpr hvertex
          exact (mem_append.mp hmem).resolve_left hf
        exact (hedges vertex hrestKey next hnext).cons hf hlater

end NutOperator.Graph
