import NutOperator.Graph.Cycle
import NutOperator.Graph.Descent
import Mathlib.Data.List.Chain
import Mathlib.Data.Set.Finite.List
import Mathlib.Order.WellFounded

/-! Waves as layers: a vertex goes into the wave whose index is the length of the
longest path to it, and a descent stops early exactly at a cycle. -/
namespace NutOperator.Graph

open Relation List

variable {V : Type*} [DecidableEq V]

inductive PathTo (successors : V → List V) : Nat → V → Prop where
  | start (vertex : V) : PathTo successors 0 vertex
  | step {length : Nat} {vertex next : V} (h : PathTo successors length vertex)
      (hnext : next ∈ successors vertex) : PathTo successors (length + 1) next

structure Depth (successors : V → List V) (vertex : V) (depth : Nat) : Prop where
  attained : PathTo successors depth vertex
  longest : ∀ length, PathTo successors length vertex → length ≤ depth

def AfterWave (successors : V → List V) (earlier later : List V) : Prop :=
  ∀ vertex ∈ later, ∃ before ∈ earlier, vertex ∈ successors before

section

variable {successors : V → List V} {arrange : List V → List V} {counts : Counters V}
  {waves : List (List V)} {fuel : Nat}

variable {wave : List V} {vertex : V}

theorem Balanced.afterWave (hbalanced : Balanced successors counts)
    (hwave : wave.Perm (ready counts)) :
    AfterWave successors wave (ready (wave.foldl (Graph.release successors) counts)) := by
  intro vertex hvertex
  have hzero : ∀ vertex ∈ wave, counts.lookup vertex = some 0 :=
    fun vertex hmem => mem_ready.mp (hwave.mem_iff.mp hmem)
  have hn : wave.Nodup := hwave.nodup_iff.mpr (counts.keys_nodup.filter _)
  obtain ⟨hreleased, hkeys⟩ := hbalanced.foldl_release hn hzero
  have hl := (mem_filter.mp hvertex).1
  have hwait : vertex ∈ counts.keys := hkeys.mem_iff.mp (mem_append_right _ hl)
  have hnot : vertex ∉ wave := by
    have ha := (nodup_append.mp (hkeys.nodup_iff.mpr counts.keys_nodup)).2.2
    exact fun hmem => ha vertex hmem vertex hl rfl
  have hc := hbalanced.count vertex hwait
  have hpos : (counts.keys.flatMap successors).count vertex ≠ 0 := by
    intro hnone
    rw [hnone] at hc
    exact hnot (hwave.mem_iff.mpr (mem_ready.mpr hc))
  obtain ⟨before, hb, hedge⟩ := mem_flatMap.mp (count_pos_iff.mp (Nat.pos_of_ne_zero hpos))
  refine ⟨before, ?_, hedge⟩
  by_contra ho
  have hstill := (mem_append.mp (hkeys.mem_iff.mpr hb)).resolve_left ho
  exact hreleased.not_mem_successors (mem_ready.mp hvertex) before hstill hedge

theorem head_of_descend (hrun : descend successors arrange fuel counts = .ok (wave :: waves)) :
    wave = arrange (ready counts) := by
  cases fuel with
  | zero =>
    rw [descend] at hrun
    split at hrun <;> cases hrun
  | succ fuel =>
    rw [descend] at hrun
    split at hrun
    · cases hrun
    · dsimp only at hrun
      split at hrun
      · cases hrun
      · split at hrun
        · cases hrun
        · cases hrun
          rfl

theorem afterWave_of_descend (harranged : ∀ wave, (arrange wave).Perm wave)
    (hbalanced : Balanced successors counts)
    (hrun : descend successors arrange fuel counts = .ok waves) :
    waves.IsChain (AfterWave successors) := by
  induction fuel generalizing counts waves with
  | zero =>
    rw [descend] at hrun
    split at hrun
    · cases hrun
      exact .nil
    · cases hrun
  | succ fuel ih =>
    rw [descend] at hrun
    split at hrun
    · cases hrun
      exact .nil
    dsimp only at hrun
    split at hrun
    · cases hrun
    split at hrun
    · cases hrun
    rename_i rest hrest
    cases hrun
    have hperm := harranged (ready counts)
    have hn : (arrange (ready counts)).Nodup := hperm.nodup_iff.mpr (counts.keys_nodup.filter _)
    have hr := (hbalanced.foldl_release hn fun vertex hmem =>
      mem_ready.mp (hperm.mem_iff.mp hmem)).1
    refine isChain_cons.mpr ⟨fun later hl => ?_, ih hr hrest⟩
    obtain ⟨others, rfl⟩ := List.head?_eq_some_iff.mp hl
    rw [head_of_descend hrest]
    intro vertex hv
    exact hbalanced.afterWave hperm vertex ((harranged _).mem_iff.mp hv)

omit [DecidableEq V] in
theorem pathTo_of_afterWave (h : waves.IsChain (AfterWave successors)) {idx : Nat}
    (hwave : waves[idx]? = some wave) (hvertex : vertex ∈ wave) : PathTo successors idx vertex := by
  induction idx generalizing wave vertex with
  | zero => exact .start vertex
  | succ idx ih =>
    obtain ⟨hidx, heq⟩ := List.getElem?_eq_some_iff.mp hwave
    have hb := isChain_iff_getElem.mp h idx hidx
    obtain ⟨before, hbefore, hedge⟩ := hb vertex (heq ▸ hvertex)
    exact .step (ih (List.getElem?_eq_getElem (Nat.lt_of_succ_lt hidx)) hbefore) hedge

section

variable (hprecedes : ∀ vertex, ∀ next ∈ successors vertex, Precedes waves vertex next)
include hprecedes

theorem le_of_pathTo {length : Nat} (h : PathTo successors length vertex) {index : Nat}
    (hidx : waveIndex waves vertex = some index) : length ≤ index := by
  induction h generalizing index with
  | start vertex => exact Nat.zero_le _
  | step h hnext ih =>
    obtain ⟨before, after, hb, ha, hless⟩ := hprecedes _ _ hnext
    rw [hidx] at ha
    have hlen := ih hb
    cases ha
    omega

theorem acyclic_of_precedes : ¬OnCycle successors vertex := by
  intro hcycle
  have hall : ∀ other, TransGen (Next successors) vertex other → Precedes waves vertex other := by
    intro other hr
    induction hr with
    | single hnext => exact hprecedes _ _ hnext
    | tail _ hnext ih => exact ih.trans (hprecedes _ _ hnext)
  exact (hall vertex hcycle).irrefl

end

omit [DecidableEq V] in
/-- Finitely many vertices of which each has a predecessor among them hold a cycle. -/
theorem exists_onCycle {vertices : List V} (hsome : vertices ≠ [])
    (h : ∀ vertex ∈ vertices, ∃ before ∈ vertices, vertex ∈ successors before) :
    ∃ vertex, OnCycle successors vertex := by
  by_contra hnone
  rw [not_exists] at hnone
  let before := fun first second : { vertex // vertex ∈ vertices } =>
    TransGen (Next successors) first.1 second.1
  have hf : Finite { vertex // vertex ∈ vertices } := vertices.finite_toSet
  have htrans : IsTrans _ before := ⟨fun _ _ _ hfirst hs => hfirst.trans hs⟩
  have hi : Std.Irrefl before := ⟨fun vertex => hnone vertex.1⟩
  have hfound : WellFounded before := Finite.wellFounded_of_trans_of_irrefl before
  obtain ⟨vertex, hv⟩ := exists_mem_of_ne_nil _ hsome
  obtain ⟨least, -, hl⟩ := hfound.has_min Set.univ ⟨⟨vertex, hv⟩, trivial⟩
  obtain ⟨other, ho, hedge⟩ := h least.1 least.2
  exact hl ⟨other, ho⟩ trivial (.single hedge)

theorem exists_onCycle_of_descend (harranged : ∀ wave, (arrange wave).Perm wave)
    (hbalanced : Balanced successors counts) (hfuel : counts.keys.length ≤ fuel)
    {stalled : List V} (hrun : descend successors arrange fuel counts = .error stalled) :
    ∃ vertex, OnCycle successors vertex := by
  induction fuel generalizing counts with
  | zero =>
    rw [descend, if_pos (length_eq_zero_iff.mp (Nat.le_zero.mp hfuel))] at hrun
    cases hrun
  | succ fuel ih =>
    rw [descend] at hrun
    split at hrun
    · cases hrun
    rename_i hwait
    have hperm := harranged (ready counts)
    dsimp only at hrun
    split at hrun
    · rename_i hnone
      -- no counter is zero, so every waiting vertex waits for another
      have hr : ready counts = [] := List.Perm.eq_nil (hnone ▸ hperm.symm)
      apply exists_onCycle hwait
      intro vertex hv
      have hc := hbalanced.count vertex hv
      have hpos : (counts.keys.flatMap successors).count vertex ≠ 0 := by
        intro hzero
        rw [hzero] at hc
        exact not_mem_nil (hr ▸ mem_ready.mpr hc)
      exact mem_flatMap.mp (count_pos_iff.mp (Nat.pos_of_ne_zero hpos))
    · rename_i hsome
      split at hrun
      · rename_i hrest
        cases hrun
        have hn : (arrange (ready counts)).Nodup := hperm.nodup_iff.mpr (counts.keys_nodup.filter _)
        obtain ⟨hreleased, hkeys⟩ := hbalanced.foldl_release hn fun vertex hmem =>
          mem_ready.mp (hperm.mem_iff.mp hmem)
        have hlen := hkeys.length_eq
        rw [length_append] at hlen
        have hpos := length_pos_iff.mpr hsome
        exact ih hreleased (by omega) hrest
      · cases hrun

end

end NutOperator.Graph
