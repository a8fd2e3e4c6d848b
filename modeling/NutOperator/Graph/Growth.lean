import Mathlib.Data.List.Dedup
import Mathlib.Data.List.Perm.Subperm

/-! Growing a finite set to a fixed point. Each round adds what a step function
derives from the current set and stops when nothing is new. -/
namespace NutOperator.Graph

open List

variable {V : Type*} [DecidableEq V]

/-- The growth loop, with `none` when the rounds run out before a fixed point. -/
def grow (derive : List V → List V) : Nat → List V → Option (List V)
  | 0, _ => none
  | fuel + 1, current =>
    let fresh := (derive current).filter (· ∉ current)
    if fresh = [] then some current else grow derive fuel (current ++ fresh)

variable {derive : List V → List V} {fuel : Nat} {current : List V}

theorem grow_fixed {result : List V} (hrun : grow derive fuel current = some result) :
    (∀ vertex ∈ current, vertex ∈ result) ∧ ∀ vertex ∈ derive result, vertex ∈ result := by
  induction fuel generalizing current with
  | zero => cases hrun
  | succ fuel ih =>
    rw [grow] at hrun
    split at hrun
    · rename_i hf
      obtain rfl := Option.some.inj hrun
      refine ⟨fun _ => id, fun vertex hv => ?_⟩
      by_contra hnot
      have hmem : vertex ∈ (derive current).filter (· ∉ current) :=
        mem_filter.mpr ⟨hv, decide_eq_true hnot⟩
      rw [hf] at hmem
      cases hmem
    · obtain ⟨hold, hc⟩ := ih hrun
      exact ⟨fun vertex hv => hold vertex (mem_append_left _ hv), hc⟩

/-- Nothing is in the fixed point without a derivation: a property of the start
that the step keeps holds throughout. -/
theorem grow_induction {prop : V → Prop} (hderives : ∀ current, (∀ vertex ∈ current, prop vertex) →
      ∀ vertex ∈ derive current, prop vertex) {result : List V}
    (hstart : ∀ vertex ∈ current, prop vertex) (hrun : grow derive fuel current = some result) :
    ∀ vertex ∈ result, prop vertex := by
  induction fuel generalizing current with
  | zero => cases hrun
  | succ fuel ih =>
    rw [grow] at hrun
    split at hrun
    · cases hrun
      exact hstart
    · apply ih _ hrun
      refine forall_mem_append.mpr ⟨hstart, fun vertex hf => ?_⟩
      exact hderives current hstart vertex (mem_of_mem_filter hf)

theorem grow_mono {derive' : List V → List V}
    (hderives : ∀ left right, left ⊆ right → derive left ⊆ derive' right) {fuel' : Nat}
    {current' result result' : List V} (hstart : current ⊆ current')
    (hrun : grow derive fuel current = some result)
    (hrun' : grow derive' fuel' current' = some result') : result ⊆ result' := by
  obtain ⟨hold, hc⟩ := grow_fixed hrun'
  apply grow_induction _ (fun vertex hv => hold vertex (hstart hv)) hrun
  intro mid hmid vertex hv
  exact hc vertex (hderives mid result' hmid hv)

/-- One round more than the vertices a step can derive is enough. -/
theorem grow_terminates {derivable : List V}
    (hderives : ∀ current, ∀ vertex ∈ derive current, vertex ∈ derivable)
    (hfuel : (derivable.dedup.filter (· ∉ current)).length < fuel) :
    ∃ result, grow derive fuel current = some result := by
  induction fuel generalizing current with
  | zero => omega
  | succ fuel ih =>
    rw [grow]
    split
    · exact ⟨current, rfl⟩
    · rename_i hf
      apply ih
      obtain ⟨vertex, hvertex⟩ := exists_mem_of_ne_nil _ hf
      have hnew := of_decide_eq_true (mem_filter.mp hvertex).2
      have hmem := hderives current vertex (mem_of_mem_filter hvertex)
      have hsub : (vertex :: derivable.dedup.filter
          (· ∉ current ++ (derive current).filter (· ∉ current))).Subperm
          (derivable.dedup.filter (· ∉ current)) := by
        apply subperm_of_subset
        · refine nodup_cons.mpr ⟨?_, (nodup_dedup _).filter _⟩
          intro hagain
          have hout := of_decide_eq_true (mem_filter.mp hagain).2
          exact hout (mem_append_right _ hvertex)
        · intro other ho
          rcases mem_cons.mp ho with rfl | ho
          · exact mem_filter.mpr ⟨mem_dedup.mpr hmem, decide_eq_true hnew⟩
          · obtain ⟨hin, hout⟩ := mem_filter.mp ho
            refine mem_filter.mpr ⟨hin, decide_eq_true fun hold => ?_⟩
            exact of_decide_eq_true hout (mem_append_left _ hold)
      have hlen := hsub.length_le
      rw [length_cons] at hlen
      omega

end NutOperator.Graph
