import Mathlib.Data.List.Dedup
import Mathlib.Data.List.Perm.Basic
import Mathlib.Data.List.Sort
import Mathlib.Data.String.Basic

/-! Stable sorting by a strict comparison, as a slice sort takes it. Insertion
keeps the order of elements that compare equal. -/
namespace NutOperator.Data

open List

def sortStable (less : α → α → Bool) (values : List α) : List α :=
  values.insertionSort fun left right => less right left = false

theorem sortStable_perm (less : α → α → Bool) (values : List α) :
    (sortStable less values).Perm values :=
  perm_insertionSort _ _

variable {less : α → α → Bool} {values others : List α}

@[simp] theorem mem_sortStable {value : α} : value ∈ sortStable less values ↔ value ∈ values :=
  (sortStable_perm less values).mem_iff

@[simp] theorem sortStable_eq_nil : sortStable less values = [] ↔ values = [] := by
  constructor
  · intro h
    have hperm := sortStable_perm less values
    rw [h] at hperm
    exact perm_nil.mp hperm.symm
  · rintro rfl
    rfl

theorem sortStable_nodup : (sortStable less values).Nodup ↔ values.Nodup :=
  (sortStable_perm less values).nodup_iff

section

variable {β : Type} [LinearOrder β] {key : α → β}
  (hless : ∀ left right, less left right = true ↔ key left < key right)
include hless

theorem pairwise_sortStable (values : List α) :
    (sortStable less values).Pairwise fun left right => key left ≤ key right := by
  have hle : ∀ left right, less right left = false ↔ key left ≤ key right := by
    intro left right
    rw [← not_lt, ← hless, Bool.not_eq_true]
  have : Std.Total fun left right => less right left = false :=
    ⟨fun left right => by simpa only [hle] using le_total (key left) (key right)⟩
  have : IsTrans α fun left right => less right left = false :=
    ⟨fun left mid right => by simpa only [hle] using le_trans⟩
  exact (pairwise_insertionSort _ _).imp fun h => (hle _ _).mp h

theorem sortStable_eq_of_perm (hperm : values.Perm others)
    (hkeys : ∀ left ∈ values, ∀ right ∈ values, key left = key right → left = right) :
    sortStable less values = sortStable less others := by
  refine List.Perm.eq_of_pairwise ?_ (pairwise_sortStable hless values)
    (pairwise_sortStable hless others)
    ((sortStable_perm less values).trans (hperm.trans (sortStable_perm less others).symm))
  intro left right hleft hr h hback
  exact hkeys left (mem_sortStable.mp hleft) right (hperm.mem_iff.mpr (mem_sortStable.mp hr))
    (le_antisymm h hback)

end

/-- A rearrangement of a list whose elements are replaced by related ones. -/
def Shuffled (related : α → α → Prop) (values others : List α) : Prop :=
  ∃ middle, values.Perm middle ∧ List.Forall₂ related middle others

theorem Shuffled.perm_map {related : α → α → Prop} {view : α → β}
    (h : Shuffled related values others)
    (hview : ∀ value other, related value other → view value = view other) :
    (values.map view).Perm (others.map view) := by
  obtain ⟨mid, hperm, hr⟩ := h
  have hsame : mid.map view = others.map view := by
    clear hperm
    induction hr with
    | nil => rfl
    | cons hhead _ ih => rw [map_cons, map_cons, hview _ _ hhead, ih]
  rw [← hsame]
  exact hperm.map view

theorem shuffled_iff_perm_map {view : α → β} :
    Shuffled (fun value other => view value = view other) values others ↔
      (values.map view).Perm (others.map view) := by
  constructor
  · intro h
    exact h.perm_map fun _ _ => id
  · intro hperm
    have hc : Relation.Comp (fun images mid => images = List.map view mid) List.Perm
        (others.map view) values := by
      rw [eq_map_comp_perm]
      exact hperm.symm
    obtain ⟨mid, hview, hmid⟩ := hc
    refine ⟨mid, hmid.symm, ?_⟩
    rw [← forall₂_eq_eq_eq, forall₂_map_left_iff, forall₂_map_right_iff] at hview
    exact hview.flip.imp fun _ _ => Eq.symm

/-- Sorting by distinct names forgets how the list and its elements were arranged. -/
theorem sortStable_eq_of_shuffled {related : α → α → Prop} {view : α → α} {name : α → String}
    (h : Shuffled related values others) (hview : ∀ value other, related value other → view value =
      view other)
    (hname : ∀ value, name (view value) = name value) (hnames : (values.map name).Nodup) :
    sortStable (fun left right => decide (name left < name right)) (values.map view) =
      sortStable (fun left right => decide (name left < name right)) (others.map view) := by
  have hless : ∀ left right : α,
      decide (name left < name right) = true ↔ name left < name right :=
    fun _ _ => decide_eq_true_iff
  refine sortStable_eq_of_perm hless (h.perm_map hview) ?_
  have hviewed : ((values.map view).map name).Nodup := by
    simpa [map_map, Function.comp_def, hname] using hnames
  exact fun left hleft right hr => inj_on_of_nodup_map hviewed hleft hr

def sortStrings (values : List String) : List String :=
  sortStable (fun left right => decide (left < right)) values

variable {values others : List String}

@[simp] theorem mem_sortStrings {value : String} : value ∈ sortStrings values ↔ value ∈ values :=
  mem_sortStable

theorem sortStrings_eq_of_perm (h : values.Perm others) :
    sortStrings values = sortStrings others := by
  have hless : ∀ left right : String, decide (left < right) = true ↔ id left < id right :=
    fun _ _ => decide_eq_true_iff
  exact sortStable_eq_of_perm hless h fun _ _ _ _ => id

theorem sortStrings_eq_iff_perm : sortStrings values = sortStrings others ↔ values.Perm others := by
  constructor
  · intro h
    have hperm : (sortStrings others).Perm others := sortStable_perm _ others
    rw [← h] at hperm
    exact (sortStable_perm _ values).symm.trans hperm
  · exact sortStrings_eq_of_perm

/-- Ascending keys of a string set. Duplicates are adjacent after sorting, so
dropping every duplicate is dropping the adjacent ones. -/
def sortedUnique (values : List String) : List String := (sortStrings values).dedup

@[simp] theorem mem_sortedUnique {value : String} : value ∈ sortedUnique values ↔
    value ∈ values := by
  simp [sortedUnique]

theorem sortedUnique_eq_of_perm (h : values.Perm others) :
    sortedUnique values = sortedUnique others := by
  rw [sortedUnique, sortedUnique, sortStrings_eq_of_perm h]

theorem perm_sortedUnique (values : List String) : (sortedUnique values).Perm values.dedup :=
  (sortStable_perm _ values).dedup

theorem pairwise_sortedUnique (values : List String) : (sortedUnique values).Pairwise (· < ·) := by
  have hs : (sortStrings values).Pairwise (· ≤ ·) :=
    pairwise_sortStable (fun _ _ => decide_eq_true_iff) values
  exact ((hs.sublist (dedup_sublist _)).and (nodup_dedup _)).imp fun h => lt_of_le_of_ne h.1 h.2

@[simp] theorem sortedUnique_eq_nil : sortedUnique values = [] ↔ values = [] := by
  constructor
  · intro h
    apply eq_nil_iff_forall_not_mem.mpr
    intro value hv
    have hmem : value ∈ sortedUnique values := mem_sortedUnique.mpr hv
    rw [h] at hmem
    cases hmem
  · rintro rfl
    rfl

end NutOperator.Data
