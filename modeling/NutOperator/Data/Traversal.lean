import Mathlib.Data.List.Basic
import Mathlib.Data.List.Induction
import Mathlib.Data.List.Pairwise
import Mathlib.Data.List.Nodup
import Mathlib.Data.List.AList

/-! Loops that remember what they have passed, maps filled by a loop, and
neighbours in an ordered list. -/
namespace NutOperator.Data

open List

def withEarlier (visit : List α → α → List β) : List α → List α → List β
  | _, [] => []
  | earlier, value :: rest => visit earlier value ++ withEarlier visit (earlier ++ [value]) rest

variable {values : List α} {result : β} {key : α → κ} {value : α → Option β} {wanted : κ}

theorem mem_withEarlier {visit : List α → α → List β} {earlier : List α} :
    result ∈ withEarlier visit earlier values ↔
      ∃ before value after, values = before ++ value :: after ∧
        result ∈ visit (earlier ++ before) value := by
  induction values generalizing earlier with
  | nil => simp [withEarlier]
  | cons head tail ih =>
    rw [withEarlier, mem_append, ih]
    constructor
    · rintro (hhead | ⟨before, value, after, rfl, hresult⟩)
      · exact ⟨[], head, tail, rfl, by simpa using hhead⟩
      · exact ⟨head :: before, value, after, rfl, by simpa using hresult⟩
    · rintro ⟨before, value, after, hs, hresult⟩
      cases before with
      | nil =>
        obtain ⟨rfl, rfl⟩ := List.cons.inj hs
        exact .inl (by simpa using hresult)
      | cons head' before =>
        obtain ⟨rfl, rfl⟩ := List.cons.inj hs
        exact .inr ⟨before, value, after, rfl, by simpa using hresult⟩

theorem map_withEarlier_singleton {visit : List α → α → β} (view : β → γ) (key : α → γ)
    (hview : ∀ earlier value, view (visit earlier value) = key value) (earlier values : List α) :
    (withEarlier (fun earlier value => [visit earlier value]) earlier values).map view =
      values.map key := by
  induction values generalizing earlier with
  | nil => rfl
  | cons head tail ih =>
    rw [withEarlier, map_append, ih, map_singleton, hview]
    rfl

/-- A map filled by a loop over keyed values. Later values replace earlier
ones, and a value of `none` sets nothing. -/
def fillMap [DecidableEq κ] (key : α → κ) (value : α → Option β) (values : List α) :
    AList (fun _ : κ => β) :=
  values.foldl (fun filled element =>
      match value element with
      | some result => filled.insert (key element) result
      | none => filled)
    ∅

theorem lookup_fillMap_eq [DecidableEq κ] (wanted : κ) : (fillMap key value values).lookup wanted =
      (values.filterMap fun element => if key element = wanted then value element else
        none).getLast? := by
  induction values using reverseRecOn with
  | nil => exact AList.lookup_empty wanted
  | append_singleton values last ih =>
    rw [fillMap, foldl_append, ← fillMap, filterMap_append]
    by_cases hkey : key last = wanted
    · subst hkey
      cases hset : value last <;> simp [hset, ih]
    · cases hset : value last <;> simp [hkey, hset, ih, AList.lookup_insert_ne (Ne.symm hkey)]

theorem lookup_fillMap_eq_none [DecidableEq κ] (h : wanted ∉ values.map key) :
    (fillMap key value values).lookup wanted = none := by
  rw [lookup_fillMap_eq, filterMap_eq_nil_iff.mpr, getLast?_nil]
  intro element hmem
  exact if_neg fun hkey => h (mem_map.mpr ⟨element, hmem, hkey⟩)

theorem lookup_fillMap_of_forall [DecidableEq κ] (hmem : ∃ element ∈ values, key element = wanted)
    (hsame : ∀ element ∈ values, key element = wanted → value element = some result) :
    (fillMap key value values).lookup wanted = some result := by
  obtain ⟨element, hmem, hkey⟩ := hmem
  rw [lookup_fillMap_eq]
  cases hlast : (values.filterMap fun element =>
      if key element = wanted then value element else none).getLast? with
  | none =>
    have hnone := filterMap_eq_nil_iff.mp (getLast?_eq_none_iff.mp hlast) element hmem
    rw [if_pos hkey, hsame element hmem hkey] at hnone
    cases hnone
  | some last =>
    obtain ⟨other, ho, hv⟩ := mem_filterMap.mp (mem_of_getLast? hlast)
    obtain ⟨hkey, hv⟩ := Option.ite_none_right_eq_some.mp hv
    rw [← hv, hsame other ho hkey]

theorem exists_of_lookup_fillMap [DecidableEq κ]
    (h : (fillMap key value values).lookup wanted = some result) :
    ∃ element ∈ values, value element = some result := by
  rw [lookup_fillMap_eq] at h
  obtain ⟨element, hmem, hv⟩ := mem_filterMap.mp (mem_of_getLast? h)
  exact ⟨element, hmem, (Option.ite_none_right_eq_some.mp hv).2⟩

theorem lookup_fillMap [DecidableEq κ] (hnodup : (values.map key).Nodup) {element : α}
    (helement : element ∈ values) :
    (fillMap key value values).lookup (key element) = value element := by
  have hone : ∀ other ∈ values, key other = key element → other = element :=
    fun other ho hkey => inj_on_of_nodup_map hnodup ho helement hkey
  cases hset : value element with
  | none =>
    rw [lookup_fillMap_eq, filterMap_eq_nil_iff.mpr, getLast?_nil]
    grind
  | some result =>
    exact lookup_fillMap_of_forall ⟨element, helement, rfl⟩ fun other ho hkey =>
      hone other ho hkey ▸ hset

theorem mem_zip_tail {less : α → α → Prop} (hasymm : ∀ x y, less x y → ¬ less y x)
    (hsorted : values.Pairwise less) {first second : α} : (first, second) ∈ values.zip values.tail ↔
      first ∈ values ∧ second ∈ values ∧ less first second ∧
        ∀ between ∈ values, ¬ (less first between ∧ less between second) := by
  have hless : ∀ i j (hi : i < values.length) (hj : j < values.length),
      less values[i] values[j] ↔ i < j := by
    intro i j hi hj
    refine ⟨fun h => ?_, pairwise_iff_getElem.mp hsorted i j hi hj⟩
    by_contra hle
    obtain rfl | hlt := Nat.eq_or_lt_of_not_lt hle
    · exact hasymm _ _ h h
    · exact hasymm _ _ h (pairwise_iff_getElem.mp hsorted j i hj hi hlt)
  simp only [mem_iff_getElem, getElem_zip, getElem_tail, Prod.mk.injEq, length_zip, length_tail]
  constructor
  · rintro ⟨i, hi, rfl, rfl⟩
    refine ⟨⟨i, by omega, rfl⟩, ⟨i + 1, by omega, rfl⟩, (hless _ _ _ _).mpr (by omega), ?_⟩
    rintro _ ⟨j, hj, rfl⟩
    rw [hless, hless]
    omega
  · rintro ⟨⟨i, hi, rfl⟩, ⟨j, hj, rfl⟩, hlt, hb⟩
    have hnext := hb _ ⟨i + 1, by grind, rfl⟩
    rw [hless] at hlt
    rw [hless, hless] at hnext
    obtain rfl : j = i + 1 := by omega
    exact ⟨i, by omega, rfl, rfl⟩

theorem exists_ok_of_bind {first : Except ε α} {rest : α → Except ε β}
    (h : (first >>= rest) = .ok result) : ∃ value, first = .ok value ∧ rest value = .ok result := by
  cases first with
  | error error => cases h
  | ok value => exact ⟨value, rfl, h⟩

theorem eq_ok_of_forM_eq_ok {check : α → Except ε Unit} (h : values.forM check = .ok ()) :
    ∀ value ∈ values, check value = .ok () := by
  induction values with
  | nil => simp
  | cons head tail ih =>
    obtain ⟨passed, hhead, htail⟩ := exists_ok_of_bind
      (show (check head >>= fun _ => tail.forM check) = .ok () from h)
    exact forall_mem_cons.mpr ⟨hhead, ih htail⟩

theorem mapM_eq_ok_of_forall {first second : α → Except ε β}
    (h : ∀ value result, first value = .ok result → second value = .ok result)
    {results : List β} (hresult : values.mapM first = .ok results) :
    values.mapM second = .ok results := by
  induction values generalizing results with
  | nil => exact hresult
  | cons value rest ih =>
    rw [mapM_cons] at hresult ⊢
    obtain ⟨result, hr, hresult⟩ := exists_ok_of_bind hresult
    obtain ⟨others, ho, hresult⟩ := exists_ok_of_bind hresult
    rw [h value result hr, ih ho]
    exact hresult

theorem exists_mem_of_mapM_eq_ok {make : α → Except ε β} {results : List β}
    (h : values.mapM make = .ok results) {value : α} (hmem : value ∈ values) :
    ∃ result ∈ results, make value = .ok result := by
  induction values generalizing results with
  | nil => cases hmem
  | cons first rest ih =>
    rw [mapM_cons] at h
    obtain ⟨made, hmade, h⟩ := exists_ok_of_bind h
    obtain ⟨others, ho, h⟩ := exists_ok_of_bind h
    cases h
    cases mem_cons.mp hmem with
    | inl hf => exact ⟨made, mem_cons_self, hf ▸ hmade⟩
    | inr hrest =>
      obtain ⟨result, hr, hv⟩ := ih ho hrest
      exact ⟨result, mem_cons_of_mem _ hr, hv⟩

end NutOperator.Data
