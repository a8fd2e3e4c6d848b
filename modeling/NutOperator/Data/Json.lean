import Mathlib.Data.Finmap
import Mathlib.Data.Finset.Sort
import Mathlib.Data.String.Basic
import Mathlib.Logic.Encodable.Basic
import Mathlib.Logic.Equiv.List

/-! JSON values, as an encoder lays out structs, slices and string maps. -/
namespace NutOperator.Data

open List

inductive Json where
  | null
  | string (value : String)
  | array (items : List Json)
  | object (fields : List (String × Json))

namespace Json

theorem map_string_injective : Function.Injective (map Json.string) :=
  map_injective_iff.mpr fun _ _ => Json.string.inj

def ofMap (entries : Finmap fun _ : String => String) : Json :=
  .object ((entries.keys.sort (· ≤ ·)).map fun key =>
    (key, .string ((entries.lookup key).getD "")))

theorem ofMap_injective : Function.Injective ofMap := by
  intro left right h
  have hf := Json.object.inj h
  have hkeys : left.keys = right.keys := by
    have hfirst := congrArg (map Prod.fst) hf
    simp only [map_map, Function.comp_def, map_id'] at hfirst
    rw [← Finset.sort_toFinset left.keys (· ≤ ·), hfirst, Finset.sort_toFinset]
  rw [hkeys] at hf
  apply Finmap.ext_lookup
  intro key
  by_cases hmem : key ∈ right.keys
  · have hsame := map_inj_left.mp hf key ((Finset.mem_sort _).mpr hmem)
    have hleft : key ∈ left := Finmap.mem_keys.mp (hkeys ▸ hmem)
    obtain ⟨value, hv⟩ := Finmap.mem_iff.mp hleft
    obtain ⟨other, ho⟩ := Finmap.mem_iff.mp (Finmap.mem_keys.mp hmem)
    simpa [hv, ho] using hsame
  · have hleft : key ∉ left.keys := hkeys ▸ hmem
    rw [Finmap.mem_keys] at hmem hleft
    rw [Finmap.lookup_eq_none.mpr hmem, Finmap.lookup_eq_none.mpr hleft]

def textCode (text : String) : Nat := Encodable.encode (text.toList.map Char.toNat)

mutual

def code : Json → Nat
  | .null => 0
  | .string value => 3 * textCode value + 1
  | .array items => 3 * codeItems items + 2
  | .object fields => 3 * codeFields fields + 3

def codeItems : List Json → Nat
  | [] => 0
  | item :: rest => Nat.pair (code item) (codeItems rest) + 1

def codeFields : List (String × Json) → Nat
  | [] => 0
  | (name, value) :: rest =>
    Nat.pair (Nat.pair (textCode name) (code value)) (codeFields rest) + 1

end

theorem textCode_injective : Function.Injective textCode := by
  intro left right h
  apply String.toList_injective
  have hchars := Encodable.encode_injective h
  exact map_injective_iff.mpr (fun _ _ => Char.toNat_inj.mp) hchars

mutual

theorem code_inj : ∀ {left right : Json}, code left = code right → left = right
  | .null, right, h => by cases right <;> simp [code] at h ⊢
  | .string value, right, h => by
    cases right with
    | string other =>
      simp only [code] at h
      rw [textCode_injective (show textCode value = textCode other by omega)]
    | _ => simp only [code] at h; omega
  | .array items, right, h => by
    cases right with
    | array others =>
      simp only [code] at h
      rw [codeItems_inj (show codeItems items = codeItems others by omega)]
    | _ => simp only [code] at h; omega
  | .object fields, right, h => by
    cases right with
    | object others =>
      simp only [code] at h
      rw [codeFields_inj (show codeFields fields = codeFields others by omega)]
    | _ => simp only [code] at h; omega

theorem codeItems_inj : ∀ {items others : List Json},
    codeItems items = codeItems others → items = others
  | [], others, h => by cases others <;> simp [codeItems] at h ⊢
  | item :: rest, others, h => by
    cases others with
    | nil => simp [codeItems] at h
    | cons other others =>
      simp only [codeItems, Nat.add_right_cancel_iff, Nat.pair_eq_pair] at h
      rw [code_inj h.1, codeItems_inj h.2]

theorem codeFields_inj : ∀ {fields others : List (String × Json)},
    codeFields fields = codeFields others → fields = others
  | [], others, h => by cases others <;> simp [codeFields] at h ⊢
  | (name, value) :: rest, others, h => by
    cases others with
    | nil => simp [codeFields] at h
    | cons other others =>
      obtain ⟨otherName, otherValue⟩ := other
      simp only [codeFields, Nat.add_right_cancel_iff, Nat.pair_eq_pair] at h
      rw [textCode_injective h.1.1, code_inj h.1.2, codeFields_inj h.2]

end

end Json

end NutOperator.Data
