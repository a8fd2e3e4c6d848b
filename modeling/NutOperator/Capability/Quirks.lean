import Mathlib.Data.Int.ConditionallyCompleteOrder
import Mathlib.Data.List.DropRight
import Mathlib.Data.List.GetD
import Mathlib.Order.ConditionallyCompleteLattice.Basic
import Mathlib.Order.PiLex
import NutOperator.Data.Text
import NutOperator.Planner.Text

/-! The quirks of a capability profile that are in force for the firmware of a
device. Firmware versions are dotted numbers, compared as if padded with zeros. -/
namespace NutOperator.Capability

open Data List
open Planner (Diagnostic quote warningDiagnostic)

structure Device where
  (id firmware : String := "")

structure QuirkFirmware where
  patterns : List String := []
  below : String := ""

structure Quirk where
  name : String
  firmware : Option QuirkFirmware := none

def compareDottedVersions (left right : List Int) : Int :=
  match (range (max left.length right.length)).find? fun i => left.getD i 0 ≠ right.getD i 0 with
  | none => 0
  | some i => if left.getD i 0 < right.getD i 0 then -1 else 1

section

variable (atoi : String → Option Int) (pathMatch : String → String → Option Bool)

def parseDottedVersion (raw : String) : Option (List Int) :=
  let trimmed := trimSpace raw
  if trimmed = "" then none
  else (trimmed.toList.splitOn '.').mapM fun part => (atoi (String.ofList part)).filter (0 ≤ ·)

/-- A build that cannot be placed cannot be shown to be exempt. -/
def quirkAppliesToFirmware (device : Device) (profileID : String) (quirk : Quirk) :
    Bool × Option Diagnostic :=
  match quirk.firmware with
  | none => (true, none)
  | some scope =>
    if scope.patterns = [] ∧ scope.below = "" then (true, none)
    else if device.firmware = "" then
      (true, some (warningDiagnostic "QuirkFirmwareUnknown"
        (s!"device {quote device.id} reports no firmware, so firmware-scoped quirk " ++
          s!"{quote quirk.name} from profile {quote profileID} is applied conservatively")
        device.id))
    else if ∃ pattern ∈ scope.patterns, pattern ≠ "" ∧
        pathMatch pattern device.firmware = some true then (true, none)
    else if scope.below = "" then (false, none)
    else
      match parseDottedVersion atoi device.firmware, parseDottedVersion atoi scope.below with
      | some version, some bound => (compareDottedVersions version bound < 0, none)
      | _, _ =>
        (true, some (warningDiagnostic "QuirkFirmwareNotComparable"
          (s!"quirk {quote quirk.name} from profile {quote profileID} is scoped below firmware " ++
            s!"{quote scope.below} but device {quote device.id} reports " ++
            s!"{quote device.firmware}, which is not a dotted-numeric version; the quirk is " ++
            "applied conservatively") device.id))

end

/-- A version as the sequence of its components, ordered by the first difference. -/
abbrev padded (version : List Int) : Lex (Nat → Int) := toLex (version.getD · 0)

variable {left right : List Int}

theorem padded_eq_iff : padded left = padded right ↔ ∀ i, left.getD i 0 = right.getD i 0 :=
  funext_iff

theorem compareDottedVersions_cases (left right : List Int) :
    compareDottedVersions left right = 0 ∧ padded left = padded right ∨
    compareDottedVersions left right = -1 ∧ padded left < padded right ∨
    compareDottedVersions left right = 1 ∧ padded right < padded left := by
  unfold compareDottedVersions
  split
  · rename_i hnone
    refine .inl ⟨rfl, padded_eq_iff.mpr fun i => ?_⟩
    by_cases hi : i < max left.length right.length
    · simpa using find?_eq_none.mp hnone i (mem_range.mpr hi)
    · rw [getD_eq_default _ _ (by omega), getD_eq_default _ _ (by omega)]
  · rename_i i hsome
    obtain ⟨hd, -, hf⟩ := find?_range_eq_some.mp hsome
    simp only [decide_eq_true_eq, Bool.not_eq_true', decide_eq_false_iff_not, not_not] at hd hf
    split
    · rename_i hlt
      exact .inr (.inl ⟨rfl, i, hf, hlt⟩)
    · rename_i hge
      exact .inr (.inr ⟨rfl, i, fun j hj => (hf j hj).symm,
        lt_of_le_of_ne (not_lt.mp hge) (Ne.symm hd)⟩)

theorem compareDottedVersions_iff (left right : List Int) :
    (compareDottedVersions left right ≤ 0 ↔ padded left ≤ padded right) ∧
      (compareDottedVersions left right < 0 ↔ ¬ padded right ≤ padded left) ∧
      (compareDottedVersions left right = 0 ↔ padded left = padded right) := by
  obtain ⟨hc, h⟩ | ⟨hc, h⟩ | ⟨hc, h⟩ := compareDottedVersions_cases left right
  · simp [hc, h]
  · simp [hc, h.le, h.not_ge, h.ne]
  · simp [hc, h.le, h.not_ge, h.ne']

theorem getD_rdropWhile (version : List Int) (i : Nat) :
    (version.rdropWhile (· = 0)).getD i 0 = version.getD i 0 := by
  induction version using reverseRecOn with
  | nil => rfl
  | append_singleton version last ih =>
    rw [rdropWhile_concat]
    split <;> grind

theorem length_rdropWhile_le (h : padded left = padded right) :
    (left.rdropWhile (· = 0)).length ≤ (right.rdropWhile (· = 0)).length := by
  by_contra hlong
  have hne : left.rdropWhile (· = 0) ≠ [] := ne_nil_of_length_pos (by omega)
  have hlast := rdropWhile_last_not (· = 0) left hne
  have hsame := padded_eq_iff.mp h ((left.rdropWhile (· = 0)).length - 1)
  rw [← getD_rdropWhile, ← getD_rdropWhile right, getD_eq_default (right.rdropWhile _) _ (by omega)]
    at hsame
  rw [getD_eq_getElem _ _ (by omega), ← getLast_eq_getElem hne] at hsame
  exact hlast (decide_eq_true hsame)

theorem rdropWhile_eq_iff :
    left.rdropWhile (· = 0) = right.rdropWhile (· = 0) ↔ padded left = padded right := by
  constructor
  · intro h
    apply padded_eq_iff.mpr
    intro i
    rw [← getD_rdropWhile, h, getD_rdropWhile]
  · intro h
    have hlen := (length_rdropWhile_le h).antisymm (length_rdropWhile_le h.symm)
    apply ext_getElem hlen
    intro i hi hi'
    have hsame := padded_eq_iff.mp h i
    rw [← getD_rdropWhile, ← getD_rdropWhile right] at hsame
    simpa [getD_eq_getElem?_getD, hi, hi'] using hsame

/-- The versions are in a total preorder, up to trailing zeros, and a quirk that is fixed
in some version applies to all before one it applies to. -/
theorem dotted_versions_ordered (atoi : String → Option Int)
    (pathMatch : String → String → Option Bool) :
    (∀ left right, compareDottedVersions left right ≤ 0 ∨ compareDottedVersions right left ≤ 0) ∧
    (∀ first second third, compareDottedVersions first second ≤ 0 →
      compareDottedVersions second third ≤ 0 → compareDottedVersions first third ≤ 0) ∧
    (∀ left right, compareDottedVersions left right = 0 ↔
      left.rdropWhile (· = 0) = right.rdropWhile (· = 0)) ∧
    (∀ left right, compareDottedVersions left right ≤ 0 ∧ compareDottedVersions right left ≤ 0 ↔
      left.rdropWhile (· = 0) = right.rdropWhile (· = 0)) ∧
    ∀ (older newer : Device) (profileID : String) (quirk : Quirk) (scope : QuirkFirmware)
      (version later : List Int), quirk.firmware = some scope → scope.below ≠ "" →
      parseDottedVersion atoi older.firmware = some version →
      parseDottedVersion atoi newer.firmware = some later →
      compareDottedVersions version later ≤ 0 →
      (∀ pattern ∈ scope.patterns, pattern ≠ "" → pathMatch pattern newer.firmware ≠ some true) →
      (quirkAppliesToFirmware atoi pathMatch newer profileID quirk).1 = true →
      (quirkAppliesToFirmware atoi pathMatch older profileID quirk).1 = true := by
  simp only [fun left right => (compareDottedVersions_iff left right).1,
    fun left right => (compareDottedVersions_iff left right).2.2, rdropWhile_eq_iff]
  refine ⟨fun _ _ => le_total _ _, fun _ _ _ => le_trans, fun _ _ => trivial,
    fun _ _ => le_antisymm_iff.symm, ?_⟩
  intro older newer profileID quirk scope version later hscope hbelow hver hl hle hu happlies
  have hunmatched : ¬ ∃ pattern ∈ scope.patterns, pattern ≠ "" ∧
      pathMatch pattern newer.firmware = some true := by grind
  have hnamed : newer.firmware ≠ "" := by
    intro he
    rw [he] at hl
    cases hl
  simp only [quirkAppliesToFirmware, hscope, hbelow, hver, hl, hunmatched, hnamed, and_false,
    if_false] at happlies ⊢
  split_ifs
  · rfl
  · rfl
  · cases hb : parseDottedVersion atoi scope.below with
    | none => rfl
    | some bound =>
      simp only [hb, decide_eq_true_eq, (compareDottedVersions_iff _ _).2.1] at happlies ⊢
      exact fun hbound => happlies (hbound.trans hle)

def fewNumbers (text : String) : Option Int := [("1", 1), ("2", 2), ("10", 10)].lookup text

/-- A fix in version 2 is missing from 1.2 as it is from 1.10. -/
theorem dotted_versions_ordered_before_fix :
    (quirkAppliesToFirmware fewNumbers (fun _ _ => none) ⟨"ups-a", "1.2"⟩ "vendor"
      { name := "calibration", firmware := some { below := "2" } }).1 = true :=
  (dotted_versions_ordered fewNumbers fun _ _ => none).2.2.2.2 ⟨"ups-a", "1.2"⟩
    ⟨"ups-a", "1.10"⟩ "vendor" _ { below := "2" } [1, 2] [1, 10] rfl (by decide) (by decide)
    (by decide) (by decide) (by simp) (by decide)

end NutOperator.Capability
