import Mathlib.Data.List.Basic

/-! Texts made of lines. A separator ends a line; a text is closed when its last
line is ended. -/
namespace NutOperator.Data

open List

variable {α : Type} {separator : α} {text line rest : List α}

def Closed (separator : α) (text : List α) : Prop :=
  text = [] ∨ ∃ before, text = before ++ [separator]

theorem closed_nil : Closed separator [] := .inl rfl

theorem closed_append_separator (before : List α) : Closed separator (before ++ [separator]) :=
  .inr ⟨before, rfl⟩

theorem Closed.exists_line (h : Closed separator text) (hne : text ≠ []) :
    ∃ line rest, text = line ++ separator :: rest ∧ separator ∉ line ∧ Closed separator rest := by
  obtain ⟨before, rfl⟩ := h.resolve_left hne
  have hmem : separator ∈ before ++ [separator] := mem_append_right _ mem_cons_self
  obtain ⟨line, rest, hs, hline⟩ := eq_append_cons_of_mem hmem
  refine ⟨line, rest, hs, hline, ?_⟩
  rcases eq_nil_or_concat rest with rfl | ⟨mid, last, rfl⟩
  · exact closed_nil
  · rw [concat_eq_append, ← cons_append, ← append_assoc] at hs
    obtain ⟨-, hlast⟩ := append_inj' hs rfl
    obtain rfl : separator = last := head_eq_of_cons_eq hlast
    rw [concat_eq_append]
    exact closed_append_separator mid

theorem Closed.eq_of_append {before closed left torn : List α} (hbefore : Closed separator before)
    (hclosed : Closed separator closed) (hleft : separator ∉ left) (htorn : separator ∉ torn)
    (h : before ++ left = closed ++ torn) : before = closed ∧ left = torn := by
  have hnil : ∀ {first extra second : List α}, Closed separator (first ++ extra) →
      separator ∉ extra ++ second → extra = [] := by
    intro first extra second hends hnone
    rcases eq_nil_or_concat extra with hnil | ⟨front, last, rfl⟩
    · exact hnil
    · rcases hends with hempty | ⟨whole, hwhole⟩
      · simp at hempty
      · rw [concat_eq_append, ← append_assoc] at hwhole
        obtain rfl : last = separator := by simpa using (append_inj' hwhole rfl).2
        simp at hnone
  rcases append_eq_append_iff.mp h with ⟨extra, rfl, rfl⟩ | ⟨extra, rfl, rfl⟩
  · obtain rfl := hnil hclosed hleft
    simp
  · obtain rfl := hnil hbefore htorn
    simp

theorem prefix_line_cases {part : List α} (h : part <+: line ++ [separator]) :
    part <+: line ∨ part = line ++ [separator] :=
  (prefix_concat_iff.mp h).symm

variable [DecidableEq α]

def firstLine (separator : α) (text : List α) : List α := text.takeWhile (· ≠ separator)

theorem firstLine_append (hline : separator ∉ line) :
    firstLine separator (line ++ separator :: rest) = line := by
  unfold firstLine
  rw [takeWhile_append_of_pos]
  · simp
  · intro element hmem
    simpa using fun heq : element = separator => hline (heq ▸ hmem)

theorem separator_not_mem_firstLine : separator ∉ firstLine separator text := by
  intro h
  simpa using all_eq_true.mp all_takeWhile _ h

theorem take_firstLine (h : (firstLine separator text).length < text.length) :
    text.take ((firstLine separator text).length + 1) =
      firstLine separator text ++ [separator] := by
  induction text with
  | nil => cases h
  | cons head tail ih =>
    by_cases heq : head = separator
    · simp [firstLine, heq]
    · simp_all [firstLine]

end NutOperator.Data
