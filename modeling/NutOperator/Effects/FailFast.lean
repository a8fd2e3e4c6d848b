import Mathlib.Data.List.Basic

/-! Running a list of jobs until one of them stops the rest. Each job leaves an
entry, which names the job and may be a stopping one. Jobs come in stages; a
stage can also be skipped as a whole, which ends the run as well. -/
namespace NutOperator.Effects

open List

/-- `FailFast label stops jobs entries stopped`: the jobs ran in order and left
`entries`, and the run stopped at the last entry exactly when `stopped`. -/
inductive FailFast (label : β → α) (stops : β → Prop) : List α → List β → Bool → Prop where
  | done : FailFast label stops [] [] false
  | stop {entry : β} {later : List α} (hstops : stops entry) :
      FailFast label stops (label entry :: later) [entry] true
  | next {entry : β} {later : List α} {entries : List β} {stopped : Bool}
      (hstops : ¬ stops entry) (hlater : FailFast label stops later entries stopped) :
      FailFast label stops (label entry :: later) (entry :: entries) stopped

inductive Ending (α : Type) where
  | finished
  | stopped
  /-- A stage was skipped on account of one of its jobs. -/
  | skipped (job : α)

def Ending.skips : Ending α → List α
  | .skipped job => [job]
  | _ => []

inductive Staged (label : β → α) (stops : β → Prop) : List (List α) → List β → Ending α → Prop where
  | finish : Staged label stops [] [] .finished
  | stop {stage : List α} {later : List (List α)} {entries : List β}
      (hstage : FailFast label stops stage entries true) :
      Staged label stops (stage :: later) entries .stopped
  | skip {stage : List α} {later : List (List α)} {job : α} (hjob : job ∈ stage) :
      Staged label stops (stage :: later) [] (.skipped job)
  | next {stage : List α} {later : List (List α)} {entries rest : List β} {ending : Ending α}
      (hstage : FailFast label stops stage entries false)
      (hlater : Staged label stops later rest ending) :
      Staged label stops (stage :: later) (entries ++ rest) ending

section

variable {label : β → α} {stops : β → Prop}

namespace FailFast

variable {jobs : List α} {entries : List β}

theorem inOrder {stopped : Bool} (h : FailFast label stops jobs entries stopped) :
    entries.map label <+: jobs := by
  induction h with
  | done => exact prefix_refl []
  | stop hs => simp
  | next hs hl ih => exact (prefix_cons_inj _).mpr ih

theorem eq_of_not_stopped (h : FailFast label stops jobs entries false) :
    entries.map label = jobs ∧ ∀ entry ∈ entries, ¬ stops entry := by
  generalize hs : false = stopped at h
  induction h with
  | done => simp
  | stop hstops => cases hs
  | next hstops hl ih =>
    obtain ⟨hjobs, he⟩ := ih hs
    exact ⟨by rw [map_cons, hjobs], forall_mem_cons.mpr ⟨hstops, he⟩⟩

theorem exists_stops (h : FailFast label stops jobs entries true) :
    ∃ entry ∈ entries, stops entry := by
  generalize hs : true = stopped at h
  induction h with
  | done => cases hs
  | @stop entry _ hstops => exact ⟨entry, mem_singleton_self entry, hstops⟩
  | next hstops hl ih =>
    obtain ⟨entry, hmem, he⟩ := ih hs
    exact ⟨entry, mem_cons_of_mem _ hmem, he⟩

theorem last_of_stops {stopped : Bool} (h : FailFast label stops jobs entries stopped)
    {before after : List β} {entry : β} (hsplit : entries = before ++ entry :: after)
    (hentry : stops entry) : after = [] := by
  induction h generalizing before with
  | done => simp at hsplit
  | stop hstops =>
    cases before with
    | nil =>
      rw [nil_append, List.cons.injEq] at hsplit
      exact hsplit.2.symm
    | cons head tail => simp at hsplit
  | next hstops hl ih =>
    cases before with
    | nil =>
      rw [nil_append, List.cons.injEq] at hsplit
      exact absurd (hsplit.1 ▸ hentry) hstops
    | cons head tail =>
      rw [cons_append, List.cons.injEq] at hsplit
      exact ih hsplit.2

end FailFast

namespace Staged

variable {stages : List (List α)} {entries : List β} {ending : Ending α}

theorem inOrder (h : Staged label stops stages entries ending) :
    entries.map label <+: stages.flatten := by
  induction h with
  | finish => exact prefix_refl []
  | stop hs => exact hs.inOrder.trans (prefix_append _ _)
  | skip hjob => exact nil_prefix
  | next hs hl ih =>
    rw [map_append, hs.eq_of_not_stopped.1, flatten_cons]
    exact (prefix_append_right_inj _).mpr ih

theorem exists_stops (h : Staged label stops stages entries .stopped) :
    ∃ entry ∈ entries, stops entry := by
  generalize he : Ending.stopped = ending at h
  induction h with
  | stop hs => exact hs.exists_stops
  | next hs hl ih =>
    obtain ⟨entry, hmem, hentry⟩ := ih he
    exact ⟨entry, mem_append_right _ hmem, hentry⟩
  | _ => cases he

theorem not_stops (h : Staged label stops stages entries ending) (hending : ending ≠ .stopped) :
    ∀ entry ∈ entries, ¬ stops entry := by
  induction h with
  | finish => simp
  | stop hs => exact absurd rfl hending
  | skip hjob => simp
  | next hs hl ih => exact forall_mem_append.mpr ⟨hs.eq_of_not_stopped.2, ih hending⟩

theorem last_of_stops (h : Staged label stops stages entries ending) {before after : List β}
    {entry : β} (hsplit : entries = before ++ entry :: after) (hentry : stops entry) :
    after = [] := by
  induction h generalizing before with
  | stop hs => exact hs.last_of_stops hsplit hentry
  | next hs hl ih =>
    rcases append_eq_append_iff.mp hsplit with ⟨rest, rfl, hrest⟩ | ⟨rest, hf, hrest⟩
    · exact ih hrest
    · cases rest with
      | nil => exact ih (show _ = [] ++ entry :: after from hrest.symm)
      | cons head tail =>
        rw [cons_append, List.cons.injEq] at hrest
        refine absurd hentry (hs.eq_of_not_stopped.2 entry ?_)
        rw [hf, hrest.1]
        simp
  | _ => simp at hsplit

/-- A skipped stage ran nothing, and the stages before it ran completely. -/
theorem of_skipped {job : α} (h : Staged label stops stages entries (.skipped job)) :
    ∃ earlier stage later, stages = earlier ++ stage :: later ∧ job ∈ stage ∧
      entries.map label = earlier.flatten := by
  generalize he : Ending.skipped job = ending at h
  induction h with
  | @skip stage later _ hjob =>
    cases he
    exact ⟨[], stage, later, rfl, hjob, rfl⟩
  | @next first _ _ _ _ hs hl ih =>
    obtain ⟨earlier, stage, later, hstaged, hjob, hentities⟩ := ih he
    refine ⟨first :: earlier, stage, later, by rw [hstaged, cons_append], hjob, ?_⟩
    rw [map_append, hs.eq_of_not_stopped.1, hentities, flatten_cons]
  | _ => cases he

/-- A run finished exactly when every job ran and none of them stopped it. -/
theorem finished_iff (h : Staged label stops stages entries ending) : ending = .finished ↔
      entries.map label = stages.flatten ∧ ∀ entry ∈ entries, ¬ stops entry := by
  constructor
  · rintro rfl
    refine ⟨?_, h.not_stops (by simp)⟩
    generalize he : Ending.finished = ending at h
    induction h with
    | finish => rfl
    | next hs hl ih =>
      rw [map_append, hs.eq_of_not_stopped.1, ih he, flatten_cons]
    | _ => cases he
  · rintro ⟨hall, hstops⟩
    cases ending with
    | finished => rfl
    | stopped =>
      obtain ⟨entry, hmem, hentry⟩ := h.exists_stops
      exact absurd hentry (hstops entry hmem)
    | skipped job =>
      obtain ⟨earlier, stage, later, rfl, hjob, hearlier⟩ := h.of_skipped
      have hnil : stage ++ later.flatten = [] := by
        rw [hearlier, flatten_append, flatten_cons] at hall
        simpa using hall
      rw [(append_eq_nil_iff.mp hnil).1] at hjob
      simp at hjob

end Staged

end

end NutOperator.Effects
