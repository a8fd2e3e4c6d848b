import Mathlib.Data.List.Basic

/-! A latch holds one key. Work for a key is started unless the latch holds that
key, and then the latch holds it. -/
namespace NutOperator.Data

open List

variable {κ : Type}

inductive Turn (κ : Type) where
  | skip
  | clear
  /-- Work for a key is asked for, and it can be started or not. -/
  | want (key : κ) (able : Bool)
deriving Repr, DecidableEq

def Turn.next (held : Option κ) : Turn κ → Option κ
  | .skip => held
  | .clear => none
  | .want key able => if able then some key else held

variable [DecidableEq κ]

def Turn.start (held : Option κ) : Turn κ → Option κ
  | .want key able => if able ∧ held ≠ some key then some key else none
  | _ => none

def latchRun : Option κ → List (Turn κ) → List κ
  | _, [] => []
  | held, turn :: rest => (turn.start held).toList ++ latchRun (turn.next held) rest

def Turn.KeepsTo (key : κ) (turn : Turn κ) : Prop := turn = .skip ∨ ∃ able, turn = .want key able

def Turn.Releases (key : κ) (turn : Turn κ) : Prop :=
  turn = .clear ∨ ∃ other, other ≠ key ∧ turn = .want other true

section

variable {key : κ} {held : Option κ} {turns : List (Turn κ)}

theorem latchRun_of_held (h : ∀ turn ∈ turns, turn.KeepsTo key) :
    latchRun (some key) turns = [] := by
  induction turns with
  | nil => rfl
  | cons turn rest ih =>
    have hrest := ih fun other hmem => h other (mem_cons_of_mem _ hmem)
    rcases h turn mem_cons_self with rfl | ⟨able, rfl⟩
    all_goals simpa [latchRun, Turn.start, Turn.next] using hrest

theorem length_latchRun_le_one (h : ∀ turn ∈ turns, turn.KeepsTo key) :
    (latchRun held turns).length ≤ 1 := by
  induction turns generalizing held with
  | nil => simp [latchRun]
  | cons turn rest ih =>
    have hkept : ∀ other ∈ rest, other.KeepsTo key := fun other hmem =>
      h other (mem_cons_of_mem _ hmem)
    rcases h turn mem_cons_self with rfl | ⟨able, rfl⟩
    · simpa [latchRun, Turn.start, Turn.next] using ih hkept
    · cases able with
      | false => simpa [latchRun, Turn.start, Turn.next] using ih hkept
      | true =>
        simp only [latchRun, Turn.next, if_true, latchRun_of_held hkept, append_nil]
        cases Turn.start held (.want key true) <;> simp

theorem mem_latchRun_of_ne (h : held ≠ some key) :
    key ∈ latchRun held turns ↔ Turn.want key true ∈ turns := by
  induction turns generalizing held with
  | nil => simp [latchRun]
  | cons turn rest ih =>
    rw [latchRun, mem_append, mem_cons]
    cases turn with
    | skip => simp [Turn.start, Turn.next, ih h]
    | clear => simp [Turn.start, Turn.next, ih]
    | want other able =>
      by_cases ho : other = key
      · subst ho
        cases able with
        | false => simp [Turn.start, Turn.next, ih h]
        | true => simp [Turn.start, h]
      · have hne : key ≠ other := Ne.symm ho
        cases able with
        | false => simp [Turn.start, Turn.next, ih h]
        | true =>
          rw [Turn.next, if_pos rfl, ih (by simp [ho])]
          by_cases hheld : held = some other <;> simp [Turn.start, hheld, hne]

theorem Turn.Releases.next_ne {turn : Turn κ} (h : turn.Releases key) :
    turn.next held ≠ some key ∧ turn.start held ≠ some key := by
  rcases h with rfl | ⟨other, ho, rfl⟩
  · simp [Turn.next, Turn.start]
  · by_cases hheld : held = some other <;> simp [Turn.next, Turn.start, ho, hheld]

theorem Turn.next_of_not_releases {turn : Turn κ} (h : ¬ turn.Releases key) :
    turn.next (some key) = some key ∧ turn.start (some key) = none := by
  cases turn with
  | skip => exact ⟨rfl, rfl⟩
  | clear => exact absurd (.inl rfl) h
  | want other able =>
    cases able with
    | false => exact ⟨rfl, by simp [Turn.start]⟩
    | true =>
      obtain rfl : other = key := by
        by_contra ho
        exact h (.inr ⟨other, ho, rfl⟩)
      simp [Turn.next, Turn.start]

/-- Work is started again exactly when a turn releases the key and a later turn can
start it. -/
theorem mem_latchRun_of_held : key ∈ latchRun (some key) turns ↔
      ∃ turn, turn.Releases key ∧ [turn, .want key true].Sublist turns := by
  induction turns with
  | nil => simp [latchRun]
  | cons turn rest ih =>
    rw [latchRun, mem_append, Option.mem_toList]
    by_cases hreleases : turn.Releases key
    · obtain ⟨hnext, hstart⟩ : turn.next (some key) ≠ some key ∧ turn.start (some key) ≠ some key :=
        hreleases.next_ne
      rw [mem_latchRun_of_ne hnext, ← singleton_sublist]
      constructor
      · rintro (hmem | hwant)
        · exact absurd hmem hstart
        · exact ⟨turn, hreleases, hwant.cons_cons turn⟩
      · rintro ⟨other, -, hlater⟩
        exact .inr hlater.tail
    · obtain ⟨hnext, hstart⟩ := Turn.next_of_not_releases hreleases
      rw [hnext, hstart, ih]
      constructor
      · rintro (hmem | ⟨other, ho, hlater⟩)
        · cases hmem
        · exact ⟨other, ho, hlater.cons turn⟩
      · rintro ⟨other, ho, hlater⟩
        rcases sublist_cons_iff.mp hlater with hlater | ⟨tail, heq, -⟩
        · exact .inr ⟨other, ho, hlater⟩
        · exact absurd ((List.cons.inj heq).1 ▸ ho) hreleases

theorem Turn.next_ne_of_ne {turn : Turn κ} (hturn : turn ≠ .want key true)
    (h : held ≠ some key) : turn.next held ≠ some key ∧ turn.start held ≠ some key := by
  cases turn with
  | skip => simpa [Turn.next, Turn.start] using h
  | clear => simp [Turn.next, Turn.start]
  | want other able =>
    cases able with
    | false => simpa [Turn.next, Turn.start] using h
    | true =>
      have ho : other ≠ key := fun heq => hturn (heq ▸ rfl)
      exact Turn.Releases.next_ne (.inr ⟨other, ho, rfl⟩)

/-- Work for a key that is not held is started twice exactly when a turn that can
start it comes before, and another one after, a turn that releases the key. -/
theorem two_le_count_latchRun (h : held ≠ some key) : 2 ≤ (latchRun held turns).count key ↔
      ∃ turn, turn.Releases key ∧ [.want key true, turn, .want key true].Sublist turns := by
  induction turns generalizing held with
  | nil => simp [latchRun]
  | cons turn rest ih =>
    rw [latchRun, count_append]
    by_cases hwant : turn = .want key true
    · subst hwant
      have hs : (Turn.want key true).start held = some key := by simp [Turn.start, h]
      have hnext : (Turn.want key true).next held = some key := by simp [Turn.next]
      have hone : (some key).toList.count key = 1 := by simp
      rw [hs, hnext, hone, Nat.add_comm, Nat.succ_le_succ_iff,
        one_le_count_iff, mem_latchRun_of_held]
      exact exists_congr fun turn => and_congr_right fun _ => ⟨fun hl => hl.cons_cons _,
        fun hl => hl.tail⟩
    · obtain ⟨hnext, hs⟩ := Turn.next_ne_of_ne hwant h
      have hnone : (turn.start held).toList.count key = 0 :=
        count_eq_zero.mpr fun hmem => hs (Option.mem_toList.mp hmem)
      rw [hnone, Nat.zero_add, ih hnext]
      refine exists_congr fun other => and_congr_right fun _ => ⟨fun hl => hl.cons _,
        fun hl => ?_⟩
      rcases sublist_cons_iff.mp hl with hl | ⟨tail, heq, -⟩
      · exact hl
      · exact absurd (List.cons.inj heq).1.symm hwant

theorem two_le_count_latchRun_map {σ : Type} {steps : List σ} {turn : σ → Turn κ}
    (h : held ≠ some key) :
    2 ≤ (latchRun held (steps.map turn)).count key ↔
      ∃ first releasing last, [first, releasing, last].Sublist steps ∧
        turn first = .want key true ∧ (turn releasing).Releases key ∧
        turn last = .want key true := by
  rw [two_le_count_latchRun h]
  constructor
  · rintro ⟨released, hreleases, hturns⟩
    obtain ⟨found, hf, heq⟩ := sublist_map_iff.mp hturns
    obtain ⟨first, others, rfl, hfirst, ho⟩ := map_eq_cons_iff.mp heq.symm
    obtain ⟨releasing, lasts, rfl, hr, hlasts⟩ := map_eq_cons_iff.mp ho
    obtain ⟨last, rfl, hlast⟩ := map_eq_singleton_iff.mp hlasts
    subst hr
    exact ⟨first, releasing, last, hf, hfirst, hreleases, hlast⟩
  · rintro ⟨first, releasing, last, hf, hfirst, hreleases, hlast⟩
    have hturns := hf.map turn
    simp only [map_cons, map_nil, hfirst, hlast] at hturns
    exact ⟨turn releasing, hreleases, hturns⟩

end

end NutOperator.Data
