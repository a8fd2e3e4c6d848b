import Mathlib.Data.List.Induction
import Mathlib.Order.Bounds.Basic
import Mathlib.Order.Lattice

/-! Timers of conditions that come and go: a timer starts when its condition
begins to hold, runs on while it holds, and is dropped when it ends. -/
namespace NutOperator.Data

open List

variable {κ τ : Type}

def tick (active : κ → Bool) (now : τ) (timers : κ → Option τ) : κ → Option τ :=
  fun key => if active key then some ((timers key).getD now) else none

def starts (timers : κ → Option τ) : Set τ := {start | ∃ key, timers key = some start}

section

variable {active : κ → Bool} {now start : τ} {timers : κ → Option τ} {key : κ}

theorem tick_of_running (hactive : active key = true) (hrunning : timers key = some start) :
    tick active now timers key = some start := by
  simp [tick, hactive, hrunning]

theorem tick_of_new (hactive : active key = true) (hnew : timers key = none) :
    tick active now timers key = some now := by
  simp [tick, hactive, hnew]

@[simp] theorem isSome_tick : (tick active now timers key).isSome = active key := by
  cases ha : active key <;> simp [tick, ha]

end

/-- While no timer is dropped, the earliest start stays the earliest exactly when
no timer is started before it. -/
theorem isLeast_starts_tick [LinearOrder τ] {active : κ → Bool} {now first : τ}
    {timers : κ → Option τ} (hfirst : IsLeast (starts timers) first)
    (hkept : ∀ key, (timers key).isSome → active key = true) :
    IsLeast (starts (tick active now timers)) first ↔
      ∀ key, active key = true → timers key = none → first ≤ now := by
  constructor
  · intro hl key hactive hnew
    exact hl.2 ⟨key, tick_of_new hactive hnew⟩
  · intro hnew
    obtain ⟨⟨key, hkey⟩, hlower⟩ := hfirst
    refine ⟨⟨key, tick_of_running (hkept key (by simp [hkey])) hkey⟩, ?_⟩
    rintro start ⟨other, ho⟩
    have hactive := congrArg Option.isSome ho
    rw [isSome_tick] at hactive
    cases hr : timers other with
    | none =>
      rw [tick_of_new hactive hr] at ho
      exact (Option.some.inj ho) ▸ hnew other hactive hr
    | some begun =>
      rw [tick_of_running hactive hr] at ho
      exact (Option.some.inj ho) ▸ hlower ⟨other, hr⟩

section

variable {ι : Type} {active : ι → κ → Bool} {now : ι → τ} {steps before rest : List ι} {first : ι}
  {start : τ} {key : κ}

def ticks (active : ι → κ → Bool) (now : ι → τ) (steps : List ι) : κ → Option τ :=
  steps.foldl (fun timers step => tick (active step) (now step) timers) fun _ => none

theorem ticks_concat (steps : List ι) (last : ι) : ticks active now (steps ++ [last]) =
      tick (active last) (now last) (ticks active now steps) := by
  simp [ticks]

theorem isSome_ticks : (ticks active now steps key).isSome = true ↔
      ∃ last ∈ steps.getLast?, active last key = true := by
  induction steps using reverseRecOn with
  | nil => simp [ticks]
  | append_singleton steps last => simp [ticks_concat]

theorem foldl_tick_of_running {timers : κ → Option τ} (hrunning : timers key = some start)
    (hactive : ∀ step ∈ rest, active step key = true) :
    rest.foldl (fun timers step => tick (active step) (now step) timers) timers key =
      some start := by
  induction rest generalizing timers with
  | nil => exact hrunning
  | cons step rest ih =>
    rw [forall_mem_cons] at hactive
    exact ih (tick_of_running hactive.1 hrunning) hactive.2

theorem ticks_of_run (hbreak : ∀ last ∈ before.getLast?, active last key = false)
    (hactive : ∀ step ∈ first :: rest, active step key = true) :
    ticks active now (before ++ first :: rest) key = some (now first) := by
  have hnone : ticks active now before key = none := by
    rw [← Option.not_isSome_iff_eq_none, isSome_ticks]
    rintro ⟨last, hlast, hkey⟩
    rw [hbreak last hlast] at hkey
    cases hkey
  rw [forall_mem_cons] at hactive
  rw [ticks, foldl_append, foldl_cons]
  exact foldl_tick_of_running (tick_of_new hactive.1 hnone) hactive.2

/-- A timer tells the first tick of the unbroken run that its condition is in. -/
theorem ticks_eq_some_iff : ticks active now steps key = some start ↔
      ∃ first, now first = start ∧ ∃ before rest, steps = before ++ first :: rest ∧
        (∀ last ∈ before.getLast?, active last key = false) ∧
        ∀ step ∈ first :: rest, active step key = true := by
  constructor
  · induction steps using reverseRecOn with
    | nil => simp [ticks]
    | append_singleton steps last ih =>
      intro hstart
      have hactive := congrArg Option.isSome hstart
      rw [ticks_concat, isSome_tick] at hactive
      cases hbefore : ticks active now steps key with
      | none =>
        rw [ticks_concat, tick_of_new hactive hbefore] at hstart
        refine ⟨last, Option.some.inj hstart, steps, [], rfl, ?_, by simpa using hactive⟩
        intro other ho
        by_contra hkey
        have hsome : (ticks active now steps key).isSome = true :=
          isSome_ticks.mpr ⟨other, ho, Bool.not_eq_false _ ▸ hkey⟩
        rw [hbefore] at hsome
        cases hsome
      | some begun =>
        rw [ticks_concat, tick_of_running hactive hbefore] at hstart
        obtain ⟨first, hf, before, rest, rfl, hbreak, hrun⟩ := ih (hbefore.trans hstart)
        refine ⟨first, hf, before, rest ++ [last], by simp, hbreak, ?_⟩
        intro step hmem
        rcases mem_append.mp (cons_append ▸ hmem) with hmem | hmem
        · exact hrun step hmem
        · rwa [mem_singleton.mp hmem]
  · rintro ⟨first, rfl, before, rest, rfl, hbreak, hrun⟩
    exact ticks_of_run hbreak hrun

end

end NutOperator.Data
