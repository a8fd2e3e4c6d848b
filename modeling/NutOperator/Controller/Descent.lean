import NutOperator.Controller.Groups

/-! The tier pointer over all wave boundaries of an execution, with halts in between. -/
namespace NutOperator.Controller

open Adaptive Data Execution List

structure Boundary where
  wave : Wave
  remainingPlan : Duration := 0
  observation : PowerObservation
deriving Repr, DecidableEq

inductive PointerEvent where
  | pass (boundary : Boundary)
  | halt
deriving Repr, DecidableEq

def PointerEvent.boundary : PointerEvent → Option Boundary
  | .pass boundary => some boundary
  | .halt => none

def waveTiers (events : List PointerEvent) : List (Option Int) :=
  (events.filterMap (·.boundary)).map (·.wave.shutdownTier)

def passEvent (input : AdaptiveInput) : PointerEvent → AdaptiveInput
  | .pass boundary =>
    let state := waveStateOf input boundary.wave boundary.remainingPlan boundary.observation
    { input with
      pointer := state.pointer, timing := state.timing, observation := state.observation }
  | .halt => { input with pointer := input.pointer.halt }

def passEvents (input : AdaptiveInput) (events : List PointerEvent) : AdaptiveInput :=
  events.foldl passEvent input

theorem passEvents_concat (input : AdaptiveInput) (events : List PointerEvent)
    (event : PointerEvent) :
    passEvents input (events ++ [event]) = passEvent (passEvents input events) event := by
  simp [passEvents]

def occupied (input : AdaptiveInput) (events : List PointerEvent) : Set Int :=
  {tier | ∃ before, before <+: events ∧ (passEvents input before).pointer.started = true ∧
    (passEvents input before).pointer.tier = tier}

def HaltsStarted (input : AdaptiveInput) (events : List PointerEvent) : Prop :=
  ∀ before after, events = before ++ .halt :: after →
    (passEvents input before).pointer.started = true

variable {input : AdaptiveInput} {events : List PointerEvent} {event : PointerEvent}

theorem HaltsStarted.of_concat (h : HaltsStarted input (events ++ [event])) :
    HaltsStarted input events := by
  rintro before after rfl
  exact h before (after ++ [event]) (by simp)

theorem occupied_concat (input : AdaptiveInput) (events : List PointerEvent)
    (event : PointerEvent) :
    occupied input (events ++ [event]) = occupied input events ∪
        {tier | (passEvents input (events ++ [event])).pointer.started = true ∧
          (passEvents input (events ++ [event])).pointer.tier = tier} := by
  ext tier
  simp only [occupied, Set.mem_ofPred_eq, Set.mem_union, prefix_concat_iff]
  constructor
  · rintro ⟨before, rfl | hp, hb⟩
    · exact .inr hb
    · exact .inl ⟨before, hp, hb⟩
  · rintro (⟨before, hp, hb⟩ | hlast)
    · exact ⟨before, .inr hp, hb⟩
    · exact ⟨_, .inl rfl, hlast⟩

section

variable {boundary : Boundary} {tier : Int}

theorem pointer_waveStateOf (input : AdaptiveInput) (wave : Wave) (remainingPlan : Duration)
    (observation : PowerObservation) : (waveStateOf input wave remainingPlan observation).pointer =
      if shouldDescend observation then
        (descendToWaveTier input.pointer wave (finalTier input)).1
      else (input.pointer.ascend (startTier input wave)).1 := by
  cases h : shouldDescend observation <;> simp [waveStateOf, h]

theorem pointer_of_descent (hfinal : 0 < input.finalTier)
    (hpower : shouldDescend boundary.observation = true)
    (htier : boundary.wave.shutdownTier = some tier) (hlimit : input.finalTier ≤ tier) :
    (passEvent input (.pass boundary)).pointer =
      if input.pointer.started then
        (descendTowards tier input.finalTier input.pointer.tier
          (input.pointer.tier - tier).toNat input.pointer
          { origin := input.pointer.tier
            destination := input.pointer.tier
            direction := .hold }).1
      else (({ input.pointer with tier := tier }).descend input.finalTier).1 := by
  have hlast : finalTier input = input.finalTier := if_neg hfinal.not_ge
  rw [passEvent, pointer_waveStateOf, if_pos hpower, hlast, descendToWaveTier, htier]
  cases hs : input.pointer.started <;> simp [hlimit.not_gt, hs]

theorem pointer_of_ascent (hstart : 0 < input.startTier)
    (hpower : shouldDescend boundary.observation = false) :
    (passEvent input (.pass boundary)).pointer = (input.pointer.ascend input.startTier).1 := by
  have hf : startTier input boundary.wave = input.startTier := if_pos hstart
  rw [passEvent, pointer_waveStateOf, hpower, hf]
  rfl

section

variable (hfinal : 0 < input.finalTier) (hstart : 0 < input.startTier)
  (htier : boundary.wave.shutdownTier = some tier) (hlimit : input.finalTier ≤ tier)
include hfinal hstart htier hlimit

theorem pointer_of_fresh (hfresh : input.pointer = {}) :
    (passEvent input (.pass boundary)).pointer =
      if shouldDescend boundary.observation then
        { tier := tier, deepest := tier, started := true }
      else {} := by
  split
  · rename_i hp
    rw [pointer_of_descent hfinal hp htier hlimit, hfresh]
    rfl
  · rename_i hp
    rw [pointer_of_ascent hstart (Bool.eq_false_iff.mpr hp), hfresh]
    rfl

/-- Under lost power a started pointer goes down to the tier of the wave; otherwise it
goes up one tier, and its depth stays. -/
theorem pointer_of_placed (hplaced : input.pointer.Placed input.finalTier input.startTier)
    (hhalted : input.pointer.halted = false) (habove : tier ≤ input.pointer.tier) :
    (passEvent input (.pass boundary)).pointer =
      if shouldDescend boundary.observation then
        { input.pointer with tier := tier, deepest := min input.pointer.deepest tier }
      else { input.pointer with tier := min input.startTier (input.pointer.tier + 1) } := by
  split
  · rename_i hp
    rw [pointer_of_descent hfinal hp htier hlimit, if_pos hplaced.started]
    exact descendTowards_of_placed hfinal hlimit _ hplaced hhalted (by omega)
  · rename_i hp
    rw [pointer_of_ascent hstart (Bool.eq_false_iff.mpr hp)]
    exact hplaced.ascend_eq hfinal hhalted

theorem pointer_of_halted (hplaced : input.pointer.Placed input.finalTier input.startTier)
    (hhalted : input.pointer.halted = true) :
    (passEvent input (.pass boundary)).pointer = input.pointer := by
  cases hp : shouldDescend boundary.observation with
  | true =>
    rw [pointer_of_descent hfinal hp htier hlimit, if_pos hplaced.started]
    exact descendTowards_of_halted hfinal hplaced hhalted _
  | false =>
    rw [pointer_of_ascent hstart hp, hplaced.ascend_of_halted hfinal hhalted]

end

end

/-- What is known of the pointer after a run: it is fresh, or between the tiers of the
plan, with the depth it has reached. -/
structure Tracked (input : AdaptiveInput) (events : List PointerEvent) : Prop where
  finalTier_eq : (passEvents input events).finalTier = input.finalTier
  startTier_eq : (passEvents input events).startTier = input.startTier
  fresh : (passEvents input events).pointer.started = false → (passEvents input events).pointer = {}
  placed : (passEvents input events).pointer.started = true →
    (passEvents input events).pointer.Placed input.finalTier input.startTier
  /-- The pointer is not below all waves so far. -/
  above : (passEvents input events).pointer.started = true →
    ∃ tier, some tier ∈ waveTiers events ∧ tier ≤ (passEvents input events).pointer.tier
  unoccupied : (passEvents input events).pointer.started = false → occupied input events = ∅
  least : (passEvents input events).pointer.started = true →
    IsLeast (occupied input events) (passEvents input events).pointer.deepest

theorem finalTier_passEvent (input : AdaptiveInput) (event : PointerEvent) :
    (passEvent input event).finalTier = input.finalTier := by
  cases event <;> rfl

theorem startTier_passEvent (input : AdaptiveInput) (event : PointerEvent) :
    (passEvent input event).startTier = input.startTier := by
  cases event <;> rfl

theorem tracked_nil (hfresh : input.pointer = {}) : Tracked input [] where
  finalTier_eq := rfl
  startTier_eq := rfl
  fresh := fun _ => hfresh
  placed := by simp [passEvents, hfresh]
  above := by simp [passEvents, hfresh]
  unoccupied := by simp [occupied, passEvents, hfresh]
  least := by simp [passEvents, hfresh]

theorem isLeast_occupied_concat {deepest : Int} (hleast : IsLeast (occupied input events) deepest)
    (hstarted : (passEvents input (events ++ [event])).pointer.started = true) :
    IsLeast (occupied input (events ++ [event]))
      (min deepest (passEvents input (events ++ [event])).pointer.tier) := by
  rw [occupied_concat]
  have hlast : {tier | (passEvents input (events ++ [event])).pointer.started = true ∧
      (passEvents input (events ++ [event])).pointer.tier = tier} =
        {(passEvents input (events ++ [event])).pointer.tier} := by
    ext tier
    simp [hstarted, eq_comm]
  rw [hlast]
  exact hleast.union isLeast_singleton

theorem mem_waveTiers_concat {tier : Option Int} : tier ∈ waveTiers (events ++ [event]) ↔
      tier ∈ waveTiers events ∨ ∃ boundary, event = .pass boundary ∧
        boundary.wave.shutdownTier = tier := by
  cases event <;> simp [waveTiers, PointerEvent.boundary, eq_comm (a := tier)]

/-- The law of the pointer: down to the wave under lost power, up by one tier otherwise. -/
def movedPointer (startTier : Int) (pointer : PointerState) : PointerEvent → PointerState
  | .halt => pointer.halt
  | .pass boundary =>
    let tier := boundary.wave.shutdownTier.getD 0
    if pointer.halted then pointer
    else if shouldDescend boundary.observation then
      { pointer with
        tier := tier, deepest := if pointer.started then min pointer.deepest tier else tier
        started := true }
    else if pointer.started then { pointer with tier := min startTier (pointer.tier + 1) }
    else pointer

def Follows (input : AdaptiveInput) (events : List PointerEvent) : PointerEvent → Prop
  | .pass boundary => ∃ tier, boundary.wave.shutdownTier = some tier ∧ input.finalTier ≤ tier ∧
      tier ≤ input.startTier ∧ ∀ other, some other ∈ waveTiers events → tier ≤ other
  | .halt => (passEvents input events).pointer.started = true

section

theorem Tracked.concat_of_started (htracked : Tracked input events)
    (hstarted : (passEvents input events).pointer.started = true)
    (hplaced : (passEvents input (events ++ [event])).pointer.Placed input.finalTier
      input.startTier)
    (hdeep : (passEvents input (events ++ [event])).pointer.deepest =
      min (passEvents input events).pointer.deepest
        (passEvents input (events ++ [event])).pointer.tier)
    (habove : ∃ tier, some tier ∈ waveTiers (events ++ [event]) ∧
      tier ≤ (passEvents input (events ++ [event])).pointer.tier) :
    Tracked input (events ++ [event]) where
  finalTier_eq := by rw [passEvents_concat, finalTier_passEvent, htracked.finalTier_eq]
  startTier_eq := by rw [passEvents_concat, startTier_passEvent, htracked.startTier_eq]
  fresh := fun h => by simp [hplaced.started] at h
  placed := fun _ => hplaced
  above := fun _ => habove
  unoccupied := fun h => by simp [hplaced.started] at h
  least := fun _ => by
    rw [hdeep]
    exact isLeast_occupied_concat (htracked.least hstarted) hplaced.started

section

variable (hfinal : 0 < input.finalTier) (htracked : Tracked input events)
  (hfollows : Follows input events event)

include hfinal htracked hfollows

theorem Tracked.pointer_concat : (passEvents input (events ++ [event])).pointer =
      movedPointer input.startTier (passEvents input events).pointer event := by
  rw [passEvents_concat]
  cases event with
  | halt => rfl
  | pass boundary =>
    obtain ⟨tier, htier, hlow, hhigh, hbelow⟩ := hfollows
    have hlast := htracked.finalTier_eq
    have hfirst := htracked.startTier_eq
    have hstart : 0 < input.startTier := by omega
    rw [← hlast] at hfinal hlow
    rw [← hfirst] at hstart
    simp only [movedPointer, htier, Option.getD_some]
    cases hstarted : (passEvents input events).pointer.started with
    | false =>
      have hfresh := htracked.fresh hstarted
      rw [pointer_of_fresh hfinal hstart htier hlow hfresh, hfresh]
      rfl
    | true =>
      have hp := htracked.placed hstarted
      rw [← hlast, ← hfirst] at hp
      cases hh : (passEvents input events).pointer.halted with
      | true => exact pointer_of_halted hfinal hstart htier hlow hp hh
      | false =>
        obtain ⟨other, ho, hle⟩ := htracked.above hstarted
        rw [pointer_of_placed hfinal hstart htier hlow hp hh ((hbelow other ho).trans hle), hfirst]
        simp [hstarted, hh]

theorem Tracked.concat_started (hstarted : (passEvents input events).pointer.started = true) :
    let pointer := (passEvents input events).pointer
    let next := (passEvents input (events ++ [event])).pointer
    next.started = true ∧ next.deepest = min pointer.deepest next.tier ∧
      input.finalTier ≤ next.tier ∧ next.tier ≤ input.startTier ∧
      (pointer.tier ≤ next.tier ∨
        ∃ boundary, event = .pass boundary ∧ boundary.wave.shutdownTier = some next.tier) := by
  have hlow := (htracked.placed hstarted).finalTier_le_deepest
  have hdepth := (htracked.placed hstarted).deepest_le_tier
  have hhigh := (htracked.placed hstarted).tier_le_startTier
  simp only [htracked.pointer_concat hfinal hfollows]
  cases event with
  | halt =>
    exact ⟨hstarted, (min_eq_left hdepth).symm, hlow.trans hdepth, hhigh, .inl le_rfl⟩
  | pass boundary =>
    obtain ⟨tier, htier, hlimit, hmost, -⟩ := hfollows
    simp only [movedPointer, htier, Option.getD_some, hstarted, if_true]
    split
    · exact ⟨hstarted, (min_eq_left hdepth).symm, hlow.trans hdepth, hhigh, .inl le_rfl⟩
    · split
      · exact ⟨rfl, rfl, hlimit, hmost, .inr ⟨boundary, rfl, htier⟩⟩
      · have hup : (passEvents input events).pointer.tier ≤
            min input.startTier ((passEvents input events).pointer.tier + 1) := by omega
        have hkept := hdepth.trans hup
        exact ⟨rfl, (min_eq_left hkept).symm, hlow.trans hkept, min_le_left _ _, .inl hup⟩

theorem Tracked.concat_fresh (hfresh : (passEvents input events).pointer.started = false) :
    Tracked input (events ++ [event]) := by
  have hnext := htracked.pointer_concat hfinal hfollows
  have hoccupied := occupied_concat input events event
  cases event with
  | halt => simp [Follows, hfresh] at hfollows
  | pass boundary =>
    obtain ⟨tier, htier, hlimit, hmost, -⟩ := hfollows
    rw [htracked.unoccupied hfresh, Set.empty_union] at hoccupied
    rw [htracked.fresh hfresh] at hnext
    have hlast := htracked.finalTier_eq
    have hfirst := htracked.startTier_eq
    rw [← finalTier_passEvent _ (.pass boundary), ← passEvents_concat] at hlast
    rw [← startTier_passEvent _ (.pass boundary), ← passEvents_concat] at hfirst
    cases hp : shouldDescend boundary.observation with
    | false =>
      replace hnext : (passEvents input (events ++ [.pass boundary])).pointer = {} := by
        rw [hnext, movedPointer, hp]
        rfl
      constructor <;> simp [hnext, hoccupied, hlast, hfirst]
    | true =>
      replace hnext : (passEvents input (events ++ [.pass boundary])).pointer =
          { tier := tier, deepest := tier, started := true } := by
        rw [hnext, movedPointer, hp, htier]
        rfl
      have hplaced : (passEvents input (events ++ [.pass boundary])).pointer.Placed
          input.finalTier input.startTier := by
        rw [hnext]
        exact ⟨rfl, hlimit, le_rfl, hmost⟩
      exact
        { finalTier_eq := hlast
          startTier_eq := hfirst
          fresh := by simp [hnext]
          placed := fun _ => hplaced
          above := fun _ => ⟨tier, mem_waveTiers_concat.mpr (.inr ⟨boundary, rfl, htier⟩),
            by rw [hnext]⟩
          unoccupied := by simp [hnext]
          least := fun _ => by simp [hoccupied, hnext] }

theorem Tracked.concat : Tracked input (events ++ [event]) := by
  cases hs : (passEvents input events).pointer.started with
  | false => exact htracked.concat_fresh hfinal hfollows hs
  | true =>
    obtain ⟨hnext, hdeepest, hlow, hhigh, hplace⟩ := htracked.concat_started hfinal hfollows hs
    have hdeep := (htracked.placed hs).finalTier_le_deepest
    apply htracked.concat_of_started hs _ hdeepest
    · obtain hup | ⟨boundary, rfl, htier⟩ := hplace
      · obtain ⟨other, ho, hle⟩ := htracked.above hs
        exact ⟨other, mem_waveTiers_concat.mpr (.inl ho), hle.trans hup⟩
      · exact ⟨_, mem_waveTiers_concat.mpr (.inr ⟨boundary, rfl, htier⟩), le_rfl⟩
    · refine ⟨hnext, ?_, ?_, hhigh⟩
      · rw [hdeepest]
        exact le_min hdeep hlow
      · rw [hdeepest]
        exact min_le_right _ _

end

variable {tiers : List Int}

theorem waveTiers_of_concat (h : waveTiers (events ++ [event]) <+: tiers.map some) :
    waveTiers events <+: tiers.map some := by
  refine List.IsPrefix.trans ?_ h
  simp [waveTiers]

theorem haltsStarted_of_not_mem (h : .halt ∉ events) : HaltsStarted input events := by
  rintro before after rfl
  exact absurd (mem_append_right _ mem_cons_self) h

variable (hbounds : ∀ tier ∈ tiers, input.finalTier ≤ tier ∧ tier ≤ input.startTier)
  (hdescends : tiers.Pairwise (· ≥ ·))
include hbounds hdescends

theorem follows_of_schedule (hwaves : waveTiers (events ++ [event]) <+: tiers.map some)
    (hhalts : HaltsStarted input (events ++ [event])) : Follows input events event := by
  cases event with
  | halt => exact hhalts events [] rfl
  | pass boundary =>
    obtain ⟨rest, hrest⟩ := hwaves
    have hc : waveTiers (events ++ [.pass boundary]) =
        waveTiers events ++ [boundary.wave.shutdownTier] := by
      simp [waveTiers, PointerEvent.boundary]
    rw [hc, append_assoc, singleton_append, eq_comm, map_eq_append_iff] at hrest
    obtain ⟨before, after, rfl, hb, ha⟩ := hrest
    obtain ⟨tier, later, rfl, htier, -⟩ := map_eq_cons_iff.mp ha
    have hmem : tier ∈ before ++ tier :: later := by simp
    refine ⟨tier, htier.symm, (hbounds tier hmem).1, (hbounds tier hmem).2, ?_⟩
    intro other ho
    rw [← hb, mem_map] at ho
    obtain ⟨earlier, he, heq⟩ := ho
    cases heq
    exact (pairwise_append.mp hdescends).2.2 _ he tier mem_cons_self

variable (hfinal : 0 < input.finalTier) (hfresh : input.pointer = {})
  (hwaves : waveTiers events <+: tiers.map some)
include hfinal hfresh hwaves

theorem tracked_of_schedule (hhalts : HaltsStarted input events) : Tracked input events := by
  induction events using List.reverseRecOn with
  | nil => exact tracked_nil hfresh
  | append_singleton events event ih =>
    exact (ih (waveTiers_of_concat hwaves) hhalts.of_concat).concat hfinal
      (follows_of_schedule hbounds hdescends hwaves hhalts)

theorem halted_of_schedule (hnone : .halt ∉ events) :
    (passEvents input events).pointer.halted = false := by
  induction events using List.reverseRecOn with
  | nil => exact congrArg PointerState.halted hfresh
  | append_singleton events event ih =>
    have he : .halt ∉ events := fun h => hnone (mem_append_left _ h)
    have hb := waveTiers_of_concat hwaves
    have htracked := tracked_of_schedule hbounds hdescends hfinal hfresh hb
      (haltsStarted_of_not_mem he)
    rw [htracked.pointer_concat hfinal
      (follows_of_schedule hbounds hdescends hwaves (haltsStarted_of_not_mem hnone))]
    cases event with
    | halt => exact absurd (mem_append_right _ mem_cons_self) hnone
    | pass boundary =>
      have hh := ih hb he
      simp only [movedPointer, hh, Bool.false_eq_true, if_false]
      split <;> [rfl; split <;> [rfl; exact hh]]

end

theorem compiledTierRange_bounds {waves : List Planner.Wave} {tiers : List Int}
    (htiers : waves.map (·.shutdownTier) = tiers.map some) :
    1 ≤ (compiledTierRange waves).1 ∧ ∀ tier ∈ tiers,
      (compiledTierRange waves).1 ≤ max 1 tier ∧ max 1 tier ≤ (compiledTierRange waves).2 := by
  have hkept : (waves.filterMap fun wave => wave.shutdownTier.map (max 1)) =
      tiers.map (max 1) := by
    calc (waves.filterMap fun wave => wave.shutdownTier.map (max 1))
        = (waves.map (·.shutdownTier)).filterMap (Option.map (max 1)) := by
          rw [filterMap_map]
          rfl
      _ = tiers.map (max 1) := by
          rw [htiers, filterMap_map, ← filterMap_eq_map]
          rfl
  simp only [compiledTierRange, hkept]
  constructor
  · cases hmin : (tiers.map (max 1)).min? with
    | none => simp
    | some last =>
      obtain ⟨tier, -, rfl⟩ := mem_map.mp (List.min?_eq_some_iff.mp hmin).1
      exact le_max_left _ _
  · intro tier hmem
    have hmem := mem_map_of_mem (f := max 1) hmem
    have hsome := ne_nil_of_mem hmem
    obtain ⟨last, hlast⟩ := Option.isSome_iff_exists.mp (isSome_min?_iff.mpr hsome)
    obtain ⟨first, hf⟩ := Option.isSome_iff_exists.mp (isSome_max?_iff.mpr hsome)
    rw [hlast, hf]
    exact ⟨(List.min?_eq_some_iff.mp hlast).2 _ hmem,
      le_max_of_le_right ((List.max?_eq_some_iff.mp hf).2 _ hmem)⟩

/-- After every event of every run in which only a started pointer is halted, as in
every run without halts. -/
theorem pointer_follows_power {flow : ShutdownFlow} {observation : PowerObservation}
    {tiers : List Int} {before : List PointerEvent} {event : PointerEvent}
    (htiers : flow.status.compiledWaves.map (·.shutdownTier) = tiers.map some)
    (hdescending : tiers.Pairwise (· ≥ ·)) (hone : ∀ tier ∈ tiers, 1 ≤ tier)
    (hwaves : waveTiers (before ++ [event]) <+: tiers.map some)
    (hhalts : HaltsStarted (adaptiveInputForFlow flow observation) (before ++ [event])) :
    let input := adaptiveInputForFlow flow observation
    let pointer := (passEvents input before).pointer
    let next := (passEvents input (before ++ [event])).pointer
    (∀ boundary tier, event = .pass boundary → boundary.wave.shutdownTier = some tier →
      shouldDescend boundary.observation = true → pointer.halted = false →
      next.tier = max tier input.finalTier) ∧
    (next.started = true → input.finalTier ≤ next.deepest ∧ next.deepest ≤ next.tier ∧
      next.tier ≤ input.startTier) ∧
    (next.started = true → IsLeast (occupied input (before ++ [event])) next.deepest) ∧
    (pointer.started = true → next.started = true ∧ next.deepest ≤ pointer.deepest) ∧
    (pointer.halted = true → next = pointer) ∧
    (∀ target final origin walker movement, walker.started = true →
      let reached := (descendTowards target final origin (walker.tier - target).toNat walker
        movement).1
      reached.tier ≤ target ∨ (reached.descend final).2.direction ≠ .descend ∨
        (reached.descend final).1.tier = reached.tier) := by
  intro input pointer next
  obtain ⟨hfinal, hrange⟩ := compiledTierRange_bounds htiers
  change 0 < input.finalTier at hfinal
  have hbounds : ∀ tier ∈ tiers, input.finalTier ≤ tier ∧ tier ≤ input.startTier := by
    intro tier hmem
    rw [← max_eq_right (hone tier hmem)]
    exact hrange tier hmem
  have htracked := tracked_of_schedule hbounds hdescending hfinal rfl (waveTiers_of_concat hwaves)
    hhalts.of_concat
  have hfollows := follows_of_schedule hbounds hdescending hwaves hhalts
  have hnext : Tracked input (before ++ [event]) := htracked.concat hfinal hfollows
  have hmoved : next = movedPointer input.startTier pointer event :=
    htracked.pointer_concat hfinal hfollows
  refine ⟨?_, ?_, hnext.least, ?_, ?_, ?_⟩
  · rintro boundary tier rfl htier hp hr
    obtain ⟨_, hsame, hlimit, -⟩ := hfollows
    cases htier.symm.trans hsame
    rw [hmoved, max_eq_left hlimit]
    simp [movedPointer, hr, hp, htier]
  · intro hstarted
    have hplaced := hnext.placed hstarted
    exact ⟨hplaced.finalTier_le_deepest, hplaced.deepest_le_tier, hplaced.tier_le_startTier⟩
  · intro hstarted
    obtain ⟨hstays, hdeep, -⟩ := htracked.concat_started hfinal hfollows hstarted
    exact ⟨hstays, hdeep.trans_le (min_le_left _ _)⟩
  · intro hh
    rw [hmoved]
    cases event with
    | halt => simp [movedPointer, PointerState.halt, ← hh]
    | pass boundary => simp [movedPointer, hh]
  · intro target final origin walker movement hstarted
    exact descendTowards_ends _ walker movement hstarted le_rfl

def twoTierFlow : ShutdownFlow :=
  { name := "rack", spec := {}, status := { compiledWaves :=
      [{ index := 0, shutdownTier := some 5, groups := ["work"] },
        { index := 1, shutdownTier := some 2, groups := ["storage"] }] } }

def passWave (tier : Int) (onBattery : Bool) : PointerEvent :=
  .pass { wave := { index := 0, shutdownTier := some tier }, observation := { onBattery } }

/-- A pointer that was halted at its first tier stays there. -/
theorem halted_pointer_stays :
    let input := adaptiveInputForFlow twoTierFlow {}
    let events := [passWave 5 true, .halt]
    (passEvents input events).pointer.halted = true ∧
      (passEvents input (events ++ [passWave 2 true])).pointer =
        (passEvents input events).pointer := by
  intro input events
  have hh : (passEvents input events).pointer.halted = true := by decide
  have hhalts : HaltsStarted input (events ++ [passWave 2 true]) := by
    intro before after hs
    obtain rfl : before = [passWave 5 true] := by
      rcases before with _ | ⟨first, _ | ⟨second, _ | ⟨third, rest⟩⟩⟩ <;>
        simp_all [events, passWave]
    decide
  have hlaw := @pointer_follows_power twoTierFlow {} [5, 2] events (passWave 2 true) rfl
    (by decide) (by decide) (by decide) hhalts
  exact ⟨hh, hlaw.2.2.2.2.1 hh⟩

end NutOperator.Controller
