import NutOperator.Controller.Descent

/-! What the movements of the tier pointer report: which descents are said to enter a
tier again. -/
namespace NutOperator.Controller

open Adaptive Data Execution List

def Boundary.movement (input : AdaptiveInput) (boundary : Boundary) : PointerMovement :=
  (waveStateOf input boundary.wave boundary.remainingPlan boundary.observation).movement

theorem movement_eq (input : AdaptiveInput) (boundary : Boundary) : boundary.movement input =
      if shouldDescend boundary.observation then
        (descendToWaveTier input.pointer boundary.wave (finalTier input)).2
      else (input.pointer.ascend (startTier input boundary.wave)).2 := by
  cases h : shouldDescend boundary.observation <;> simp [Boundary.movement, waveStateOf, h]

theorem ascend_reports (ptr : PointerState) (startTier : Int) :
    (ptr.ascend startTier).2.reexecution = false ∧
      (ptr.ascend startTier).2.direction ≠ .descend := by
  simp only [PointerState.ascend]
  split <;> simp [PointerState.holding]

section

variable {input : AdaptiveInput} {events : List PointerEvent} {boundary : Boundary} {tier : Int}

section

variable (htracked : ∀ before, before <+: events → Tracked input before)
  (hbelow : ∀ other, some other ∈ waveTiers events → tier ≤ other)
include htracked hbelow

theorem le_of_occupied {place : Int} (hplace : place ∈ occupied input events) : tier ≤ place := by
  obtain ⟨before, hp, hs, rfl⟩ := hplace
  obtain ⟨other, ho, hle⟩ := (htracked before hp).above hs
  obtain ⟨rest, rfl⟩ := hp
  have hmem : some other ∈ waveTiers (before ++ rest) := by
    rw [waveTiers, filterMap_append, map_append]
    exact mem_append_left _ ho
  exact (hbelow other hmem).trans hle

theorem mem_occupied_iff (hstarted : (passEvents input events).pointer.started = true) :
    tier ∈ occupied input events ↔ (passEvents input events).pointer.deepest = tier := by
  have hl := (htracked events prefix_rfl).least hstarted
  constructor
  · intro hmem
    exact le_antisymm (hl.2 hmem) (le_of_occupied htracked hbelow hl.1)
  · intro hdeep
    rw [← hdeep]
    exact hl.1

end

section

variable (hfinal : 0 < input.finalTier) (hpower : shouldDescend boundary.observation = true)
  (htier : boundary.wave.shutdownTier = some tier) (hlimit : input.finalTier ≤ tier)
include hfinal hpower htier hlimit

theorem movement_of_fresh (hfresh : input.pointer = {}) :
    boundary.movement input = { origin := tier, destination := tier, direction := .descend } := by
  have hlast : finalTier input = input.finalTier := if_neg hfinal.not_ge
  rw [movement_eq, if_pos hpower, hlast, descendToWaveTier, htier, hfresh]
  simp [not_lt.mpr hlimit, PointerState.descend, PointerState.normalize]

theorem movement_of_placed (hplaced : input.pointer.Placed input.finalTier input.startTier)
    (hhalted : input.pointer.halted = false) (habove : tier ≤ input.pointer.tier) :
    boundary.movement input =
      if tier < input.pointer.tier then
        { origin := input.pointer.tier
          destination := tier
          direction := .descend
          reexecution := input.pointer.deepest < input.pointer.tier }
      else input.pointer.holding := by
  have hlast : finalTier input = input.finalTier := if_neg hfinal.not_ge
  rw [movement_eq, if_pos hpower, hlast, descendToWaveTier, htier]
  simp only [hplaced.started, not_lt.mpr hlimit, Bool.not_true, Bool.false_eq_true, if_false]
  split
  · rename_i hm
    obtain ⟨steps, hs⟩ : ∃ steps : Nat, input.pointer.tier = tier + (steps + 1) :=
      ⟨(input.pointer.tier - tier - 1).toNat, by omega⟩
    have hc : (input.pointer.tier - tier).toNat = steps + 1 := by omega
    rw [hc, movement_descendTowards_of_placed hfinal hlimit steps hplaced hhalted hs]
    rfl
  · have hc : (input.pointer.tier - tier).toNat = 0 := by omega
    rw [hc, descendTowards]
    rfl

end

/-- A descent is said to enter a tier again when it begins above the depth reached
before; the tier was in fact entered before when it is that depth. -/
theorem reentry_of_tracked (hfinal : 0 < input.finalTier)
    (htracked : ∀ before, before <+: events → Tracked input before)
    (htier : boundary.wave.shutdownTier = some tier) (hlimit : input.finalTier ≤ tier)
    (hbelow : ∀ other, some other ∈ waveTiers events → tier ≤ other)
    (hhalted : (passEvents input events).pointer.halted = false) :
    let pointer := (passEvents input events).pointer
    let movement := boundary.movement (passEvents input events)
    let descends := shouldDescend boundary.observation = true ∧ pointer.started = true ∧
      tier < pointer.tier
    (movement.reexecution = true ↔ descends ∧ pointer.deepest < pointer.tier) ∧
    ((movement.direction = .descend ∧ movement.destination ∈ occupied input events) ↔
      descends ∧ pointer.deepest = tier) := by
  intro pointer movement descends
  have hlater := htracked events prefix_rfl
  cases hpower : shouldDescend boundary.observation with
  | false =>
    have hr := ascend_reports pointer (startTier (passEvents input events) boundary.wave)
    have hmove : movement = (pointer.ascend (startTier (passEvents input events)
        boundary.wave)).2 := by
      rw [show movement = _ from movement_eq _ _, hpower]
      rfl
    rw [hmove]
    simp [descends, hpower, hr]
  | true =>
    have hlast := hlater.finalTier_eq
    rw [← hlast] at hfinal hlimit
    cases hstarted : pointer.started with
    | false =>
      have hmove : movement = _ := movement_of_fresh hfinal hpower htier hlimit
        (hlater.fresh hstarted)
      rw [hmove]
      simp [descends, hstarted, hlater.unoccupied hstarted]
    | true =>
      have hp := hlater.placed hstarted
      obtain ⟨other, ho, hle⟩ := hlater.above hstarted
      have habove : tier ≤ pointer.tier := (hbelow other ho).trans hle
      rw [← hlast, ← hlater.startTier_eq] at hp
      have hmove : movement = _ := movement_of_placed hfinal hpower htier hlimit hp hhalted habove
      rw [hmove]
      by_cases hm : tier < pointer.tier
      · rw [if_pos hm]
        simp [descends, hpower, hstarted, hm, mem_occupied_iff htracked hbelow hstarted, pointer]
      · rw [if_neg hm]
        simp [descends, hm, PointerState.holding]

end

def Boundary.clamp (final : Int) (boundary : Boundary) : Boundary :=
  { boundary with
    wave := { boundary.wave with shutdownTier := boundary.wave.shutdownTier.map (max final) } }

section

variable {input : AdaptiveInput}

theorem waveStateOf_clamp (hfinal : 0 < input.finalTier) (hstart : 0 < input.startTier)
    (boundary : Boundary) :
    waveStateOf input (boundary.clamp input.finalTier).wave boundary.remainingPlan
        boundary.observation =
      waveStateOf input boundary.wave boundary.remainingPlan boundary.observation := by
  have hlast : finalTier input = input.finalTier := if_neg hfinal.not_ge
  have hdescends : descendToWaveTier input.pointer (boundary.clamp input.finalTier).wave
      input.finalTier = descendToWaveTier input.pointer boundary.wave input.finalTier := by
    unfold descendToWaveTier Boundary.clamp
    cases boundary.wave.shutdownTier with
    | none => rfl
    | some tier =>
      have ht : (if max input.finalTier tier < input.finalTier then input.finalTier
          else max input.finalTier tier) = if tier < input.finalTier then input.finalTier
          else tier := by omega
      simp only [Option.map_some, ht]
  simp only [waveStateOf, hlast, hdescends, startTier, if_pos hstart]

theorem passEvents_clamp (hfinal : 0 < input.finalTier) (hstart : 0 < input.startTier)
    (boundaries : List Boundary) :
    passEvents input (boundaries.map fun boundary => .pass (boundary.clamp input.finalTier)) =
      passEvents input (boundaries.map .pass) := by
  induction boundaries generalizing input with
  | nil => rfl
  | cons boundary rest ih =>
    have hf : passEvent input (.pass (boundary.clamp input.finalTier)) =
        passEvent input (.pass boundary) := by
      have hs := waveStateOf_clamp hfinal hstart boundary
      simp only [passEvent]
      rw [show (boundary.clamp input.finalTier).remainingPlan = boundary.remainingPlan from rfl,
        show (boundary.clamp input.finalTier).observation = boundary.observation from rfl, hs]
    have hrest := @ih (passEvent input (.pass boundary)) hfinal hstart
    rw [finalTier_passEvent] at hrest
    change passEvents (passEvent input _) _ = passEvents (passEvent input _) _
    rw [hf, hrest]

variable {events : List PointerEvent}

theorem mem_occupied_iff_take {tier : Int} : tier ∈ occupied input events ↔
      ∃ count, (passEvents input (events.take count)).pointer.started = true ∧
        (passEvents input (events.take count)).pointer.tier = tier := by
  constructor
  · intro h
    obtain ⟨before, hp, hplace⟩ := h
    rw [prefix_iff_eq_take.mp hp] at hplace
    exact ⟨before.length, hplace⟩
  · intro h
    obtain ⟨count, hplace⟩ := h
    exact ⟨events.take count, take_prefix _ _, hplace⟩

theorem occupied_clamp (hfinal : 0 < input.finalTier) (hstart : 0 < input.startTier)
    (boundaries : List Boundary) :
    occupied input (boundaries.map fun boundary => .pass (boundary.clamp input.finalTier)) =
      occupied input (boundaries.map .pass) := by
  ext tier
  simp only [mem_occupied_iff_take, ← map_take, passEvents_clamp hfinal hstart]

theorem waveTiers_clamp (final : Int) (boundaries : List Boundary) :
    waveTiers (boundaries.map fun boundary => .pass (boundary.clamp final)) =
      (boundaries.map (·.wave.shutdownTier)).map (Option.map (max final)) := by
  simp [waveTiers, filterMap_map, PointerEvent.boundary, Boundary.clamp, Function.comp_def]

theorem waveTiers_clamped {tiers : List Int} {final : Int} {boundaries : List Boundary}
    (hwaves : boundaries.map (·.wave.shutdownTier) <+: tiers.map some)
    (hevent : events <+: boundaries.map fun boundary => .pass (boundary.clamp final)) :
    waveTiers events <+: (tiers.map (max final)).map some := by
  have hall := hwaves.map (Option.map (max final))
  rw [← waveTiers_clamp, map_map] at hall
  rw [map_map]
  exact ((hevent.filterMap _).map _).trans hall

theorem halt_not_mem_clamp {final : Int} {boundaries : List Boundary}
    (hevent : events <+: boundaries.map fun boundary => .pass (boundary.clamp final)) :
    .halt ∉ events := by
  intro hmem
  obtain ⟨boundary, _, hpass⟩ := mem_map.mp (hevent.subset hmem)
  cases hpass

theorem pairwise_clamp {tiers : List Int} (hdescends : tiers.Pairwise (· ≥ ·)) (final : Int) :
    (tiers.map (max final)).Pairwise (· ≥ ·) := by
  rw [pairwise_map]
  exact hdescends.imp fun h => max_le_max_left _ h

end

theorem clamped_bounds {waves : List Planner.Wave} {tiers : List Int}
    (htiers : waves.map (·.shutdownTier) = tiers.map some) :
    0 < (compiledTierRange waves).1 ∧ 0 < (compiledTierRange waves).2 ∧
      ∀ tier ∈ tiers.map (max (compiledTierRange waves).1),
        (compiledTierRange waves).1 ≤ tier ∧ tier ≤ (compiledTierRange waves).2 := by
  obtain ⟨hone, hb⟩ := compiledTierRange_bounds htiers
  have hrange : (compiledTierRange waves).1 ≤ (compiledTierRange waves).2 := le_max_left _ _
  refine ⟨hone, by omega, ?_⟩
  intro tier hmem
  obtain ⟨declared, hd, rfl⟩ := mem_map.mp hmem
  have hd := (hb declared hd).2
  omega

/-- A boundary reports truthfully whether its tier was entered before, unless it goes down
past the depth reached from a place above it. -/
theorem reentry_reported_iff (flow : ShutdownFlow) (observation : PowerObservation)
    (tiers : List Int) (htiers : flow.status.compiledWaves.map (·.shutdownTier) = tiers.map some)
    (hdescending : tiers.Pairwise (· ≥ ·)) (before : List Boundary) (boundary : Boundary)
    (hwaves : (before ++ [boundary]).map (·.wave.shutdownTier) <+: tiers.map some) :
    let input := adaptiveInputForFlow flow observation
    let entered := passEvents input (before.map .pass)
    let movement := boundary.movement entered
    let target := max input.finalTier (boundary.wave.shutdownTier.getD 0)
    ((movement.reexecution = true ↔
        movement.direction = .descend ∧
          movement.destination ∈ occupied input (before.map .pass)) ↔
      ¬ (shouldDescend boundary.observation = true ∧ entered.pointer.started = true ∧
        target < entered.pointer.deepest ∧ entered.pointer.deepest < entered.pointer.tier)) := by
  intro input entered movement target
  obtain ⟨hfinal, hstart, hbounds⟩ := clamped_bounds htiers
  change 0 < input.finalTier at hfinal
  change 0 < input.startTier at hstart
  change ∀ tier ∈ tiers.map (max input.finalTier),
    input.finalTier ≤ tier ∧ tier ≤ input.startTier at hbounds
  -- A wave below the last tier moves the pointer like one at it.
  have henters : passEvents input (before.map fun boundary =>
      .pass (boundary.clamp input.finalTier)) = entered := passEvents_clamp hfinal hstart before
  let passes := before.map fun boundary =>
    PointerEvent.pass (boundary.clamp input.finalTier)
  have hwhole : passes ++ [.pass (boundary.clamp input.finalTier)] <+:
      (before ++ [boundary]).map fun boundary =>
        PointerEvent.pass (boundary.clamp input.finalTier) := by
    rw [List.map_append]
    exact List.prefix_rfl
  have htracked : ∀ events, events <+: passes → Tracked input events := by
    intro events he
    have hinitial := he.trans ((List.prefix_append _ _).trans hwhole)
    exact tracked_of_schedule hbounds (pairwise_clamp hdescending _) hfinal rfl
      (waveTiers_clamped hwaves hinitial) (haltsStarted_of_not_mem (halt_not_mem_clamp hinitial))
  have hlater := htracked passes List.prefix_rfl
  obtain ⟨tier, htier, hlimit, _, hbelow⟩ :=
    follows_of_schedule hbounds (pairwise_clamp hdescending _)
      (waveTiers_clamped hwaves hwhole) (haltsStarted_of_not_mem (halt_not_mem_clamp hwhole))
  have hlast : entered.finalTier = input.finalTier := henters ▸ hlater.finalTier_eq
  have hf : entered.startTier = input.startTier := henters ▸ hlater.startTier_eq
  have htarget : target = tier := by
    obtain ⟨declared, hd, hmax⟩ := Option.map_eq_some_iff.mp htier
    rw [← hmax]
    show max input.finalTier (boundary.wave.shutdownTier.getD 0) = _
    rw [hd, Option.getD_some]
  have hmove : movement = (boundary.clamp input.finalTier).movement entered := by
    have hs := waveStateOf_clamp (hlast ▸ hfinal) (hf ▸ hstart) boundary
    rw [hlast] at hs
    exact (congrArg WaveAdaptiveState.movement hs).symm
  have hinitial := (List.prefix_append _ _).trans hwhole
  have hh := halted_of_schedule hbounds (pairwise_clamp hdescending _) hfinal rfl
    (waveTiers_clamped hwaves hinitial) (halt_not_mem_clamp hinitial)
  have hr := reentry_of_tracked hfinal htracked htier hlimit hbelow hh
  have hdeep : entered.pointer.started = true → target ≤ entered.pointer.deepest := by
    intro hstarted
    rw [← henters] at hstarted ⊢
    rw [htarget]
    exact le_of_occupied htracked hbelow (hlater.least hstarted).1
  rw [henters, occupied_clamp hfinal hstart, ← hmove] at hr
  have ho : (boundary.clamp input.finalTier).observation = boundary.observation := rfl
  rw [hr.1, hr.2, ← htarget, ho]
  by_cases hdescends : shouldDescend boundary.observation = true ∧ entered.pointer.started = true
  · have hdepth := hdeep hdescends.2
    simp only [hdescends.1, hdescends.2, true_and]
    omega
  · constructor
    · intro _ h
      exact hdescends ⟨h.1, h.2.1⟩
    · intro _
      exact iff_of_false (fun h => hdescends ⟨h.1.1, h.1.2.1⟩) fun h => hdescends ⟨h.1.1, h.1.2.1⟩

def fourWaveFlow : ShutdownFlow :=
  { name := "rack", spec := {}, status := { compiledWaves :=
      [{ index := 0, shutdownTier := some 5, groups := ["work"] },
        { index := 1, shutdownTier := some 4, groups := ["cache"] },
        { index := 2, shutdownTier := some 4, groups := ["queue"] },
        { index := 3, shutdownTier := some 3, groups := ["storage"] }] } }

def waveBoundary (tier : Int) (onBattery : Bool) : Boundary :=
  { wave := { shutdownTier := some tier }, observation := { onBattery } }

/-- Power comes back for one wave, and the next descent goes past the tier reached
before: it is said to enter again a tier that it enters for the first time. -/
theorem first_entry_reported_as_reentry :
    let input := adaptiveInputForFlow fourWaveFlow {}
    let before := [waveBoundary 5 true, waveBoundary 4 true, waveBoundary 4 false]
    let movement := (waveBoundary 3 true).movement (passEvents input (before.map .pass))
    (before ++ [waveBoundary 3 true]).map (·.wave.shutdownTier) = [5, 4, 4, 3].map some ∧
      movement = ⟨5, 3, .descend, true⟩ ∧
      3 ∉ occupied input (before.map .pass) ∧
      movement.describe { onBattery := true } =
        "re-entered tier 3  power: OB, runtime unknown" := by
  refine ⟨rfl, by decide +kernel, ?_, by decide +kernel⟩
  intro h
  obtain ⟨before, hp, _, htier⟩ := h
  have hnever : ∀ before ∈ List.inits ([waveBoundary 5 true, waveBoundary 4 true,
      waveBoundary 4 false].map PointerEvent.pass),
      (passEvents (adaptiveInputForFlow fourWaveFlow {}) before).pointer.tier ≠ 3 := by
    decide +kernel
  exact hnever before ((List.mem_inits _ _).mpr hp) htier

/-- Without the wave on mains the same descent is a first entry and is said to be one. -/
theorem first_entry_reported :
    let input := adaptiveInputForFlow fourWaveFlow {}
    let before := [waveBoundary 5 true, waveBoundary 4 true, waveBoundary 4 true]
    let movement := (waveBoundary 3 true).movement (passEvents input (before.map .pass))
    movement = ⟨4, 3, .descend, false⟩ ∧
      (movement.reexecution = true ↔ movement.direction = .descend ∧
        movement.destination ∈ occupied input (before.map .pass)) := by
  refine ⟨by decide +kernel, ?_⟩
  exact (reentry_reported_iff fourWaveFlow {} [5, 4, 4, 3] rfl (by decide)
    [waveBoundary 5 true, waveBoundary 4 true, waveBoundary 4 true] (waveBoundary 3 true)
    (by decide)).mpr (by decide +kernel)

end NutOperator.Controller
