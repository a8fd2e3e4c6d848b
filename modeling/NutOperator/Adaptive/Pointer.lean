/-! The tier pointer: how far down the tiers a shutdown has progressed. -/
namespace NutOperator.Adaptive

/-- The power state at a wave boundary. An unknown runtime is never good news. -/
structure PowerObservation where
  (onBattery lowBattery : Bool := false)
  runtimeSeconds : Option Int := none
  runtimeTrusted : Bool := false
deriving Repr, DecidableEq

structure PointerState where
  (tier deepest : Int := 0)
  (started halted : Bool := false)
deriving Repr, DecidableEq

inductive Direction where
  | descend
  | ascend
  | hold
deriving Repr, DecidableEq

structure PointerMovement where
  (origin destination : Int)
  direction : Direction
  reexecution : Bool := false
deriving Repr, DecidableEq

/-- `deepest` means something only once started, and tier 0 is never reached. -/
def PointerState.normalize (state : PointerState) : PointerState :=
  if !state.started then { state with deepest := 0 }
  else if state.deepest ≤ 0 ∨ state.tier < state.deepest then { state with deepest := state.tier }
  else state

def PointerState.holding (state : PointerState) : PointerMovement :=
  { origin := state.tier, destination := state.tier, direction := .hold }

/-- The first descent occupies the starting tier instead of stepping past it. -/
def PointerState.descend (state : PointerState) (finalTier : Int) :
    PointerState × PointerMovement :=
  let state := state.normalize
  if state.halted then (state, state.holding)
  else if !state.started then
    ({ state with started := true, deepest := state.tier },
      { origin := state.tier, destination := state.tier, direction := .descend })
  else if state.tier ≤ finalTier then (state, state.holding)
  else
    let tier := state.tier - 1
    ({ state with tier := tier, deepest := if tier < state.deepest then tier else state.deepest },
      { origin := state.tier, destination := tier, direction := .descend
        reexecution := state.deepest ≤ tier })

/-- Power improved: recorded, and nothing is executed for it. -/
def PointerState.ascend (state : PointerState) (startTier : Int) : PointerState × PointerMovement :=
  let state := state.normalize
  if state.halted ∨ !state.started ∨ startTier ≤ state.tier then (state, state.holding)
  else
    ({ state with tier := state.tier + 1 },
      { origin := state.tier, destination := state.tier + 1, direction := .ascend })

/-- Abort: a latch that nothing opens. -/
def PointerState.halt (state : PointerState) : PointerState := { state with halted := true }

structure PointerState.Placed (finalTier startTier : Int) (state : PointerState) : Prop where
  started : state.started = true
  finalTier_le_deepest : finalTier ≤ state.deepest
  deepest_le_tier : state.deepest ≤ state.tier
  tier_le_startTier : state.tier ≤ startTier

section

variable {finalTier startTier : Int} {state : PointerState}

section

variable (hplaced : state.Placed finalTier startTier) (hfinal : 0 < finalTier)

include hplaced hfinal

theorem PointerState.Placed.normalize_eq : state.normalize = state := by
  have hdeep := hplaced.finalTier_le_deepest
  have htier := hplaced.deepest_le_tier
  have hd : ¬ (state.deepest ≤ 0 ∨ state.tier < state.deepest) := by omega
  simp [PointerState.normalize, hplaced.started, hd]

theorem PointerState.Placed.descend_eq (hhalted : state.halted = false)
    (habove : finalTier < state.tier) :
    state.descend finalTier =
      ({ state with tier := state.tier - 1, deepest := min state.deepest (state.tier - 1) },
        { origin := state.tier
          destination := state.tier - 1
          direction := .descend
          reexecution := state.deepest ≤ state.tier - 1 }) := by
  have hdeep : (if state.tier - 1 < state.deepest then state.tier - 1 else state.deepest) =
      min state.deepest (state.tier - 1) := by omega
  simp only [PointerState.descend, hplaced.normalize_eq hfinal, hplaced.started, hhalted,
    Int.not_le.mpr habove, hdeep, Bool.not_true, Bool.false_eq_true, if_false]

theorem PointerState.Placed.ascend_eq (hhalted : state.halted = false) :
    (state.ascend startTier).1 = { state with tier := min startTier (state.tier + 1) } := by
  have htier := hplaced.tier_le_startTier
  rw [PointerState.ascend, hplaced.normalize_eq hfinal]
  by_cases htop : startTier ≤ state.tier
  · have hsame : min startTier (state.tier + 1) = state.tier := by omega
    simp [htop, hsame]
  · have hnext : min startTier (state.tier + 1) = state.tier + 1 := by omega
    simp [htop, hnext, hhalted, hplaced.started]

theorem PointerState.Placed.descend_of_halted (hhalted : state.halted = true) (limit : Int) :
    state.descend limit = (state, state.holding) := by
  simp [PointerState.descend, hplaced.normalize_eq hfinal, hhalted]

theorem PointerState.Placed.ascend_of_halted (hhalted : state.halted = true) (limit : Int) :
    state.ascend limit = (state, state.holding) := by
  simp [PointerState.ascend, hplaced.normalize_eq hfinal, hhalted]

end

end

def shouldDescend (observation : PowerObservation) : Bool :=
  observation.onBattery || observation.lowBattery

def PowerObservation.power (observation : PowerObservation) : String :=
  if observation.lowBattery then "OB LB" else if observation.onBattery then "OB" else "OL"

def PowerObservation.runtime (observation : PowerObservation) : String :=
  match observation.runtimeSeconds with
  | none => "runtime unknown"
  | some seconds => s!"runtime {seconds}s"

def PointerMovement.describe (movement : PointerMovement) (observation : PowerObservation) :
    String :=
  let tail := s!"  power: {observation.power}, {observation.runtime}"
  match movement.direction with
  | .descend =>
    if movement.reexecution then s!"re-entered tier {movement.destination}" ++ tail
    else s!"entered tier {movement.destination}" ++ tail
  | .ascend => s!"ascended to tier {movement.destination}" ++ tail
  | .hold => s!"held at tier {movement.destination}" ++ tail

end NutOperator.Adaptive
