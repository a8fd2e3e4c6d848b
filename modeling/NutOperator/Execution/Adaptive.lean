import NutOperator.Execution.Types

/-! The adaptive model at a wave boundary: one power observation moves the tier
pointer and the timing mode, each independently of the other. -/
namespace NutOperator.Execution

open Data Adaptive Effects

/-- An unset limit never authorizes the last-ditch tier. -/
def finalTier (input : AdaptiveInput) : Int :=
  if input.finalTier ≤ 0 then 1 else input.finalTier

def startTier (input : AdaptiveInput) (wave : Wave) : Int :=
  if 0 < input.startTier then input.startTier
  else
    match wave.shutdownTier with
    | some tier => tier
    | none => finalTier input

/-- The steps of a started pointer towards `target`, which stops at the first
step that does not descend. Every step lowers the pointer by one. -/
def descendTowards (target final origin : Int) :
    Nat → PointerState → PointerMovement → PointerState × PointerMovement
  | 0, pointer, movement => (pointer, movement)
  | steps + 1, pointer, movement =>
    if pointer.tier ≤ target then (pointer, movement)
    else
      let (next, step) := pointer.descend final
      if step.direction ≠ .descend ∨ next.tier = pointer.tier then (pointer, movement)
      else
        descendTowards target final origin steps next
          { origin := origin, destination := step.destination, direction := .descend
            reexecution := movement.reexecution || step.reexecution }

def descendToWaveTier (pointer : PointerState) (wave : Wave) (final : Int) :
    PointerState × PointerMovement :=
  match wave.shutdownTier with
  | none => pointer.descend final
  | some tier =>
    let target := if tier < final then final else tier
    if !pointer.started then ({ pointer with tier := target }).descend final
    else
      descendTowards target final pointer.tier (pointer.tier - target).toNat pointer
        { origin := pointer.tier, destination := pointer.tier, direction := .hold }

theorem tier_descend_of_ne {pointer : PointerState} {final : Int} (hstarted : pointer.started)
    (hmoves : (pointer.descend final).1.tier ≠ pointer.tier) :
    (pointer.descend final).1.tier = pointer.tier - 1 ∧ (pointer.descend final).1.started := by
  obtain ⟨htier, hn⟩ : pointer.normalize.tier = pointer.tier ∧
      pointer.normalize.started = true := by
    unfold PointerState.normalize
    split <;> [exact ⟨rfl, hstarted⟩; split <;> exact ⟨rfl, hstarted⟩]
  unfold PointerState.descend at hmoves ⊢
  by_cases hhalted : pointer.normalize.halted
  · simp [hhalted, htier] at hmoves
  · by_cases hlast : pointer.tier ≤ final
    · simp [hhalted, hn, hlast, htier] at hmoves
    · simp [hhalted, hn, hlast, htier]

/-- The walk is given enough steps: it ends at the target tier, or where a
further descent does not move the pointer. -/
theorem descendTowards_ends {target final origin : Int} (steps : Nat) (pointer : PointerState)
    (movement : PointerMovement) (hstarted : pointer.started)
    (henough : (pointer.tier - target).toNat ≤ steps) :
    let reached := (descendTowards target final origin steps pointer movement).1
    reached.tier ≤ target ∨ (reached.descend final).2.direction ≠ .descend ∨
      (reached.descend final).1.tier = reached.tier := by
  induction steps generalizing pointer movement with
  | zero =>
    left
    simp only [descendTowards]
    omega
  | succ steps ih =>
    by_cases hreaches : pointer.tier ≤ target
    · left
      simp [descendTowards, hreaches]
    · by_cases hstops : (pointer.descend final).2.direction ≠ .descend ∨
          (pointer.descend final).1.tier = pointer.tier
      · right
        simp only [descendTowards, hreaches, hstops, if_true, if_false]
      · have hm := tier_descend_of_ne hstarted (fun h => hstops (.inr h))
        have hstep := ih (pointer.descend final).1
          { origin := origin
            destination := (pointer.descend final).2.destination
            direction := .descend
            reexecution := movement.reexecution || (pointer.descend final).2.reexecution }
          hm.2 (by omega)
        simpa only [descendTowards, hreaches, hstops, if_false] using hstep

section

variable {target final start origin : Int} {pointer : PointerState} {movement : PointerMovement}

def oneTierDown (pointer : PointerState) : PointerState :=
  { pointer with
    tier := pointer.tier - 1, deepest := min pointer.deepest (pointer.tier - 1) }

theorem placed_oneTierDown (hplaced : pointer.Placed final start) (habove : final < pointer.tier) :
    (oneTierDown pointer).Placed final start := by
  have hdepth := hplaced.finalTier_le_deepest
  have hs := hplaced.tier_le_startTier
  constructor
  · exact hplaced.started
  · show final ≤ min pointer.deepest (pointer.tier - 1)
    omega
  · show min pointer.deepest (pointer.tier - 1) ≤ pointer.tier - 1
    omega
  · show pointer.tier - 1 ≤ start
    omega

section

variable (hfinal : 0 < final) (hlimit : final ≤ target) (steps : Nat)
  (hplaced : pointer.Placed final start) (hhalted : pointer.halted = false)
include hfinal hlimit hplaced hhalted

theorem descendTowards_succ (habove : target < pointer.tier) :
    descendTowards target final origin (steps + 1) pointer movement =
      descendTowards target final origin steps (oneTierDown pointer)
        { origin := origin
          destination := pointer.tier - 1
          direction := .descend
          reexecution := movement.reexecution || decide (pointer.deepest < pointer.tier) } := by
  have hm : ¬ pointer.tier - 1 = pointer.tier := by omega
  simp only [descendTowards, not_le.mpr habove,
    hplaced.descend_eq hfinal hhalted (hlimit.trans_lt habove), hm, Int.le_sub_one_iff, ne_eq,
    not_true, or_self, if_false]
  rfl

theorem descendTowards_of_placed (hsteps : pointer.tier = target + steps) :
    (descendTowards target final origin steps pointer movement).1 =
      { pointer with tier := target, deepest := min pointer.deepest target } := by
  induction steps generalizing pointer movement with
  | zero =>
    have hdepth := hplaced.deepest_le_tier
    have htier : pointer.tier = target := by omega
    have hkept : min pointer.deepest target = pointer.deepest := by omega
    rw [descendTowards, hkept, ← htier]
  | succ steps ih =>
    have hdeep : min (min pointer.deepest (pointer.tier - 1)) target =
        min pointer.deepest target := by omega
    rw [descendTowards_succ hfinal hlimit steps hplaced hhalted (by omega),
      ih (placed_oneTierDown hplaced (by omega)) hhalted (by show pointer.tier - 1 = _; omega)]
    simp only [oneTierDown, hdeep]

theorem movement_descendTowards_of_placed (hsteps : pointer.tier = target + (steps + 1)) :
    (descendTowards target final origin (steps + 1) pointer movement).2 =
      { origin := origin
        destination := target
        direction := .descend
        reexecution := movement.reexecution || decide (pointer.deepest < pointer.tier) } := by
  induction steps generalizing pointer movement with
  | zero =>
    have htier : pointer.tier - 1 = target := by omega
    rw [descendTowards_succ hfinal hlimit 0 hplaced hhalted (by omega), descendTowards, htier]
  | succ steps ih =>
    have hl : (oneTierDown pointer).deepest < (oneTierDown pointer).tier →
        pointer.deepest < pointer.tier := by
      show min pointer.deepest (pointer.tier - 1) < pointer.tier - 1 → _
      omega
    rw [descendTowards_succ hfinal hlimit (steps + 1) hplaced hhalted (by omega),
      ih (placed_oneTierDown hplaced (by omega)) hhalted (by show pointer.tier - 1 = _; omega)]
    congr 1
    by_cases hagain : (oneTierDown pointer).deepest < (oneTierDown pointer).tier
    · simp [hagain, hl hagain]
    · simp [hagain]

end

end

theorem descendTowards_of_halted {target final start limit origin : Int} (hfinal : 0 < final)
    {pointer : PointerState} {movement : PointerMovement} (hplaced : pointer.Placed final start)
    (hhalted : pointer.halted = true) (steps : Nat) :
    (descendTowards target limit origin steps pointer movement).1 = pointer := by
  cases steps with
  | zero => rfl
  | succ steps =>
    rw [descendTowards, hplaced.descend_of_halted hfinal hhalted]
    split
    · rfl
    · simp [PointerState.holding]

def remainingPlanDuration (waves : List Wave) : Duration :=
  wrapDuration (waves.map (·.duration)).sum

def waveStateOf (input : AdaptiveInput) (wave : Wave) (remainingPlan : Duration)
    (observation : PowerObservation) : WaveAdaptiveState :=
  let parameters := input.parameters.withDefaults
  let (timing, transition) := input.timing.observe observation parameters
  let budget := parameters.budget observation remainingPlan
  let (pointer, movement) :=
    if shouldDescend observation then descendToWaveTier input.pointer wave (finalTier input)
    else input.pointer.ascend (startTier input wave)
  { mode := timing.mode, pointer := pointer, timing := timing, observation := observation
    movement := movement, transition := transition
    events := (if transition.changed then [transition.describe] else []) ++
      [budget.describe, movement.describe observation]
    budget := budget }

/-- A failed read is never an optimistic one: the wave is not evaluated. -/
def Executor.evaluateWave (executor : Executor) (context : Context) (input : AdaptiveInput)
    (wave : Wave) (remainingPlan : Duration) : Run (Except String WaveAdaptiveState) :=
  if executor.observer then do
    match ← ask (.observe context) with
    | .error error => pure (.error s!"read power state for wave {wave.index}: {error}")
    | .ok observation => pure (.ok (waveStateOf input wave remainingPlan observation))
  else pure (.ok (waveStateOf input wave remainingPlan input.observation))

/-- No limit is kept apart from zero seconds. -/
def durationSeconds (duration : Duration) : Detail :=
  if duration ≤ 0 then .absent else .fraction ((duration : Rat) / (nanosPerSecond : Rat))

def observedRuntime (observation : PowerObservation) : Detail :=
  match observation.runtimeSeconds with
  | none => .absent
  | some seconds => .number seconds

def timingModeText (mode : Option TimingMode) : Detail := .text (mode.elim "" TimingMode.text)

def adaptiveStateRecord (state : WaveAdaptiveState) : Details :=
  [("tier", .number state.pointer.tier), ("deepestTier", .number state.pointer.deepest),
    ("pointerStarted", .flag state.pointer.started), ("pointerHalted", .flag state.pointer.halted),
    ("timingMode", timingModeText state.timing.mode),
    ("timingPendingMode", timingModeText state.timing.pendingMode),
    ("timingPending", .number state.timing.pendingCount),
    ("onBattery", .flag state.observation.onBattery),
    ("lowBattery", .flag state.observation.lowBattery),
    ("runtimeTrusted", .flag state.observation.runtimeTrusted),
    ("runtimeSeconds", observedRuntime state.observation)]

def adaptiveResultFrom (previous : AdaptiveResult) (state : WaveAdaptiveState) : AdaptiveResult :=
  { pointer := state.pointer, timing := state.timing, observation := state.observation
    events := previous.events ++ state.events }

end NutOperator.Execution
