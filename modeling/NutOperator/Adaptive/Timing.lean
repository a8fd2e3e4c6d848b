import NutOperator.Adaptive.Pointer
import NutOperator.Data.Duration

/-! Timing: the mode, with its asymmetric hysteresis, and the budget that scales
declared durations to the runtime left. Fractions are exact rationals. -/
namespace NutOperator.Adaptive

open Data

structure Parameters where
  (escalateAfterObservations relaxAfterObservations : Int := 0)
  relaxImprovementMargin : Rat := 0
  (urgentRuntimeSeconds nominalRuntimeSeconds : Int := 0)
  (idleCadence activeCadence : Duration := 0)
  (reserveFraction minimumCompression : Rat := 0)
  assumedRuntimeUnknown : Duration := 0
deriving Repr, DecidableEq

def defaultParameters : Parameters :=
  { escalateAfterObservations := 1, relaxAfterObservations := 3, relaxImprovementMargin := 1 / 10
    urgentRuntimeSeconds := 300, nominalRuntimeSeconds := 900, idleCadence := 60 * nanosPerSecond
    activeCadence := 10 * nanosPerSecond, reserveFraction := 1 / 5, minimumCompression := 1 / 10
    assumedRuntimeUnknown := 300 * nanosPerSecond }

/-- Zero means unset for every parameter. The assumed runtime follows the urgent
threshold in force. -/
def Parameters.withDefaults (parameters : Parameters) : Parameters :=
  let orDefault := fun (value fallback : Int) => if value ≤ 0 then fallback else value
  let orFraction := fun (value fallback : Rat) => if value ≤ 0 then fallback else value
  let urgent := orDefault parameters.urgentRuntimeSeconds defaultParameters.urgentRuntimeSeconds
  { escalateAfterObservations := orDefault parameters.escalateAfterObservations
      defaultParameters.escalateAfterObservations
    relaxAfterObservations := orDefault parameters.relaxAfterObservations
      defaultParameters.relaxAfterObservations
    relaxImprovementMargin := orFraction parameters.relaxImprovementMargin
      defaultParameters.relaxImprovementMargin
    urgentRuntimeSeconds := urgent
    nominalRuntimeSeconds := orDefault parameters.nominalRuntimeSeconds
      defaultParameters.nominalRuntimeSeconds
    idleCadence := orDefault parameters.idleCadence defaultParameters.idleCadence
    activeCadence := orDefault parameters.activeCadence defaultParameters.activeCadence
    reserveFraction := orFraction parameters.reserveFraction defaultParameters.reserveFraction
    minimumCompression := orFraction parameters.minimumCompression
      defaultParameters.minimumCompression
    assumedRuntimeUnknown := orDefault parameters.assumedRuntimeUnknown
      (wrapDuration (urgent * nanosPerSecond)) }

inductive TimingMode where
  | relaxed
  | nominal
  | urgent
deriving Repr, DecidableEq

def TimingMode.urgency : TimingMode → Nat
  | .urgent => 2
  | .nominal => 1
  | .relaxed => 0

def TimingMode.text : TimingMode → String
  | .urgent => "Urgent"
  | .nominal => "Nominal"
  | .relaxed => "Relaxed"

/-- The mode in force, unset in a fresh flow, and the evidence towards another. -/
structure TimingState where
  (mode pendingMode : Option TimingMode := none)
  pendingCount : Int := 0
deriving Repr, DecidableEq

structure TimingTransition where
  (origin destination : TimingMode)
  changed : Bool := false
  reason : String
deriving Repr, DecidableEq

def PowerObservation.measuredRuntime (observation : PowerObservation) : Option Int :=
  if observation.runtimeTrusted then observation.runtimeSeconds else none

def indicatedMode (observation : PowerObservation) (parameters : Parameters) : TimingMode :=
  let parameters := parameters.withDefaults
  if !shouldDescend observation then .relaxed
  else if observation.lowBattery then .urgent
  else
    match observation.measuredRuntime with
    | none => .urgent
    | some seconds =>
      if seconds ≤ parameters.urgentRuntimeSeconds then .urgent
      else if seconds ≤ parameters.nominalRuntimeSeconds then .nominal
      else .relaxed

def TimingState.accumulate (state : TimingState) (mode indicated : TimingMode) (threshold : Int)
    (reason : String) : TimingState × TimingTransition :=
  -- The count is a signed integer of 64 bits.
  let count :=
    if state.pendingMode = some indicated then wrapDuration (state.pendingCount + 1) else 1
  if count < threshold then
    ({ mode := some mode, pendingMode := some indicated, pendingCount := count },
      { origin := mode, destination := mode, reason := reason ++ "Pending" })
  else
    ({ mode := some indicated },
      { origin := mode, destination := indicated, changed := true, reason := reason })

/-- An improvement counts when it clears the threshold left behind by the margin. -/
def relaxationEarned (observation : PowerObservation) (indicated : TimingMode)
    (parameters : Parameters) : Bool :=
  if !shouldDescend observation then true
  else
    match observation.measuredRuntime, indicated with
    | some seconds, .nominal =>
      (parameters.urgentRuntimeSeconds : Rat) * (1 + parameters.relaxImprovementMargin) ≤ seconds
    | some seconds, .relaxed =>
      (parameters.nominalRuntimeSeconds : Rat) * (1 + parameters.relaxImprovementMargin) ≤ seconds
    | _, _ => false

def TimingState.observe (state : TimingState) (observation : PowerObservation)
    (parameters : Parameters) : TimingState × TimingTransition :=
  let parameters := parameters.withDefaults
  let mode := state.mode.getD .relaxed
  let indicated := indicatedMode observation parameters
  if indicated = mode then
    ({ mode := some mode }, { origin := mode, destination := mode, reason := "ModeUnchanged" })
  else if mode.urgency < indicated.urgency then
    if parameters.escalateAfterObservations ≤ 1 then
      ({ mode := some indicated },
        { origin := mode, destination := indicated, changed := true, reason := "Escalated" })
    else state.accumulate mode indicated parameters.escalateAfterObservations "Escalated"
  else if !relaxationEarned observation indicated parameters then
    ({ mode := some mode },
      { origin := mode, destination := mode, reason := "ImprovementWithinMargin" })
  else state.accumulate mode indicated parameters.relaxAfterObservations "Relaxed"

structure TimingBudget where
  compression : Rat
  (available required : Duration)
  (fits runtimeMeasured : Bool)
deriving Repr, DecidableEq

/-- How much of its declared time the remaining plan may use. -/
def Parameters.budget (parameters : Parameters) (observation : PowerObservation)
    (remainingPlan : Duration) : TimingBudget :=
  let parameters := parameters.withDefaults
  let measured := observation.measuredRuntime
  let runtime := match measured with
    | some seconds => wrapDuration (seconds * nanosPerSecond)
    | none => parameters.assumedRuntimeUnknown
  if !shouldDescend observation then
    { compression := 1, available := runtime, required := remainingPlan, fits := true
      runtimeMeasured := measured.isSome }
  else
    let available := truncate ((runtime : Rat) * (1 - parameters.reserveFraction))
    if remainingPlan ≤ 0 then
      { compression := 1, available := available, required := remainingPlan, fits := true
        runtimeMeasured := measured.isSome }
    else
      let ratio := (available : Rat) / (remainingPlan : Rat)
      let fits := decide (parameters.minimumCompression ≤ ratio)
      { compression :=
          if 1 < ratio then 1 else if fits then ratio else parameters.minimumCompression
        available := available, required := remainingPlan, fits := fits
        runtimeMeasured := measured.isSome }

/-- No declared duration means no limit, and adaptation only shortens. -/
def scaleDuration (declared : Duration) (budget : TimingBudget) : Duration :=
  if declared ≤ 0 then 0
  else if budget.compression ≤ 0 ∨ 1 ≤ budget.compression then declared
  else truncate ((declared : Rat) * budget.compression)

def TimingBudget.describe (budget : TimingBudget) : String :=
  let source := if budget.runtimeMeasured then "runtime measured" else "runtime assumed"
  let verdict := if budget.fits then "plan fits" else "plan does not fit"
  s!"{source} {formatDuration budget.available}, plan needs {formatDuration budget.required}, " ++
    s!"compression {formatHundredths budget.compression} ({verdict})"

def TimingTransition.describe (transition : TimingTransition) : String :=
  if transition.changed then
    s!"timing mode {transition.origin.text} -> {transition.destination.text} " ++
      s!"({transition.reason})"
  else s!"timing mode {transition.destination.text} held ({transition.reason})"

end NutOperator.Adaptive
