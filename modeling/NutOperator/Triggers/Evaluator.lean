import NutOperator.Data.Sorting
import NutOperator.Data.Text
import NutOperator.Execution.Types
import NutOperator.Planner.Text

/-! Shutdown triggers against the state of the UPS devices. The clock, the
telemetry and the holds of the tick before are inputs. -/
namespace NutOperator.Triggers

open Data
open Execution (Time)
open Planner (Diagnostic errorDiagnostic infoDiagnostic quote warningDiagnostic)

def typeOnBattery : String := "OnBattery"

def typeLowBattery : String := "LowBattery"

def typeRuntimeBelow : String := "RuntimeBelow"

def typeChargeBelow : String := "ChargeBelow"

def typeTelemetryStale : String := "TelemetryStale"

inductive TelemetryPhase where
  | unknown
  | online
  | onBattery
  | lowBattery
  | stale
  | unavailable
deriving Repr, DecidableEq

structure Trigger where
  (id type : String := "")
  /-- The coarser class for a device that does not report what `type` needs. -/
  fallbackType : String := ""
  (upsDevices powerDomains : List String := [])
  holdFor : Duration := 0
  (runtimeBelowSeconds chargeBelowPercent : Option Int := none)
deriving Repr, DecidableEq

structure UPSState where
  upsDevice : String := ""
  powerDomains : List String := []
  observedAt : Time := 0
  phase : TelemetryPhase := .unknown
  (onBattery lowBattery stale : Bool := false)
  (runtimeSeconds chargePercent : Option Int := none)
deriving Repr, DecidableEq

structure HoldState where
  (triggerID upsDevice : String)
  startedAt : Time
deriving Repr, DecidableEq

structure Inputs where
  observedAt : Time
  triggers : List Trigger
  upsStates : List UPSState
  holds : List HoldState
deriving Repr

structure Decision where
  (triggerID type : String)
  (matched eligible : Bool := false)
  reason : String := "ConditionFalse"
  selectedUPSDevices : List String := []
  (holdStartedAt eligibleAt : Option Time := none)
deriving Repr, DecidableEq

structure Evaluation where
  observedAt : Time
  approved : Bool
  reason : String
  selectedUPSDevices : List String
  decisions : List Decision
  holds : List HoldState
  diagnostics : List Diagnostic
  matchedTriggerCount : Nat
deriving Repr, DecidableEq

/-- A device may also be unable to answer. -/
inductive MatchOutcome where
  | conditionFalse
  | matched
  | telemetryUnavailable
deriving Repr, DecidableEq

def boolOutcome (holds : Bool) : MatchOutcome :=
  if holds then .matched else .conditionFalse

def missingTriggerValue (triggerID reason field : String) : Diagnostic :=
  errorDiagnostic reason s!"trigger {quote triggerID} requires {field}" triggerID

def missingTelemetryValue (triggerID upsDevice reason valueName : String) : Diagnostic :=
  warningDiagnostic reason
    (s!"trigger {quote triggerID} selected UPSDevice {quote upsDevice} but {valueName} " ++
      "telemetry is missing") upsDevice

/-- A value against its threshold. A missing threshold is a mistake of the flow,
not a device that cannot answer. -/
def belowOutcome (threshold value : Option Int) (noThreshold noValue : Diagnostic) :
    MatchOutcome × List Diagnostic :=
  match threshold, value with
  | none, _ => (.conditionFalse, [noThreshold])
  | some _, none => (.telemetryUnavailable, [noValue])
  | some bound, some reported => (boolOutcome (reported ≤ bound), [])

def evaluateTriggerClass (triggerType : String) (trigger : Trigger) (state : UPSState) :
    MatchOutcome × List Diagnostic :=
  if triggerType = typeOnBattery then
    (boolOutcome (state.onBattery || state.phase = .onBattery || state.phase = .lowBattery), [])
  else if triggerType = typeLowBattery then
    (boolOutcome (state.lowBattery || state.phase = .lowBattery), [])
  else if triggerType = typeRuntimeBelow then
    belowOutcome trigger.runtimeBelowSeconds state.runtimeSeconds
      (missingTriggerValue trigger.id "RuntimeThresholdMissing" "runtimeBelowSeconds")
      (missingTelemetryValue trigger.id state.upsDevice "RuntimeTelemetryMissing"
        "runtime remaining")
  else if triggerType = typeChargeBelow then
    belowOutcome trigger.chargeBelowPercent state.chargePercent
      (missingTriggerValue trigger.id "ChargeThresholdMissing" "chargeBelowPercent")
      (missingTelemetryValue trigger.id state.upsDevice "ChargeTelemetryMissing" "battery charge")
  else if triggerType = typeTelemetryStale then
    (boolOutcome (state.stale || state.phase = .stale || state.phase = .unavailable), [])
  else
    (.conditionFalse, [errorDiagnostic "TriggerTypeUnsupported"
      s!"trigger {quote trigger.id} has unsupported type {quote triggerType}" trigger.id])

def triggerMatchesState (trigger : Trigger) (state : UPSState) : Bool × List Diagnostic :=
  let (outcome, diagnostics) := evaluateTriggerClass trigger.type trigger state
  if outcome ≠ .telemetryUnavailable ∨ trigger.fallbackType = "" then
    (outcome = .matched, diagnostics)
  else
    let (fallbackOutcome, fallbackDiagnostics) :=
      evaluateTriggerClass trigger.fallbackType trigger state
    if fallbackOutcome = .telemetryUnavailable then (false, diagnostics ++ fallbackDiagnostics)
    else
      (fallbackOutcome = .matched, fallbackDiagnostics ++ [infoDiagnostic "TriggerFallbackApplied"
          (s!"trigger {quote trigger.id} evaluated {quote trigger.fallbackType} for " ++
            s!"{quote state.upsDevice}, which does not report the telemetry " ++
            s!"{quote trigger.type} needs") trigger.id])

def stringSet (values : List String) : List String := (values.map trimSpace).filter (· ≠ "")

def sortedUniqueStrings (values : List String) : List String := sortedUnique (stringSet values)

def selectUPSStates (trigger : Trigger) (states : List UPSState) : List UPSState :=
  let deviceSet := stringSet trigger.upsDevices
  let domainSet := stringSet trigger.powerDomains
  if deviceSet = [] ∧ domainSet = [] then states
  else
    states.filter fun state =>
      state.upsDevice ∈ deviceSet || state.powerDomains.any (· ∈ domainSet)

/-- A trigger without a name gets one from its position. -/
def normalizeTrigger (index : Nat) (trigger : Trigger) : Trigger :=
  let type := trimSpace trigger.type
  let id := trimSpace trigger.id
  { trigger with
    id := if id = "" then "trigger-" ++ paddedDecimal 3 index ++ "-" ++ toLower type else id
    type := type, upsDevices := sortedUniqueStrings trigger.upsDevices
    powerDomains := sortedUniqueStrings trigger.powerDomains }

def normalizeUPSState (state : UPSState) : UPSState :=
  { state with
    upsDevice := trimSpace state.upsDevice, powerDomains := sortedUniqueStrings state.powerDomains }

/-- Devices by name. The order of two states of one name is not determined. -/
def normalizeUPSStates (states : List UPSState) : List UPSState :=
  sortStable (fun left right => decide (left.upsDevice < right.upsDevice))
    ((states.map normalizeUPSState).filter fun state => state.upsDevice ≠ "")

def holdKey (triggerID upsDevice : String) : String := triggerID ++ "\x00" ++ upsDevice

def trimHold (hold : HoldState) : HoldState :=
  { hold with triggerID := trimSpace hold.triggerID, upsDevice := trimSpace hold.upsDevice }

def holdIndex (holds : List HoldState) : AList (fun _ : String => HoldState) :=
  fillMap (fun hold => holdKey hold.triggerID hold.upsDevice) some
    ((holds.map trimHold).filter fun hold => hold.triggerID ≠ "" ∧ hold.upsDevice ≠ "")

def earlierOf (earliest : Option Time) (time : Time) : Option Time :=
  match earliest with
  | none => some time
  | some known => if time < known then some time else some known

structure Scan where
  (matched eligible : Bool := false)
  selectedUPSDevices : List String := []
  nextHolds : List HoldState := []
  diagnostics : List Diagnostic := []
  (earliestHold earliestEligible : Option Time := none)
deriving Repr, DecidableEq

def holdStart (observedAt : Time) (holds : AList (fun _ : String => HoldState)) (trigger : Trigger)
    (state : UPSState) : Time :=
  match holds.lookup (holdKey trigger.id state.upsDevice) with
  | some existing => existing.startedAt
  | none => observedAt

def held (observedAt : Time) (trigger : Trigger) (startedAt : Time) : Bool :=
  trigger.holdFor ≤ 0 || startedAt + trigger.holdFor ≤ observedAt

def scanState (observedAt : Time) (trigger : Trigger)
    (holds : AList (fun _ : String => HoldState)) (scan : Scan) (state : UPSState) : Scan :=
  let (isMatch, stateDiagnostics) := triggerMatchesState trigger state
  let scan := { scan with diagnostics := scan.diagnostics ++ stateDiagnostics }
  if isMatch then
    let startedAt := holdStart observedAt holds trigger state
    let scan :=
      { scan with
        matched := true
        nextHolds := scan.nextHolds ++ [⟨trigger.id, state.upsDevice, startedAt⟩]
        earliestHold := earlierOf scan.earliestHold startedAt
        earliestEligible := earlierOf scan.earliestEligible (startedAt + trigger.holdFor) }
    if held observedAt trigger startedAt then
      { scan with
        eligible := true, selectedUPSDevices := scan.selectedUPSDevices ++ [state.upsDevice] }
    else scan
  else scan

def evaluateTrigger (observedAt : Time) (trigger : Trigger) (states : List UPSState)
    (holds : AList (fun _ : String => HoldState)) : Decision × List HoldState × List Diagnostic :=
  let candidates := selectUPSStates trigger states
  if candidates = [] then
    ({ triggerID := trigger.id, type := trigger.type }, [],
      [warningDiagnostic "TriggerSelectionEmpty"
        s!"trigger {quote trigger.id} selected no UPS telemetry states" trigger.id])
  else
    let scan := candidates.foldl (scanState observedAt trigger holds) {}
    ({ triggerID := trigger.id
       type := trigger.type, matched := scan.matched
       eligible := scan.eligible
       reason :=
         if scan.eligible then "TriggerEligible"
         else if scan.matched then "TriggerHoldPending"
         else "ConditionFalse"
       selectedUPSDevices := sortStrings scan.selectedUPSDevices, holdStartedAt := scan.earliestHold
       eligibleAt := scan.earliestEligible },
      scan.nextHolds, scan.diagnostics)

def evaluationReason (approved : Bool) (holds : List HoldState) (decisions : List Decision) :
    String :=
  if approved then "TriggerEligible"
  else if holds ≠ [] then "TriggerHoldPending"
  else if decisions = [] then "NoTriggersConfigured"
  else "NoTriggerMatched"

def sortHolds (holds : List HoldState) : List HoldState := sortStable (fun left right =>
      if left.triggerID ≠ right.triggerID then decide (left.triggerID < right.triggerID)
      else decide (left.upsDevice < right.upsDevice)) holds

def evaluate (inputs : Inputs) : Evaluation :=
  let states := normalizeUPSStates inputs.upsStates
  let holds := holdIndex inputs.holds
  let results := inputs.triggers.mapIdx fun index trigger =>
    evaluateTrigger inputs.observedAt (normalizeTrigger index trigger) states holds
  let decisions := results.map (·.1)
  let eligible := decisions.filter (·.eligible)
  let approved := decisions.any (·.eligible)
  let nextHolds := sortHolds (results.flatMap (·.2.1))
  { observedAt := inputs.observedAt, approved := approved
    reason := evaluationReason approved nextHolds decisions
    selectedUPSDevices := sortedUnique (eligible.flatMap (·.selectedUPSDevices))
    decisions := decisions, holds := nextHolds, diagnostics := results.flatMap (·.2.2)
    matchedTriggerCount := (decisions.filter (·.matched)).length }

end NutOperator.Triggers
