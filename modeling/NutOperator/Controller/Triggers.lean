import NutOperator.Controller.Flow
import NutOperator.Triggers.Holds

/-! Trigger evaluation for a flow: the triggers of its spec, the devices of the
cluster and the holds of its status in, a status and new holds out. -/
namespace NutOperator.Controller

open Data Triggers List
open Execution (Time)

inductive UPSDevicePhase where
  | unknown
  | online
  | onBattery
  | lowBattery
  | stale
  | unavailable
deriving Repr, DecidableEq

structure UPSDevice where
  name : String
  powerDomains : List String := []
  phase : Option UPSDevicePhase := none
  (runtimeSeconds batteryChargePercent : Option Int := none)
  lastPollTime : Option Time := none
  generation : Int := 0
  lastStatus : String := ""
  loadPercent : Option Int := none
deriving Repr, DecidableEq

structure PowerDomain where
  name : String
  upsDevices : List String := []
deriving Repr, DecidableEq

structure CapabilityMatch where
  deviceID : String
  supportsTimingAdaptation : Bool := false
deriving Repr, DecidableEq

structure ClusterNode where
  name : String
  labels : List (String × String) := []
deriving Repr, DecidableEq

structure AgentCoverage where
  name : String
  nodes : List String := []
deriving Repr, DecidableEq

/-- What the flow controller reads of the resolved inventory. -/
structure StructuralBundle where
  hash : String := ""
  domains : List PowerDomain := []
  capabilityMatches : List CapabilityMatch := []
  controlPlaneNodes : List Planner.ControlPlaneNode := []
  clusterNodes : List ClusterNode := []
  agentCoverage : List AgentCoverage := []
deriving Repr, DecidableEq

def triggerInputsFromFlow (triggers : List ShutdownTrigger) : List Trigger :=
  triggers.map fun trigger =>
    { type := trigger.type.text
      fallbackType := (trigger.fallbackType.map ShutdownTriggerType.text).getD ""
      upsDevices := trigger.upsDeviceRefs, powerDomains := trigger.powerDomains
      holdFor := trigger.holdFor.getD 0, runtimeBelowSeconds := trigger.runtimeBelowSeconds
      chargeBelowPercent := trigger.chargeBelowPercent }

def telemetryPhaseFromUPSDevice : Option UPSDevicePhase → TelemetryPhase
  | some .online => .online
  | some .onBattery => .onBattery
  | some .lowBattery => .lowBattery
  | some .stale => .stale
  | some .unavailable => .unavailable
  | _ => .unknown

def triggerPowerDomainsByUPSDevice (bundle : StructuralBundle) : Option (String → List String) :=
  let pairs := (bundle.domains.filter fun domain => domain.name ≠ "").flatMap fun domain =>
    (domain.upsDevices.filter (· ≠ "")).map fun device => (device, domain.name)
  if pairs = [] then none
  else
    some fun device =>
      sortedUnique ((pairs.filter fun pair => pair.1 = device).map (·.2))

def triggerPowerDomainsForDevice (device : UPSDevice) (derived : Option (String → List String)) :
    List String :=
  match derived with
  | some domains => domains device.name
  | none => device.powerDomains

def triggerUPSStatesFromDevices (devices : List UPSDevice) (bundle : StructuralBundle) :
    List UPSState :=
  devices.map fun device =>
    { upsDevice := device.name
      powerDomains := triggerPowerDomainsForDevice device (triggerPowerDomainsByUPSDevice bundle)
      phase := telemetryPhaseFromUPSDevice device.phase
      onBattery := device.phase = some .onBattery || device.phase = some .lowBattery
      lowBattery := device.phase = some .lowBattery
      stale := device.phase = some .stale || device.phase = some .unavailable
      runtimeSeconds := device.runtimeSeconds, chargePercent := device.batteryChargePercent
      observedAt := device.lastPollTime.getD 0 }

def triggerHoldsFromStatus (holds : List ShutdownTriggerHoldStateStatus) : List HoldState :=
  holds.map fun hold => ⟨hold.triggerID, hold.upsDevice, hold.startedAt⟩

def triggerHoldStatus (holds : List HoldState) : List ShutdownTriggerHoldStateStatus :=
  holds.map fun hold => ⟨hold.triggerID, hold.upsDevice, hold.startedAt⟩

def triggerDecisionStatus (decision : Decision) : ShutdownTriggerDecisionStatus :=
  { triggerID := decision.triggerID, type := decision.type, matched := decision.matched
    eligible := decision.eligible, reason := decision.reason
    selectedUPSDevices := decision.selectedUPSDevices, holdStartedAt := decision.holdStartedAt
    eligibleAt := decision.eligibleAt }

def triggerEvaluationStatus (evaluation : Evaluation) (mode : ShutdownFlowMode)
    (configHash : String) : ShutdownTriggerEvaluationStatus :=
  { observedAt := some evaluation.observedAt, mode := mode, eligible := evaluation.approved
    reason := evaluation.reason, matchedTriggerCount := evaluation.matchedTriggerCount
    selectedUPSDevices := evaluation.selectedUPSDevices, planConfigHash := configHash
    decisions := evaluation.decisions.map triggerDecisionStatus
    diagnostics := evaluation.diagnostics }

def triggerInputs (devices : List UPSDevice) (bundle : StructuralBundle) (flow : ShutdownFlow)
    (observedAt : Time) : Inputs :=
  { observedAt := observedAt, triggers := triggerInputsFromFlow flow.spec.triggers
    upsStates := triggerUPSStatesFromDevices devices bundle
    holds := triggerHoldsFromStatus flow.status.triggerHoldStates }

def evaluateShutdownFlowTriggers (devices : List UPSDevice) (bundle : StructuralBundle)
    (flow : ShutdownFlow) (observedAt : Time) (configHash : String) :
    ShutdownTriggerEvaluationStatus × List ShutdownTriggerHoldStateStatus :=
  let evaluation := evaluate (triggerInputs devices bundle flow observedAt)
  (triggerEvaluationStatus evaluation (effectiveShutdownFlowMode flow.spec.mode) configHash,
    triggerHoldStatus evaluation.holds)

@[simp] theorem triggerHoldsFromStatus_triggerHoldStatus (holds : List HoldState) :
    triggerHoldsFromStatus (triggerHoldStatus holds) = holds := by
  rw [triggerHoldsFromStatus, triggerHoldStatus, map_map]
  exact map_id holds

theorem mem_triggerHoldStatus {holds : List HoldState} {triggerID upsDevice : String}
    {startedAt : Time} :
    ⟨triggerID, upsDevice, startedAt⟩ ∈ triggerHoldStatus holds ↔
      ⟨triggerID, upsDevice, startedAt⟩ ∈ holds := by
  rw [triggerHoldStatus, mem_map]
  constructor
  · rintro ⟨hold, hmem, h⟩
    cases h
    exact hmem
  · exact fun hmem => ⟨_, hmem, rfl⟩

def positionID (index : Nat) (type : ShutdownTriggerType) : String :=
  "trigger-" ++ paddedDecimal 3 index ++ "-" ++ toLower type.text

theorem trimSpace_text (type : ShutdownTriggerType) : trimSpace type.text = type.text := by
  cases type <;> decide

theorem id_triggerInputsFromFlow {triggers : List ShutdownTrigger} {index : Nat}
    {trigger : Trigger} (hat : (triggerInputsFromFlow triggers)[index]? = some trigger) :
    ∃ type, (normalizeTrigger index trigger).id = positionID index type := by
  rw [triggerInputsFromFlow, getElem?_map, Option.map_eq_some_iff] at hat
  obtain ⟨flowTrigger, -, rfl⟩ := hat
  refine ⟨flowTrigger.type, ?_⟩
  have hu : trimSpace "" = "" := by decide
  simp only [normalizeTrigger, hu, if_true, trimSpace_text, positionID]

theorem toList_positionID (index : Nat) (type : ShutdownTriggerType) :
    (positionID index type).toList = "trigger-".toList ++ ((paddedDecimal 3 index).toList ++
      '-' :: (toLower type.text).toList) := by
  simp [positionID, String.toList_append]

theorem positionID_inj {first second : Nat} {type other : ShutdownTriggerType}
    (h : positionID first type = positionID second other) : first = second := by
  have hd : ∀ (index : Nat) (type : ShutdownTriggerType),
      ((positionID index type).toList.drop 8).takeWhile Char.isDigit =
        (paddedDecimal 3 index).toList := by
    intro index type
    rw [toList_positionID, drop_left' (by rfl), takeWhile_append_of_pos]
    · simp
    · exact fun c hc => isDigit_of_mem_paddedDecimal hc
  have htexts := hd first type
  rw [h, hd second other] at htexts
  exact paddedDecimal_inj (String.toList_injective htexts.symm)

theorem trimSpace_positionID (index : Nat) (type : ShutdownTriggerType) :
    trimSpace (positionID index type) = positionID index type := by
  apply trimSpace_eq_self
  · intro c hc
    rw [toList_positionID] at hc
    obtain rfl : 't' = c := by simpa using hc
    rfl
  · intro c hc
    have hlast : (positionID index type).toList.getLast? = (toLower type.text).toList.getLast? := by
      have hsome : (toLower type.text).toList.getLast?.isSome = true := by cases type <;> decide
      rw [toList_positionID, ← append_assoc, getLast?_append, getLast?_cons]
      obtain ⟨last, hlast⟩ := Option.isSome_iff_exists.mp hsome
      simp [hlast]
    have hsolid : (toLower type.text).toList.getLast?.all (fun c => !isSpace c) = true := by
      cases type <;> decide
    rw [← hlast, hc] at hsolid
    simpa using hsolid

theorem plain_positionID (index : Nat) (type : ShutdownTriggerType) :
    '\x00' ∉ (positionID index type).toList := by
  rw [toList_positionID, mem_append, mem_append, mem_cons]
  rintro (hlead | hdigit | hdash | htype)
  · exact absurd hlead (by decide)
  · exact absurd (isDigit_of_mem_paddedDecimal hdigit) (by decide)
  · exact absurd hdash (by decide)
  · revert htype
    cases type <;> decide

theorem named_triggerInputsFromFlow (triggers : List ShutdownTrigger) :
    Named (triggerInputsFromFlow triggers) where
  distinct := by
    intro first second trigger other hf hs hid
    obtain ⟨type, htype⟩ := id_triggerInputsFromFlow hf
    obtain ⟨otherType, ho⟩ := id_triggerInputsFromFlow hs
    rw [htype, ho] at hid
    exact positionID_inj hid
  trimmed := by
    intro index trigger hat
    obtain ⟨type, htype⟩ := id_triggerInputsFromFlow hat
    rw [htype, trimSpace_positionID]
  named := by
    intro index trigger hat he
    obtain ⟨type, htype⟩ := id_triggerInputsFromFlow hat
    have hl := congrArg String.toList (htype.symm.trans he)
    rw [toList_positionID] at hl
    simp at hl
  plain := by
    intro index trigger hat
    obtain ⟨type, htype⟩ := id_triggerInputsFromFlow hat
    rw [htype]
    exact plain_positionID index type

end NutOperator.Controller
