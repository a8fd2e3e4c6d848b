import NutOperator.Controller.Observation

/-! Which changes of a device wake the flows. What a flow reads of a device does not
include when it was polled nor the text it reported, so a change of these alone may
be dropped. -/
namespace NutOperator.Controller

open Data Triggers List
open Adaptive (PowerObservation)
open Execution (Time)

def upsDeviceTriggerInputsChanged (oldDevice newDevice : UPSDevice) : Bool :=
  if oldDevice.generation ≠ newDevice.generation then true
  else if oldDevice.powerDomains ≠ newDevice.powerDomains then true
  else if oldDevice.phase ≠ newDevice.phase then true
  else if oldDevice.runtimeSeconds ≠ newDevice.runtimeSeconds then true
  else if oldDevice.batteryChargePercent ≠ newDevice.batteryChargePercent then true
  else oldDevice.loadPercent ≠ newDevice.loadPercent

def UPSDevice.unpolled (device : UPSDevice) : UPSDevice :=
  { device with lastPollTime := none, lastStatus := "" }

def timeless (state : UPSState) : UPSState := { state with observedAt := 0 }

theorem unpolled_eq_of_unchanged {oldDevice newDevice : UPSDevice}
    (hname : oldDevice.name = newDevice.name)
    (h : upsDeviceTriggerInputsChanged oldDevice newDevice = false) :
    oldDevice.unpolled = newDevice.unpolled := by
  simp only [upsDeviceTriggerInputsChanged, Bool.if_true_left, Bool.or_eq_false_iff,
    decide_eq_false_iff_not, ne_eq, not_not] at h
  obtain ⟨hg, hd, hp, hr, hc, hload⟩ := h
  simp only [UPSDevice.unpolled, hname, hg, hd, hp, hr, hc, hload]

theorem triggerUPSStatesFromDevices_unpolled (devices : List UPSDevice)
    (bundle : StructuralBundle) :
    triggerUPSStatesFromDevices (devices.map UPSDevice.unpolled) bundle =
      (triggerUPSStatesFromDevices devices bundle).map timeless := by
  simp only [triggerUPSStatesFromDevices, map_map]
  rfl

theorem selectUPSStates_timeless (trigger : Trigger) (states : List UPSState) :
    selectUPSStates trigger (states.map timeless) = (selectUPSStates trigger states).map
      timeless := by
  simp only [selectUPSStates]
  split
  · rfl
  · rw [filter_map]
    rfl

theorem normalizeUPSStates_timeless (states : List UPSState) :
    normalizeUPSStates (states.map timeless) = (normalizeUPSStates states).map timeless := by
  have hm : (states.map timeless).map normalizeUPSState =
      (states.map normalizeUPSState).map timeless := by
    simp only [map_map]
    rfl
  rw [normalizeUPSStates, normalizeUPSStates, hm, filter_map]
  exact (map_insertionSort _ _ timeless _ fun _ _ _ _ => Iff.rfl).symm

theorem evaluateTrigger_timeless (observedAt : Time) (trigger : Trigger) (states : List UPSState)
    (holds : AList fun _ : String => HoldState) :
    evaluateTrigger observedAt trigger (states.map timeless) holds =
      evaluateTrigger observedAt trigger states holds := by
  have hscan : ∀ (scan : Scan) (state : UPSState),
      scanState observedAt trigger holds scan (timeless state) =
        scanState observedAt trigger holds scan state := fun _ _ => rfl
  simp only [evaluateTrigger, selectUPSStates_timeless, map_eq_nil_iff, foldl_map, hscan]

section

variable (devices : List UPSDevice) (bundle : StructuralBundle)

theorem evaluateShutdownFlowTriggers_unpolled (flow : ShutdownFlow) (observedAt : Time)
    (configHash : String) :
    evaluateShutdownFlowTriggers (devices.map UPSDevice.unpolled) bundle flow observedAt
      configHash =
      evaluateShutdownFlowTriggers devices bundle flow observedAt configHash := by
  have heval : evaluate (triggerInputs (devices.map UPSDevice.unpolled) bundle flow
      observedAt) = evaluate (triggerInputs devices bundle flow observedAt) := by
    simp only [evaluate, triggerInputs, triggerUPSStatesFromDevices_unpolled,
      normalizeUPSStates_timeless, evaluateTrigger_timeless]
  simp only [evaluateShutdownFlowTriggers, heval]

theorem getDevice_unpolled (name : String) : getDevice (devices.map UPSDevice.unpolled) name =
      (getDevice devices name).map UPSDevice.unpolled := by
  rw [getDevice, getDevice, List.find?_map]
  rfl

theorem powerObservationFromDevices_unpolled (trusted : Bool) :
    powerObservationFromDevices (devices.map UPSDevice.unpolled) trusted =
      powerObservationFromDevices devices trusted := by
  have hadd : ∀ (reduction : Reduction) (device : UPSDevice),
      reduction.add device.unpolled = reduction.add device := fun _ _ => rfl
  simp only [powerObservationFromDevices, foldl_map, hadd]

theorem runtimeBudgetFromDevices_unpolled (fallback : PowerObservation) (unknownSupply : Bool) :
    runtimeBudgetFromDevices (devices.map UPSDevice.unpolled) bundle fallback unknownSupply =
      runtimeBudgetFromDevices devices bundle fallback unknownSupply := by
  have ha : (devices.map UPSDevice.unpolled).filter (fun device => device.phase ≠ some .online) =
      (devices.filter fun device => device.phase ≠ some .online).map UPSDevice.unpolled := by
    rw [filter_map]
    rfl
  simp only [runtimeBudgetFromDevices, ha, powerObservationFromDevices_unpolled,
    any_map, map_map]
  rfl

theorem runtimeBudgetObservation_unpolled (names : List String) (fallback : PowerObservation)
    (unknownSupply : Bool) :
    runtimeBudgetObservation (devices.map UPSDevice.unpolled) names bundle fallback unknownSupply =
      runtimeBudgetObservation devices names bundle fallback unknownSupply := by
  have hread : (names.map fun name => (getDevice (devices.map UPSDevice.unpolled) name).getD
        { name := name, phase := some .unknown }) =
      (names.map fun name => (getDevice devices name).getD
        { name := name, phase := some .unknown }).map UPSDevice.unpolled := by
    rw [map_map]
    apply map_congr_left
    intro name _
    rw [getDevice_unpolled, Function.comp_apply]
    cases getDevice devices name <;> rfl
  simp only [runtimeBudgetObservation, hread, runtimeBudgetFromDevices_unpolled]

theorem reduceReported_unpolled {value : UPSDevice → Option Int}
    (hv : ∀ device : UPSDevice, value device.unpolled = value device)
    (combine : Option Int → Int → Option Int) :
    reduceReported (devices.map UPSDevice.unpolled) value combine =
      reduceReported devices value combine := by
  have hp : ∀ device : UPSDevice, device.unpolled.phase = device.phase := fun _ => rfl
  simp only [reduceReported, all_map, filterMap_map, Function.comp_def, hv, hp]

theorem flowRuntimeObservation_unpolled (supplies : List String × Bool)
    (evaluation : Option ShutdownTriggerEvaluationStatus) :
    flowRuntimeObservation (devices.map UPSDevice.unpolled) supplies evaluation bundle =
      flowRuntimeObservation devices supplies evaluation bundle := by
  have hread : ∀ names : List String, names.mapM (getDevice (devices.map UPSDevice.unpolled)) =
      (names.mapM (getDevice devices)).map (List.map UPSDevice.unpolled) := by
    intro names
    induction names with
    | nil => rfl
    | cons name rest ih =>
      rw [mapM_cons, mapM_cons, ih, getDevice_unpolled]
      cases getDevice devices name with
      | none => rfl
      | some device => cases rest.mapM (getDevice devices) <;> rfl
  cases evaluation with
  | none => rfl
  | some evaluation =>
    simp only [flowRuntimeObservation, hread]
    split
    · rfl
    · cases (sortedUnique (evaluation.selectedUPSDevices ++ supplies.1)).mapM
        (getDevice devices) with
      | none => rfl
      | some read =>
        have hc := @reduceReported_unpolled read
          (fun device => device.batteryChargePercent) (fun _ => rfl) lowerOf
        have hload := @reduceReported_unpolled read
          (fun device => device.loadPercent) (fun _ => rfl) higherOf
        simp only [Option.map_some, runtimeBudgetFromDevices_unpolled, hc, hload]

end

/-- A change that wakes no flow changes nothing a flow computes: its decisions, its
selection and its holds, the observation its feasibility is compared with, and the
budget its waves observe. -/
theorem dropped_change_is_irrelevant (oldDevice newDevice : UPSDevice)
    (hname : oldDevice.name = newDevice.name)
    (hdropped : upsDeviceTriggerInputsChanged oldDevice newDevice = false)
    (before after : List UPSDevice) (bundle : StructuralBundle) :
    (∀ (flow : ShutdownFlow) (observedAt : Time) (configHash : String),
      evaluateShutdownFlowTriggers (before ++ oldDevice :: after) bundle flow observedAt
          configHash =
        evaluateShutdownFlowTriggers (before ++ newDevice :: after) bundle flow observedAt
          configHash) ∧
    (∀ (supplies : List String × Bool) (evaluation : Option ShutdownTriggerEvaluationStatus),
      flowRuntimeObservation (before ++ oldDevice :: after) supplies evaluation bundle =
        flowRuntimeObservation (before ++ newDevice :: after) supplies evaluation bundle) ∧
    (∀ (supplies : List String × Bool) (selected : List String) (fallback : PowerObservation),
      ∀ observer ∈ powerObserverForFlow supplies bundle selected fallback,
        observer (before ++ oldDevice :: after) = observer (before ++ newDevice :: after)) := by
  have hsame : (before ++ oldDevice :: after).map UPSDevice.unpolled =
      (before ++ newDevice :: after).map UPSDevice.unpolled := by
    simp only [List.map_append, List.map_cons, unpolled_eq_of_unchanged hname hdropped]
  refine ⟨?_, ?_, ?_⟩
  · intro flow observedAt configHash
    rw [← evaluateShutdownFlowTriggers_unpolled, hsame, evaluateShutdownFlowTriggers_unpolled]
  · intro supplies evaluation
    rw [← flowRuntimeObservation_unpolled, hsame, flowRuntimeObservation_unpolled]
  · intro supplies selected fallback observer ho
    rw [powerObserverForFlow, Option.mem_def, ite_eq_iff] at ho
    obtain ⟨-, hnone⟩ | ⟨-, hobserved⟩ := ho
    · cases hnone
    · cases hobserved
      simp only
      rw [← runtimeBudgetObservation_unpolled, hsame, runtimeBudgetObservation_unpolled]

def drainingDevice (polledAt : Time) (status : String) : UPSDevice :=
  { name := "rack-a-ups", phase := some .onBattery, runtimeSeconds := some 600
    batteryChargePercent := some 80, lastPollTime := some polledAt, generation := 1
    lastStatus := status, loadPercent := some 40 }

theorem poll_of_draining_device_is_irrelevant :
    upsDeviceTriggerInputsChanged (drainingDevice 0 "OB") (drainingDevice 30 "OB DISCHRG") =
        false ∧
      evaluateShutdownFlowTriggers [drainingDevice 0 "OB"] {}
          { spec.triggers := [{ type := .onBattery }] } 60 "" =
        evaluateShutdownFlowTriggers [drainingDevice 30 "OB DISCHRG"] {}
          { spec.triggers := [{ type := .onBattery }] } 60 "" :=
  ⟨by decide, (dropped_change_is_irrelevant (drainingDevice 0 "OB")
    (drainingDevice 30 "OB DISCHRG") rfl (by decide) [] [] {}).1 _ _ _⟩

end NutOperator.Controller
