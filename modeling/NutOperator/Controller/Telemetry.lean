import NutOperator.Controller.Observation
import NutOperator.Telemetry.Normalize
import NutOperator.Triggers.Waits

/-! A snapshot in the status of its device, and what the flows make of it. The
status keeps the phase and drops the flags, so a device on mains whose battery is
low reads as one on battery. -/
namespace NutOperator.Controller

open Data Telemetry Triggers

def upsDevicePhase : TelemetryPhase → UPSDevicePhase
  | .online => .online
  | .onBattery => .onBattery
  | .lowBattery => .lowBattery
  | .stale => .stale
  | .unavailable => .unavailable
  | .unknown => .unknown

def roundFloat (value : Rat) : Int :=
  if value < 0 then -(1 / 2 - value).floor else (value + 1 / 2).floor

/-- A percentage out of the range of its field is dropped. -/
def int32FromFloat (value : Option Rat) : Option Int :=
  (value.map roundFloat).filter fun rounded => -2 ^ 31 ≤ rounded ∧ rounded ≤ 2 ^ 31 - 1

def applyTelemetrySnapshotStatus (device : UPSDevice) (snapshot : Snapshot) : UPSDevice :=
  { device with
    phase := some (upsDevicePhase snapshot.phase), lastPollTime := some snapshot.observedAt
    lastStatus := snapshot.upsStatus
    batteryChargePercent := int32FromFloat snapshot.batteryChargePercent
    runtimeSeconds := snapshot.runtimeSeconds, loadPercent := int32FromFloat snapshot.loadPercent }

def drains : Option UPSDevicePhase → Bool
  | some .onBattery | some .lowBattery => true
  | _ => false

theorem onBattery_powerObservationFromDevices (device : UPSDevice) (trusted : Bool) :
    (powerObservationFromDevices [device] trusted).onBattery = drains device.phase := by
  have hruntime : ∀ (reduction : Reduction) (runtime : Option Int),
      (reduction.addRuntime runtime).observation.onBattery = reduction.observation.onBattery := by
    intro reduction runtime
    cases runtime <;> rfl
  have hr : (powerObservationFromDevices [device] trusted).onBattery =
      ((⟨{ runtimeTrusted := trusted }, true⟩ : Reduction).add device).observation.onBattery := by
    rw [powerObservationFromDevices, List.foldl_cons, List.foldl_nil]
    split <;> rfl
  rw [hr, Reduction.add]
  cases hp : device.phase with
  | none => rfl
  | some phase => cases phase <;> simp only [hruntime, drains]

theorem triggerMatchesState_onBattery {trigger : Trigger} (htype : trigger.type = typeOnBattery)
    (state : UPSState) : (triggerMatchesState trigger state).1 =
      (state.onBattery || state.phase = .onBattery || state.phase = .lowBattery) := by
  have hclass : (evaluateTriggerClass trigger.type trigger state).1 =
      boolOutcome (state.onBattery || state.phase = .onBattery || state.phase = .lowBattery) := by
    rw [evaluateTriggerClass, if_pos htype]
  rw [Bool.eq_iff_iff, triggerMatchesState_iff, MatchesState, hclass]
  cases state.onBattery || state.phase = .onBattery || state.phase = .lowBattery <;>
    simp [boolOutcome]

theorem onBattery_matches {trigger : ShutdownTrigger} (htype : trigger.type = .onBattery)
    {index : Nat} {input : Trigger} (hinput : input ∈ triggerInputsFromFlow [trigger])
    {device : UPSDevice} {bundle : StructuralBundle} {state : UPSState}
    (hstate : state ∈ triggerUPSStatesFromDevices [device] bundle) :
    (triggerMatchesState (normalizeTrigger index input) (normalizeUPSState state)).1 =
      drains device.phase := by
  obtain rfl := List.mem_singleton.mp hinput
  obtain rfl := List.mem_singleton.mp hstate
  have hn : trimSpace trigger.type.text = typeOnBattery := by
    rw [trimSpace_text, htype]
    rfl
  rw [triggerMatchesState_onBattery hn]
  cases hp : device.phase with
  | none => simp [normalizeUPSState, hp, telemetryPhaseFromUPSDevice, drains]
  | some phase =>
    cases phase <;> simp [normalizeUPSState, hp, telemetryPhaseFromUPSDevice, drains]

/-- A device on mains reads as no outage unless it also reports a low battery: the
phase of such a device is that of one whose battery drains. -/
theorem mains_present_no_outage_iff (library : TextLibrary) (sample : Sample) (device : UPSDevice)
    (bundle : StructuralBundle) (trusted : Bool) (hmains : sample.Reports library "OL")
    (hbattery : ¬ sample.Reports library "OB") (hforced : ¬ sample.Reports library "FSD") :
    let polled := applyTelemetrySnapshotStatus device (normalize library sample)
    ((∀ trigger : ShutdownTrigger, trigger.type = .onBattery →
        ∀ index, ∀ input ∈ triggerInputsFromFlow [trigger],
        ∀ state ∈ triggerUPSStatesFromDevices [polled] bundle,
          (triggerMatchesState (normalizeTrigger index input) (normalizeUPSState state)).1 =
            false) ∧
      (powerObservationFromDevices [polled] trusted).onBattery = false) ↔
    (¬ sample.Reports library "LB" ∨ sample.Reports library "NOCOMM" ∨
      sample.Reports library "OFF") := by
  intro polled
  have hdrained : drains polled.phase = false ↔ ¬ sample.Reports library "LB" ∨
      sample.Reports library "NOCOMM" ∨ sample.Reports library "OFF" := by
    have hp : polled.phase = some (upsDevicePhase (normalize library sample).phase) := rfl
    rw [hp, phase_normalize_of_mains hmains hbattery hforced]
    by_cases hs : sample.Reports library "NOCOMM"
    · simp [hs, upsDevicePhase, drains]
    · by_cases ho : sample.Reports library "OFF"
      · simp [hs, ho, upsDevicePhase, drains]
      · by_cases hlow : sample.Reports library "LB" <;>
          simp [hs, ho, hlow, upsDevicePhase, drains]
  rw [← hdrained, onBattery_powerObservationFromDevices]
  constructor
  · exact And.right
  · intro hidle
    refine ⟨?_, hidle⟩
    intro trigger htype index input hi state hstate
    rw [onBattery_matches htype hi hstate, hidle]

def asciiLibrary : TextLibrary where
  upper := Char.toUpper
  parseInt := signedDecimals.decode
  parseFloat := fun text => (signedDecimals.decode text).map fun value => .finite value
  truncate := Rat.floor

def statusSample (status : String) : Sample :=
  { upsDevice := "rack-a-ups", vars := (∅ : Variables).insert variableUPSStatus status }

theorem charging_is_no_outage :
    let polled := applyTelemetrySnapshotStatus { name := "rack-a-ups" }
      (normalize asciiLibrary (statusSample " ol CHRG\tol"))
    (∀ trigger : ShutdownTrigger, trigger.type = .onBattery →
        ∀ index, ∀ input ∈ triggerInputsFromFlow [trigger],
        ∀ state ∈ triggerUPSStatesFromDevices [polled] {},
          (triggerMatchesState (normalizeTrigger index input) (normalizeUPSState state)).1 =
            false) ∧
      (powerObservationFromDevices [polled] true).onBattery = false :=
  (mains_present_no_outage_iff asciiLibrary (statusSample " ol CHRG\tol")
    { name := "rack-a-ups" } {} true (by decide) (by decide) (by decide)).mpr (by decide)

/-- Mains is back and the battery still low: the device has a draining phase. -/
theorem low_battery_on_mains_reads_as_outage : (statusSample "OL LB").Reports asciiLibrary "OL" ∧
      ¬ (statusSample "OL LB").Reports asciiLibrary "OB" ∧
      ¬ (statusSample "OL LB").Reports asciiLibrary "FSD" ∧
      let polled := applyTelemetrySnapshotStatus { name := "rack-a-ups" }
        (normalize asciiLibrary (statusSample "OL LB"))
      (∀ index, ∀ input ∈ triggerInputsFromFlow [{ type := .onBattery }],
        ∀ state ∈ triggerUPSStatesFromDevices [polled] {},
          (triggerMatchesState (normalizeTrigger index input) (normalizeUPSState state)).1 =
            true) ∧
        (powerObservationFromDevices [polled] true).onBattery = true := by
  have hp : (applyTelemetrySnapshotStatus { name := "rack-a-ups" }
      (normalize asciiLibrary (statusSample "OL LB"))).phase = some .lowBattery := by decide
  refine ⟨by decide, by decide, by decide, ?_, ?_⟩
  · intro index input hi state hs
    rw [onBattery_matches rfl hi hs, hp]
    rfl
  · rw [onBattery_powerObservationFromDevices, hp]
    rfl

end NutOperator.Controller
