import NutOperator.Controller.Groups

/-! Several devices as one power observation. A flow is as constrained as its
worst-off device, and a device that does not report makes the runtime unknown. -/
namespace NutOperator.Controller

open Data
open Adaptive (PowerObservation)

def devicePhaseReportsPower : Option UPSDevicePhase → Bool
  | some .online | some .onBattery | some .lowBattery => true
  | _ => false

def lowerOf (known : Option Int) (value : Int) : Option Int :=
  match known with
  | none => some value
  | some lowest => if value < lowest then some value else some lowest

def higherOf (known : Option Int) (value : Int) : Option Int :=
  match known with
  | none => some value
  | some highest => if value > highest then some value else some highest

structure Reduction where
  observation : PowerObservation
  runtimeKnown : Bool := true
deriving Repr, DecidableEq

def Reduction.addRuntime (reduction : Reduction) (runtime : Option Int) : Reduction :=
  match runtime with
  | none => { reduction with runtimeKnown := false }
  | some seconds =>
    { reduction with
      observation.runtimeSeconds := lowerOf reduction.observation.runtimeSeconds seconds }

def Reduction.add (reduction : Reduction) (device : UPSDevice) : Reduction :=
  match device.phase with
  | some .lowBattery =>
    { reduction with
      observation.onBattery := true
      observation.lowBattery := true }.addRuntime device.runtimeSeconds
  | some .onBattery =>
    { reduction with observation.onBattery := true }.addRuntime device.runtimeSeconds
  | some .online => reduction.addRuntime device.runtimeSeconds
  -- a silent device must not read as headroom
  | _ => { reduction with runtimeKnown := false }

def powerObservationFromDevices (devices : List UPSDevice) (trusted : Bool) : PowerObservation :=
  let reduction := devices.foldl Reduction.add ⟨{ runtimeTrusted := trusted }, true⟩
  if reduction.runtimeKnown then reduction.observation
  else { reduction.observation with runtimeSeconds := none }

def runtimeBudgetFromDevices (devices : List UPSDevice) (bundle : StructuralBundle)
    (fallback : PowerObservation) (unknownSupply : Bool) : PowerObservation :=
  let active := devices.filter fun device => device.phase ≠ some .online
  let unknown := unknownSupply || active.any fun device => !devicePhaseReportsPower device.phase
  let observation := powerObservationFromDevices active
    (runtimeIsTrustedForFlow bundle.capabilityMatches (active.map (·.name)))
  if unknown then
    { observation with
      runtimeSeconds := none, runtimeTrusted := false
      onBattery := observation.onBattery || fallback.onBattery
      lowBattery := observation.lowBattery || fallback.lowBattery }
  else observation

def getDevice (devices : List UPSDevice) (name : String) : Option UPSDevice :=
  devices.find? (·.name = name)

def runtimeBudgetObservation (devices : List UPSDevice) (names : List String)
    (bundle : StructuralBundle) (fallback : PowerObservation) (unknownSupply : Bool) :
    PowerObservation :=
  let read := names.map fun name =>
    (getDevice devices name).getD { name := name, phase := some .unknown }
  runtimeBudgetFromDevices read bundle fallback unknownSupply

def powerObserverForFlow (supplies : List String × Bool) (bundle : StructuralBundle)
    (selected : List String) (fallback : PowerObservation) :
    Option (List UPSDevice → PowerObservation) :=
  let names := sortedUnique (selected ++ supplies.1)
  if names = [] ∧ supplies.2 = false then none
  else some fun devices => runtimeBudgetObservation devices names bundle fallback supplies.2

structure HistoryObservation where
  (runtimeSeconds chargePercent loadPercent : Option Int := none)
deriving Repr, DecidableEq

/-- One figure over all devices: every device must report, and report it. -/
def reduceReported (devices : List UPSDevice) (value : UPSDevice → Option Int)
    (combine : Option Int → Int → Option Int) : Option Int :=
  if devices.all fun device => devicePhaseReportsPower device.phase && (value device).isSome then
    (devices.filterMap value).foldl combine none
  else none

def flowRuntimeObservation (devices : List UPSDevice) (supplies : List String × Bool)
    (evaluation : Option ShutdownTriggerEvaluationStatus) (bundle : StructuralBundle) :
    HistoryObservation :=
  match evaluation with
  | none => {}
  | some evaluation =>
    if evaluation.selectedUPSDevices = [] then {}
    else
      match (sortedUnique (evaluation.selectedUPSDevices ++ supplies.1)).mapM
          (getDevice devices) with
      | none => {}
      | some read =>
        let observation := runtimeBudgetFromDevices read bundle {} supplies.2
        { runtimeSeconds := if observation.runtimeTrusted then observation.runtimeSeconds else none
          chargePercent := reduceReported read (·.batteryChargePercent) lowerOf
          loadPercent := reduceReported read (·.loadPercent) higherOf }

end NutOperator.Controller
