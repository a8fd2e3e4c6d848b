import NutOperator.Data.Sorting
import NutOperator.Planner.Text

/-! Triggers against the telemetry their devices report. A trigger that no
device can satisfy rejects the plan; a partly covered one degrades it. -/
namespace NutOperator.Planner

open Data

def requiredVariablesForTrigger (type : String) : List String :=
  if type = "OnBattery" ∨ type = "LowBattery" then ["ups.status"]
  else if type = "RuntimeBelow" then ["battery.runtime"]
  else if type = "ChargeBelow" then ["battery.charge"]
  else if type = "TelemetryStale" then []
  else ["__unsupported_trigger__"]

def coarserTriggerForFallback (type : String) : Option String :=
  if type = "RuntimeBelow" ∨ type = "ChargeBelow" then some "LowBattery" else none

def coversVariables (declared required : List String) : Bool := required.all (· ∈ declared)

def variableList (names : List String) : String := join names " and "

/-- Named devices win over named domains; a trigger naming neither addresses
every known device. -/
def triggerTargetDevices (trigger : Trigger) (domains : AList (fun _ : String => List String))
    (allDevices : List String) : List String × String :=
  if trigger.upsDevices ≠ [] then (sortStrings trigger.upsDevices, "the devices it names")
  else if trigger.powerDomains ≠ [] then
    (sortedUnique (trigger.powerDomains.flatMap fun domain => (domains.lookup domain).getD []),
      s!"power domain {commaList (sortStrings trigger.powerDomains)}")
  else (allDevices, "any power domain")

def fallbackHint : Option String → String
  | none => ""
  | some suggested => s!". Declaring fallbackType: {suggested} would cover them"

def coarserAdvice (type : String) : Option String → String
  | none =>
    s!"{quote type} already needs only the telemetry every device reports, so no coarser " ++
      "class exists and fallbackType must be unset"
  | some suggested => s!"the only coarser class is {quote suggested}"

def uncoveredDevices (declared : AList (fun _ : String => List String)) (required : List String)
    (devices : List String) : List String :=
  devices.filter fun device =>
    (declared.lookup device).any fun reported => !coversVariables reported required

def evaluateUndeclaredFallback (trigger : Trigger) (unsupported : List String) (scope : String)
    (required : List String) (everyDevice : Bool) : Diagnostic :=
  let devices := join unsupported ", "
  let hint := fallbackHint (coarserTriggerForFallback trigger.type)
  if everyDevice then
    errorDiagnostic "TriggerUnsupportedByAllDevices"
      (s!"trigger {quote trigger.type} requires NUT {variableList required}, which no device " ++
        s!"in {scope} declares ({devices}); this plan can never fire{hint}") trigger.type
  else
    warningDiagnostic "TriggerDegradedByDeviceCapability"
      (s!"trigger {quote trigger.type} requires NUT {variableList required}, which {devices} " ++
        s!"in {scope} does not declare; the trigger still fires for the remaining devices and " ++
        s!"this plan is degraded for those it cannot cover{hint}") trigger.type

def evaluateTriggerFallback (trigger : Trigger) (unsupported : List String) (scope : String)
    (required : List String) (declared : AList (fun _ : String => List String))
    (everyDevice : Bool) : Diagnostic :=
  let suggested := coarserTriggerForFallback trigger.type
  if trigger.fallbackType = "" then
    evaluateUndeclaredFallback trigger unsupported scope required everyDevice
  else if suggested ≠ some trigger.fallbackType then
    errorDiagnostic "TriggerFallbackNotCoarser"
      (s!"trigger {quote trigger.type} declares fallback {quote trigger.fallbackType}, which " ++
        s!"is not a coarser class for it; {coarserAdvice trigger.type suggested}") trigger.type
  else
    let fallbackRequired := requiredVariablesForTrigger trigger.fallbackType
    let stillUncovered := uncoveredDevices declared fallbackRequired unsupported
    if stillUncovered ≠ [] then
      errorDiagnostic "TriggerFallbackUnsatisfiable"
        (s!"trigger {quote trigger.type} declares fallback {quote trigger.fallbackType}, which " ++
          s!"requires NUT {variableList fallbackRequired} that " ++
          s!"{commaList (sortStrings stillUncovered)} still does not declare; the fallback " ++
          "covers nothing for those devices") trigger.type
    else
      infoDiagnostic "TriggerSubstituted"
        (s!"trigger {quote trigger.type} cannot be satisfied by {commaList unsupported} in " ++
          s!"{scope}, so the declared fallback {quote trigger.fallbackType} applies to those " ++
          s!"devices; they act on {variableList fallbackRequired} rather than " ++
          s!"{variableList required}") trigger.type

def validateTriggerCapabilities (input : StructuralInputs) : List Diagnostic :=
  if input.deviceCapabilities = [] ∨ input.triggers = [] then []
  else
    let identified := input.deviceCapabilities.filter fun device => device.deviceID ≠ ""
    let declared := fillMap (·.deviceID) (fun device => some device.telemetryVariables) identified
    let allDevices := sortStrings (identified.map (·.deviceID))
    let domains := fillMap (·.name) (fun domain => some domain.upsDevices) input.powerDomains
    input.triggers.flatMap fun trigger =>
      let (targets, scope) := triggerTargetDevices trigger domains allDevices
      let required := requiredVariablesForTrigger trigger.type
      let unsupported := sortStrings (uncoveredDevices declared required targets)
      if targets = [] ∨ required = [] ∨ unsupported = [] then []
      else
        [evaluateTriggerFallback trigger unsupported scope required declared
          (unsupported.length = targets.length)]

end NutOperator.Planner
