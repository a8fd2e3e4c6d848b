import NutOperator.Data.Text
import NutOperator.Triggers.Evaluator

/-! The variables of a NUT server as a snapshot. A status is a set of symbols; the
phase is the first of them in a fixed order, so the others are lost in it. -/
namespace NutOperator.Telemetry

open Data
open Execution (Time)
open Planner (Diagnostic quote warningDiagnostic)
open Triggers (TelemetryPhase)

def variableUPSStatus : String := "ups.status"

def variableBatteryCharge : String := "battery.charge"

def variableBatteryRuntime : String := "battery.runtime"

def variableUPSLoad : String := "ups.load"

def knownStatusSymbols : List String :=
  ["ALARM", "BOOST", "BYPASS", "CAL", "CHRG", "COMM", "DISCHRG", "FSD", "LB", "NOCOMM", "OB",
    "OFF", "OL", "OVER", "RB", "TEST", "TICK", "TOCK", "TRIM"]

inductive FloatValue where
  | finite (value : Rat)
  | infinite (negative : Bool)
  | nan
deriving DecidableEq

structure TextLibrary where
  upper : Char → Char
  parseInt : String → Option Int
  parseFloat : String → Option FloatValue
  /-- The conversion of a finite float to a 64-bit integer. -/
  truncate : Rat → Int

def TextLibrary.toUpper (library : TextLibrary) (text : String) : String :=
  String.ofList (text.toList.map library.upper)

abbrev Variables := AList fun _ : String => String

def read (vars : Variables) (name : String) : String := (vars.lookup name).getD ""

structure Sample where
  (upsDevice nutServer nutName : String := "")
  observedAt : Time := 0
  vars : Variables := ∅
  /-- From the name a device reports to the name it should be read as. -/
  aliases : Variables := ∅

structure Snapshot where
  (upsDevice nutServer nutName : String)
  observedAt : Time
  vars : Variables
  upsStatus : String
  statusSymbols : List String
  phase : TelemetryPhase
  (online onBattery lowBattery forcedShutdown replaceBattery noCommunication alarm : Bool)
  overloaded : Bool
  batteryChargePercent : Option Rat
  runtimeSeconds : Option Int
  loadPercent : Option Rat
  diagnostics : List Diagnostic

structure Aliasing where
  vars : Variables
  applied : Variables := ∅
  diagnostics : List Diagnostic := []

def aliasShadowed (source target : String) : Diagnostic :=
  warningDiagnostic "AliasShadowedByNativeVariable"
    (s!"NUT variable {target} is reported natively, so the profile alias from {source} " ++
      "was not applied") target

def aliasCollision (previous source target : String) : Diagnostic :=
  warningDiagnostic "AliasCollision"
    (s!"NUT variable {target} was already aliased from {previous}, so the alias from " ++
      s!"{source} was not applied") target

def aliasApplied (source target : String) : Diagnostic := warningDiagnostic "AliasApplied"
    (s!"NUT variable {target} arrived under the non-standard name {source} and was " ++
      "resolved by the matched capability profile") target

/-- A name that the device reports itself wins over an alias. -/
def applyAlias (aliases : Variables) (state : Aliasing) (source : String) : Aliasing :=
  let target := read aliases source
  if source = "" ∨ target = "" ∨ source = target then state
  else
    match state.vars.lookup source with
    | none => state
    | some reported =>
      if (state.vars.lookup target).isSome then
        { state with diagnostics := state.diagnostics ++ [aliasShadowed source target] }
      else
        match state.applied.lookup target with
        | some previous =>
          { state with diagnostics := state.diagnostics ++ [aliasCollision previous source target] }
        | none =>
          { vars := state.vars.insert target reported, applied := state.applied.insert target source
            diagnostics := state.diagnostics ++ [aliasApplied source target] }

def applyAliases (vars aliases : Variables) : Variables × List Diagnostic :=
  if vars.keys = [] ∨ aliases.keys = [] then (vars, [])
  else
    let state := (sortStrings aliases.keys).foldl (applyAlias aliases) { vars := vars }
    (state.vars, state.diagnostics)

def statusMissing : Diagnostic :=
  warningDiagnostic "StatusMissing" "NUT variable ups.status is missing or empty" variableUPSStatus

def unknownStatusSymbol (symbol : String) : Diagnostic := warningDiagnostic "UnknownStatusSymbol"
    s!"NUT status symbol {quote symbol} is not known to this normalizer" variableUPSStatus

def addStatusSymbol (library : TextLibrary) (state : List String × List Diagnostic)
    (token : String) : List String × List Diagnostic :=
  let symbol := library.toUpper token
  if symbol ∈ state.1 then state
  else
    (state.1 ++ [symbol],
      if symbol ∈ knownStatusSymbols then state.2 else state.2 ++ [unknownStatusSymbol symbol])

def normalizeStatusSymbols (library : TextLibrary) (status : String) :
    List String × List Diagnostic :=
  if status = "" then ([], [statusMissing])
  else (fields status).foldl (addStatusSymbol library) ([], [])

def statusFlagSet (symbols : List String) (symbol : String) : Bool := symbol ∈ symbols

def phase (flags : String → Bool) (status : String) : TelemetryPhase :=
  if status = "" || flags "NOCOMM" then .stale
  else if flags "OFF" then .unavailable
  else if flags "FSD" || flags "LB" then .lowBattery
  else if flags "OB" then .onBattery
  else if flags "OL" then .online
  else .unknown

def finiteFloat : FloatValue → Option Rat
  | .finite value => some value
  | _ => none

def variableParseFailed (name raw expected : String) : Diagnostic :=
  warningDiagnostic "VariableParseFailed"
    s!"NUT variable {name} value {quote raw} is not {expected}" name

def parseFloatVariable (library : TextLibrary) (vars : Variables) (name : String) :
    Option Rat × List Diagnostic :=
  let raw := trimSpace (read vars name)
  if raw = "" then (none, [])
  else
    match (library.parseFloat raw).bind finiteFloat with
    | some value => (some value, [])
    | none => (none, [variableParseFailed name raw "a number"])

def parseRuntimeSeconds (library : TextLibrary) (vars : Variables) (name : String) :
    Option Int × List Diagnostic :=
  let raw := trimSpace (read vars name)
  if raw = "" then (none, [])
  else
    match library.parseInt raw with
    | some value => (some value, [])
    | none =>
      match (library.parseFloat raw).bind finiteFloat with
      | some value => (some (library.truncate value), [])
      | none => (none, [variableParseFailed name raw "a duration in seconds"])

def normalize (library : TextLibrary) (sample : Sample) : Snapshot :=
  let resolved := applyAliases sample.vars sample.aliases
  let status := trimSpace (read resolved.1 variableUPSStatus)
  let symbols := normalizeStatusSymbols library status
  let charge := parseFloatVariable library resolved.1 variableBatteryCharge
  let runtime := parseRuntimeSeconds library resolved.1 variableBatteryRuntime
  let load := parseFloatVariable library resolved.1 variableUPSLoad
  let flags := statusFlagSet symbols.1
  { upsDevice := sample.upsDevice, nutServer := sample.nutServer, nutName := sample.nutName
    observedAt := sample.observedAt, vars := resolved.1, upsStatus := status
    statusSymbols := symbols.1, phase := phase flags status, online := flags "OL"
    onBattery := flags "OB", lowBattery := flags "LB", forcedShutdown := flags "FSD"
    replaceBattery := flags "RB", noCommunication := flags "NOCOMM", alarm := flags "ALARM"
    overloaded := flags "OVER", batteryChargePercent := charge.1, runtimeSeconds := runtime.1
    loadPercent := load.1
    diagnostics := resolved.2 ++ symbols.2 ++ charge.2 ++ runtime.2 ++ load.2 }

def Sample.Reports (library : TextLibrary) (sample : Sample) (symbol : String) : Prop :=
  symbol ∈ (fields (read (applyAliases sample.vars sample.aliases).1
    variableUPSStatus)).map library.toUpper

instance (library : TextLibrary) (sample : Sample) (symbol : String) :
    Decidable (sample.Reports library symbol) :=
  inferInstanceAs (Decidable (_ ∈ _))

variable {library : TextLibrary} {sample : Sample} {symbol : String}

theorem mem_foldl_addStatusSymbol (tokens : List String) (state : List String × List Diagnostic) :
    symbol ∈ (tokens.foldl (addStatusSymbol library) state).1 ↔
      symbol ∈ state.1 ∨ symbol ∈ tokens.map library.toUpper := by
  induction tokens generalizing state with
  | nil => simp
  | cons token rest ih =>
    have hstep : symbol ∈ (addStatusSymbol library state token).1 ↔
        symbol ∈ state.1 ∨ symbol = library.toUpper token := by
      rw [addStatusSymbol]
      split
      · rename_i hseen
        constructor
        · exact Or.inl
        · rintro (hmem | rfl)
          · exact hmem
          · exact hseen
      · simp
    rw [List.foldl_cons, ih, hstep, List.map_cons, List.mem_cons, or_assoc]

theorem mem_normalizeStatusSymbols {status : String} :
    symbol ∈ (normalizeStatusSymbols library status).1 ↔
      symbol ∈ (fields status).map library.toUpper := by
  rw [normalizeStatusSymbols]
  split
  · rename_i he
    have hnone : fields "" = [] := by decide
    rw [he, hnone]
    simp
  · rw [mem_foldl_addStatusSymbol]
    simp

theorem statusFlagSet_normalize :
    statusFlagSet (normalize library sample).statusSymbols symbol = true ↔
      sample.Reports library symbol := by
  have hs : (normalize library sample).statusSymbols = (normalizeStatusSymbols library
      (trimSpace (read (applyAliases sample.vars sample.aliases).1 variableUPSStatus))).1 := by
    rw [normalize]
  rw [statusFlagSet, decide_eq_true_eq, hs, mem_normalizeStatusSymbols, fields_trimSpace,
    Sample.Reports]

theorem upsStatus_normalize_ne_empty (h : sample.Reports library symbol) :
    (normalize library sample).upsStatus ≠ "" := by
  intro he
  have ht : trimSpace (read (applyAliases sample.vars sample.aliases).1
      variableUPSStatus) = "" := by
    rw [← he, normalize]
  have hnone : fields "" = [] := by decide
  rw [Sample.Reports, ← fields_trimSpace, ht, hnone] at h
  exact absurd h List.not_mem_nil

theorem phase_normalize (library : TextLibrary) (sample : Sample) :
    (normalize library sample).phase =
      phase (statusFlagSet (normalize library sample).statusSymbols)
        (normalize library sample).upsStatus := by
  simp only [normalize]

theorem phase_normalize_of_mains (hmains : sample.Reports library "OL")
    (hbattery : ¬ sample.Reports library "OB") (hforced : ¬ sample.Reports library "FSD") :
    (normalize library sample).phase =
      if sample.Reports library "NOCOMM" then .stale
      else if sample.Reports library "OFF" then .unavailable
      else if sample.Reports library "LB" then .lowBattery
      else .online := by
  have hs := upsStatus_normalize_ne_empty hmains
  rw [← statusFlagSet_normalize] at hmains hbattery hforced
  simp only [phase_normalize, phase, hs, hmains, hbattery, hforced, ← statusFlagSet_normalize,
    decide_false, Bool.false_or, if_true, if_false, reduceCtorEq]

/-- An aliased name is reported from then on, so a second alias to it is shadowed. -/
def Aliasing.Shadows (state : Aliasing) : Prop :=
  (∀ name ∈ state.applied, name ∈ state.vars) ∧
    "AliasCollision" ∉ state.diagnostics.map (·.reason)

theorem Aliasing.Shadows.step {state : Aliasing} {aliases source}
    (h : state.Shadows) : (applyAlias aliases state source).Shadows := by
  obtain ⟨htoken, hsilent⟩ := h
  fun_cases applyAlias aliases state source with
  | case3 =>
    refine ⟨htoken, ?_⟩
    simpa [aliasShadowed, warningDiagnostic] using hsilent
  | case4 _ _ _ _ hnew _ ha =>
    rw [AList.lookup_isSome] at hnew
    exact absurd (htoken _ (AList.lookup_isSome.mp (ha ▸ rfl))) hnew
  | case5 =>
    refine ⟨fun name hname => ?_, ?_⟩
    · rw [AList.mem_insert] at hname ⊢
      exact hname.imp_right (htoken name)
    · simpa [aliasApplied, warningDiagnostic] using hsilent
  | _ => exact ⟨htoken, hsilent⟩

theorem no_alias_collision (vars aliases : Variables) :
    "AliasCollision" ∉ (applyAliases vars aliases).2.map (·.reason) := by
  unfold applyAliases
  split
  · simp
  · exact (List.foldlRecOn (motive := Aliasing.Shadows) _ (applyAlias aliases)
      (by simp [Aliasing.Shadows]) fun _ h _ _ => h.step).2

end NutOperator.Telemetry
