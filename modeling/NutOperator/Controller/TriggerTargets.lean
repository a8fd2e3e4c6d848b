import NutOperator.Controller.Triggers
import NutOperator.Planner.Triggers
import NutOperator.Triggers.Waits

/-! Whom a trigger addresses. The planner validates a trigger against devices, the
evaluator waits for devices, and the comments of both say that they are the same. -/
namespace NutOperator.Controller

open Data Triggers List
open Planner (DeviceCapability Diagnostic PowerDomainMembership StructuralInputs
  coversVariables evaluateTriggerFallback evaluateUndeclaredFallback requiredVariablesForTrigger
  triggerTargetDevices uncoveredDevices validateTriggerCapabilities)

def plannerTrigger (trigger : ShutdownTrigger) : Planner.Trigger :=
  { type := trigger.type.text
    fallbackType := (trigger.fallbackType.map ShutdownTriggerType.text).getD ""
    upsDevices := trigger.upsDeviceRefs, powerDomains := trigger.powerDomains
    holdFor := trigger.holdFor.getD 0, runtimeBelowSeconds := trigger.runtimeBelowSeconds
    chargeBelowPercent := trigger.chargeBelowPercent }

def evaluatorTrigger (index : Nat) (trigger : ShutdownTrigger) : Trigger := normalizeTrigger index
    { type := trigger.type.text
      fallbackType := (trigger.fallbackType.map ShutdownTriggerType.text).getD ""
      upsDevices := trigger.upsDeviceRefs, powerDomains := trigger.powerDomains
      holdFor := trigger.holdFor.getD 0, runtimeBelowSeconds := trigger.runtimeBelowSeconds
      chargeBelowPercent := trigger.chargeBelowPercent }

def Tidy (name : String) : Prop := trimSpace name = name ∧ name ≠ ""

instance (name : String) : Decidable (Tidy name) := inferInstanceAs (Decidable (_ ∧ _))

structure TriggerTopology where
  devices : List DeviceCapability
  domains : List PowerDomainMembership
  distinct : (domains.map (·.name)).Nodup
  tidyDevices : ∀ device ∈ devices, Tidy device.deviceID
  tidyDomains : ∀ domain ∈ domains, Tidy domain.name

namespace TriggerTopology

def known (topology : TriggerTopology) : List String := topology.devices.map (·.deviceID)

def identified (topology : TriggerTopology) : List DeviceCapability :=
  topology.devices.filter fun device => device.deviceID ≠ ""

def declared (topology : TriggerTopology) : AList fun _ : String => List String :=
  fillMap (·.deviceID) (fun device => some device.telemetryVariables) topology.identified

def domainDevices (topology : TriggerTopology) : AList fun _ : String => List String :=
  fillMap (·.name) (fun domain => some domain.upsDevices) topology.domains

def targets (topology : TriggerTopology) (trigger : ShutdownTrigger) : List String :=
  (triggerTargetDevices (plannerTrigger trigger) topology.domainDevices
    (sortStrings (topology.identified.map (·.deviceID)))).1

def inputs (topology : TriggerTopology) (trigger : ShutdownTrigger) : StructuralInputs :=
  { triggers := [plannerTrigger trigger], deviceCapabilities := topology.devices
    powerDomains := topology.domains }

def Rejects (topology : TriggerTopology) (trigger : ShutdownTrigger) : Prop :=
  ∃ diagnostic ∈ validateTriggerCapabilities (topology.inputs trigger),
    diagnostic.reason = "TriggerUnsupportedByAllDevices"

instance (topology : TriggerTopology) (trigger : ShutdownTrigger) :
    Decidable (topology.Rejects trigger) :=
  inferInstanceAs (Decidable (∃ diagnostic ∈ _, _))

structure Observes (topology : TriggerTopology) (states : List UPSState) : Prop where
  tidy : ∀ state ∈ states, Tidy state.upsDevice
  seen : ∀ device ∈ topology.known, ∃ state ∈ states, state.upsDevice = device
  domains : ∀ state ∈ states, ∀ name, name ∈ state.powerDomains ↔
    ∃ domain ∈ topology.domains, domain.name = name ∧ state.upsDevice ∈ domain.upsDevices

structure Reports (topology : TriggerTopology) (state : UPSState) : Prop where
  status : "ups.status" ∉ (topology.declared.lookup state.upsDevice).getD [] →
    state.onBattery = false ∧ state.lowBattery = false ∧ state.phase ≠ .onBattery ∧
      state.phase ≠ .lowBattery
  runtime : "battery.runtime" ∉ (topology.declared.lookup state.upsDevice).getD [] →
    state.runtimeSeconds = none
  charge : "battery.charge" ∉ (topology.declared.lookup state.upsDevice).getD [] →
    state.chargePercent = none

end TriggerTopology

theorem stringSet_eq_self {names : List String} (h : ∀ name ∈ names, Tidy name) :
    stringSet names = names := by
  have hmap : names.map trimSpace = names := by
    conv_rhs => rw [← map_id names]
    exact map_congr_left fun name hname => (h name hname).1
  rw [stringSet, hmap, filter_eq_self]
  exact fun name hname => decide_eq_true (h name hname).2

theorem stringSet_sortedUniqueStrings {names : List String} (h : ∀ name ∈ names, Tidy name) :
    stringSet (sortedUniqueStrings names) = sortedUnique names := by
  rw [sortedUniqueStrings, stringSet_eq_self h]
  exact stringSet_eq_self fun name hname => h name (mem_sortedUnique.mp hname)

section

variable {topology : TriggerTopology} {trigger : ShutdownTrigger} {states : List UPSState}
  {device : String} {index : Nat}

def InNamedDomain (topology : TriggerTopology) (trigger : ShutdownTrigger) (device : String) :
    Prop :=
  ∃ domain ∈ topology.domains, domain.name ∈ trigger.powerDomains ∧ device ∈ domain.upsDevices

theorem mem_targets : device ∈ topology.targets trigger ↔
    if trigger.upsDeviceRefs ≠ [] then device ∈ trigger.upsDeviceRefs
    else if trigger.powerDomains ≠ [] then InNamedDomain topology trigger device
    else device ∈ topology.known := by
  have hlookup : ∀ name, device ∈ (topology.domainDevices.lookup name).getD [] ↔
      ∃ domain ∈ topology.domains, domain.name = name ∧ device ∈ domain.upsDevices := by
    intro name
    by_cases hname : name ∈ topology.domains.map (·.name)
    · obtain ⟨domain, hdomain, rfl⟩ := mem_map.mp hname
      rw [TriggerTopology.domainDevices, lookup_fillMap topology.distinct hdomain, Option.getD_some]
      refine ⟨fun hdevice => ⟨domain, hdomain, rfl, hdevice⟩, ?_⟩
      rintro ⟨other, ho, hsame, hdevice⟩
      exact inj_on_of_nodup_map topology.distinct ho hdomain hsame ▸ hdevice
    · rw [TriggerTopology.domainDevices, lookup_fillMap_eq_none hname]
      refine ⟨nofun, ?_⟩
      rintro ⟨domain, hdomain, rfl, -⟩
      exact absurd (mem_map_of_mem hdomain) hname
  have hknown : topology.identified = topology.devices := by
    rw [TriggerTopology.identified, filter_eq_self]
    exact fun device hdevice => decide_eq_true (topology.tidyDevices device hdevice).2
  unfold TriggerTopology.targets triggerTargetDevices plannerTrigger
  dsimp only
  split
  · exact mem_sortStrings
  · split
    · rw [mem_sortedUnique, mem_flatMap, InNamedDomain]
      simp only [hlookup]
      constructor
      · rintro ⟨name, hname, domain, hdomain, rfl, hdevice⟩
        exact ⟨domain, hdomain, hname, hdevice⟩
      · rintro ⟨domain, hdomain, hname, hdevice⟩
        exact ⟨domain.name, hname, domain, hdomain, rfl, hdevice⟩
    · rw [hknown]
      exact mem_sortStrings

def Evaluated (index : Nat) (trigger : ShutdownTrigger) (states : List UPSState)
    (device : String) : Prop :=
  ∃ state ∈ selectUPSStates (evaluatorTrigger index trigger) (normalizeUPSStates states),
    state.upsDevice = device

theorem mem_normalizeUPSStates {state : UPSState} (htidy : ∀ state ∈ states, Tidy state.upsDevice) :
    state ∈ normalizeUPSStates states ↔ ∃ seen ∈ states, normalizeUPSState seen = state := by
  rw [normalizeUPSStates, mem_sortStable, mem_filter, mem_map, decide_eq_true_eq,
    and_iff_left_iff_imp]
  rintro ⟨seen, hseen, rfl⟩
  rw [normalizeUPSState, (htidy seen hseen).1]
  exact (htidy seen hseen).2

section

variable (hobserved : topology.Observes states)
  (hdevices : ∀ name ∈ trigger.upsDeviceRefs, Tidy name)
  (hdomains : ∀ name ∈ trigger.powerDomains, Tidy name)

include hobserved hdevices hdomains

theorem mem_selectUPSStates {state : UPSState} :
    state ∈ selectUPSStates (evaluatorTrigger index trigger) (normalizeUPSStates states) ↔
      ∃ seen ∈ states, normalizeUPSState seen = state ∧
        (trigger.upsDeviceRefs = [] ∧ trigger.powerDomains = [] ∨
          seen.upsDevice ∈ trigger.upsDeviceRefs ∨
          InNamedDomain topology trigger seen.upsDevice) := by
  have hshared : ∀ seen ∈ states, ((normalizeUPSState seen).powerDomains.any
      (· ∈ sortedUnique trigger.powerDomains)) = true ↔
        InNamedDomain topology trigger seen.upsDevice := by
    intro seen hseen
    have htidy : ∀ name ∈ seen.powerDomains, Tidy name := by
      intro name hname
      obtain ⟨domain, hd, rfl, -⟩ := (hobserved.domains seen hseen name).mp hname
      exact topology.tidyDomains domain hd
    simp only [normalizeUPSState, sortedUniqueStrings, stringSet_eq_self htidy, any_eq_true,
      mem_sortedUnique, decide_eq_true_eq, hobserved.domains seen hseen, InNamedDomain]
    constructor
    · rintro ⟨name, ⟨domain, hd, rfl, hdevice⟩, hname⟩
      exact ⟨domain, hd, hname, hdevice⟩
    · rintro ⟨domain, hd, hname, hdevice⟩
      exact ⟨domain.name, ⟨domain, hd, rfl, hdevice⟩, hname⟩
  have hname : ∀ seen ∈ states, (normalizeUPSState seen).upsDevice = seen.upsDevice :=
    fun seen hseen => (hobserved.tidy seen hseen).1
  unfold selectUPSStates evaluatorTrigger normalizeTrigger
  dsimp only
  rw [stringSet_sortedUniqueStrings hdevices, stringSet_sortedUniqueStrings hdomains]
  simp only [sortedUnique_eq_nil]
  split
  · rename_i hnone
    rw [mem_normalizeUPSStates hobserved.tidy]
    simp [hnone]
  · rename_i hsome
    rw [mem_filter, mem_normalizeUPSStates hobserved.tidy]
    constructor
    · rintro ⟨⟨seen, hseen, rfl⟩, ha⟩
      rw [Bool.or_eq_true, decide_eq_true_eq, mem_sortedUnique, hname seen hseen,
        hshared seen hseen] at ha
      exact ⟨seen, hseen, rfl, .inr ha⟩
    · rintro ⟨seen, hseen, rfl, ha⟩
      refine ⟨⟨seen, hseen, rfl⟩, ?_⟩
      rw [Bool.or_eq_true, decide_eq_true_eq, mem_sortedUnique, hname seen hseen,
        hshared seen hseen]
      exact ha.resolve_left hsome

theorem evaluated_iff (hknown : device ∈ topology.known) : Evaluated index trigger states device ↔
      trigger.upsDeviceRefs = [] ∧ trigger.powerDomains = [] ∨ device ∈ trigger.upsDeviceRefs ∨
        InNamedDomain topology trigger device := by
  constructor
  · rintro ⟨state, hs, rfl⟩
    obtain ⟨seen, hseen, rfl, ha⟩ := (mem_selectUPSStates hobserved hdevices hdomains).mp hs
    rwa [show (normalizeUPSState seen).upsDevice = seen.upsDevice from
      (hobserved.tidy seen hseen).1]
  · intro ha
    obtain ⟨seen, hseen, rfl⟩ := hobserved.seen device hknown
    exact ⟨normalizeUPSState seen, (mem_selectUPSStates hobserved hdevices hdomains).mpr
      ⟨seen, hseen, rfl, ha⟩, (hobserved.tidy seen hseen).1⟩

theorem mem_targets_iff_evaluated (hknown : device ∈ topology.known) :
    (device ∈ topology.targets trigger ↔ Evaluated index trigger states device) ↔
      (trigger.upsDeviceRefs = [] ∨
        (InNamedDomain topology trigger device → device ∈ trigger.upsDeviceRefs)) := by
  rw [mem_targets, evaluated_iff hobserved hdevices hdomains hknown]
  by_cases hrefs : trigger.upsDeviceRefs = []
  · by_cases hn : trigger.powerDomains = []
    · simp [hrefs, hn, hknown]
    · simp [hrefs, hn]
  · simp only [hrefs, ne_eq, not_false_eq_true, if_true, false_and, false_or]
    constructor
    · exact fun hsame hd => hsame.mpr (.inr hd)
    · exact fun hc => ⟨.inl, fun h => h.elim id hc⟩

end

theorem TriggerTopology.Rejects.uncovered (h : topology.Rejects trigger) :
    trigger.fallbackType = none ∧ requiredVariablesForTrigger trigger.type.text ≠ [] ∧
      ∀ device ∈ topology.targets trigger, ∃ reported,
        topology.declared.lookup device = some reported ∧
          coversVariables reported (requiredVariablesForTrigger trigger.type.text) = false := by
  obtain ⟨diagnostic, hmem, hreason⟩ := h
  unfold validateTriggerCapabilities at hmem
  split at hmem
  · cases hmem
  · simp only [TriggerTopology.inputs, flatMap_singleton] at hmem
    change diagnostic ∈ if topology.targets trigger = [] ∨
        requiredVariablesForTrigger trigger.type.text = [] ∨
        sortStrings (uncoveredDevices topology.declared
          (requiredVariablesForTrigger trigger.type.text) (topology.targets trigger)) = [] then []
      else [evaluateTriggerFallback (plannerTrigger trigger) _ _ _ _
        (decide ((sortStrings (uncoveredDevices topology.declared
          (requiredVariablesForTrigger trigger.type.text) (topology.targets trigger))).length =
            (topology.targets trigger).length))] at hmem
    split at hmem
    · cases hmem
    · rename_i hsome
      rw [mem_singleton] at hmem
      rw [hmem] at hreason
      unfold evaluateTriggerFallback at hreason
      dsimp only at hreason
      split at hreason
      · rename_i hfallback
        unfold evaluateUndeclaredFallback at hreason
        dsimp only at hreason
        split at hreason
        · rename_i hevery
          refine ⟨?_, fun hnone => hsome (.inr (.inl hnone)), ?_⟩
          · cases hd : trigger.fallbackType with
            | none => rfl
            | some type =>
              rw [plannerTrigger, hd] at hfallback
              have htext : type.text ≠ "" := by cases type <;> decide
              exact absurd hfallback htext
          · intro device hdevice
            have hlen : (uncoveredDevices topology.declared (requiredVariablesForTrigger
                trigger.type.text) (topology.targets trigger)).length =
                  (topology.targets trigger).length :=
              (sortStable_perm _ _).length_eq.symm.trans (of_decide_eq_true hevery)
            have hu := length_filter_eq_length_iff.mp hlen device hdevice
            cases hr : topology.declared.lookup device with
            | none => simp [hr] at hu
            | some reported => exact ⟨reported, rfl, by simpa [hr] using hu⟩
        · simp [Planner.warningDiagnostic] at hreason
      · split at hreason <;> [skip; split at hreason] <;>
          simp [Planner.errorDiagnostic, Planner.infoDiagnostic] at hreason

theorem not_matches_of_uncovered {state : UPSState} (hreport : topology.Reports state)
    (hfallback : trigger.fallbackType = none)
    (hrequired : requiredVariablesForTrigger trigger.type.text ≠ [])
    (hunchanged : coversVariables ((topology.declared.lookup state.upsDevice).getD [])
      (requiredVariablesForTrigger trigger.type.text) = false) :
    (triggerMatchesState (evaluatorTrigger index trigger) (normalizeUPSState state)).1 = false := by
  have htype : (evaluatorTrigger index trigger).type = trigger.type.text := by
    cases htype : trigger.type <;> simp only [evaluatorTrigger, normalizeTrigger, htype] <;> decide
  have hnone : (evaluatorTrigger index trigger).fallbackType = "" := by
    simp [evaluatorTrigger, normalizeTrigger, hfallback]
  have hoccupied : (evaluateTriggerClass trigger.type.text (evaluatorTrigger index trigger)
      (normalizeUPSState state)).1 ≠ .matched := by
    cases htype : trigger.type with
    | onBattery | lowBattery =>
      have hs := hreport.status (by simpa [htype, requiredVariablesForTrigger,
        ShutdownTriggerType.text, coversVariables] using hunchanged)
      simp [evaluateTriggerClass, ShutdownTriggerType.text, typeOnBattery, typeLowBattery,
        normalizeUPSState, boolOutcome, hs]
    | runtimeBelow =>
      have hr := hreport.runtime (by simpa [htype, requiredVariablesForTrigger,
        ShutdownTriggerType.text, coversVariables] using hunchanged)
      cases hb : (evaluatorTrigger index trigger).runtimeBelowSeconds <;>
        simp [evaluateTriggerClass, ShutdownTriggerType.text, typeOnBattery, typeLowBattery,
          typeRuntimeBelow, normalizeUPSState, belowOutcome, hb, hr]
    | chargeBelow =>
      have hc := hreport.charge (by simpa [htype, requiredVariablesForTrigger,
        ShutdownTriggerType.text, coversVariables] using hunchanged)
      cases hb : (evaluatorTrigger index trigger).chargeBelowPercent <;>
        simp [evaluateTriggerClass, ShutdownTriggerType.text, typeOnBattery, typeLowBattery,
          typeRuntimeBelow, typeChargeBelow, normalizeUPSState, belowOutcome, hb, hc]
    | telemetryStale =>
      rw [htype] at hrequired
      exact absurd (by decide) hrequired
  unfold triggerMatchesState
  simp only [htype, hnone, or_true, if_true]
  exact decide_eq_false hoccupied

def devicePairs (bundle : StructuralBundle) : List (String × String) :=
  (bundle.domains.filter fun domain => domain.name ≠ "").flatMap fun domain =>
    (domain.upsDevices.filter (· ≠ "")).map fun device => (device, domain.name)

theorem mem_devicePairs {bundle : StructuralBundle} {name : String} :
    (device, name) ∈ devicePairs bundle ↔ ∃ domain ∈ bundle.domains, domain.name = name ∧
      name ≠ "" ∧ device ∈ domain.upsDevices ∧ device ≠ "" := by
  simp only [devicePairs, mem_flatMap, mem_filter, decide_eq_true_eq, mem_map, Prod.mk.injEq]
  constructor
  · rintro ⟨domain, ⟨hd, hname⟩, other, ⟨ho, hne⟩, rfl, rfl⟩
    exact ⟨domain, hd, rfl, hname, ho, hne⟩
  · rintro ⟨domain, hd, rfl, hname, ho, hne⟩
    exact ⟨domain, ⟨hd, hname⟩, device, ⟨ho, hne⟩, rfl, rfl⟩

theorem observes_triggerUPSStatesFromDevices {bundle : StructuralBundle} {devices : List UPSDevice}
    (hdomains : topology.domains.map (fun domain => (domain.name, domain.upsDevices)) =
      bundle.domains.map fun domain => (domain.name, domain.upsDevices))
    (hplaced : ∃ domain ∈ bundle.domains, domain.name ≠ "" ∧ ∃ device ∈ domain.upsDevices,
      device ≠ "")
    (hdevices : ∀ device ∈ devices, Tidy device.name)
    (hknown : ∀ device ∈ topology.known, device ∈ devices.map (·.name)) :
    topology.Observes (triggerUPSStatesFromDevices devices bundle) := by
  have hsame : ∀ name upsDevices, (∃ domain ∈ topology.domains, domain.name = name ∧
      domain.upsDevices = upsDevices) ↔ ∃ domain ∈ bundle.domains, domain.name = name ∧
        domain.upsDevices = upsDevices := by
    intro name upsDevices
    have hpair := Iff.of_eq (congrArg ((name, upsDevices) ∈ ·) hdomains)
    simpa using hpair
  refine ⟨?_, ?_, ?_⟩
  · intro state hs
    obtain ⟨device, hdevice, rfl⟩ := mem_map.mp hs
    exact hdevices device hdevice
  · intro device hdevice
    obtain ⟨found, hfound, rfl⟩ := mem_map.mp (hknown device hdevice)
    exact ⟨_, mem_map_of_mem hfound, rfl⟩
  · intro state hs name
    obtain ⟨device, hdevice, rfl⟩ := mem_map.mp hs
    have hpairs : (device.name, name) ∈ devicePairs bundle ↔
        ∃ domain ∈ topology.domains, domain.name = name ∧ device.name ∈ domain.upsDevices := by
      rw [mem_devicePairs]
      constructor
      · rintro ⟨domain, hd, rfl, -, hmem, -⟩
        obtain ⟨found, hfound, hname, hupsDevices⟩ := (hsame _ _).mpr ⟨domain, hd, rfl, rfl⟩
        exact ⟨found, hfound, hname, hupsDevices ▸ hmem⟩
      · rintro ⟨domain, hd, rfl, hmem⟩
        obtain ⟨found, hfound, hname, hupsDevices⟩ := (hsame _ _).mp ⟨domain, hd, rfl, rfl⟩
        exact ⟨found, hfound, hname, (topology.tidyDomains domain hd).2,
          hupsDevices ▸ hmem, (hdevices device hdevice).2⟩
    have hsome : devicePairs bundle ≠ [] := by
      obtain ⟨domain, hd, hname, other, ho, hne⟩ := hplaced
      exact ne_nil_of_mem (mem_devicePairs.mpr ⟨domain, hd, rfl, hname, ho, hne⟩)
    have hderives : triggerPowerDomainsByUPSDevice bundle = some fun device =>
        sortedUnique (((devicePairs bundle).filter fun pair => pair.1 = device).map (·.2)) :=
      if_neg hsome
    rw [← hpairs, hderives]
    simp [triggerPowerDomainsForDevice]

def TriggerTopology.telemetry (topology : TriggerTopology) : List UPSState :=
  topology.known.map fun device =>
    { upsDevice := device, powerDomains := (topology.domains.filter fun domain =>
        device ∈ domain.upsDevices).map (·.name) }

theorem TriggerTopology.observes_telemetry (topology : TriggerTopology) :
    topology.Observes topology.telemetry := by
  refine ⟨?_, ?_, ?_⟩
  · intro state hs
    obtain ⟨device, hd, rfl⟩ := mem_map.mp hs
    obtain ⟨cap, hc, rfl⟩ := mem_map.mp hd
    exact topology.tidyDevices cap hc
  · intro device hd
    exact ⟨_, mem_map_of_mem hd, rfl⟩
  · intro state hs name
    obtain ⟨device, hd, rfl⟩ := mem_map.mp hs
    simp only [mem_map, mem_filter, decide_eq_true_eq]
    constructor
    · rintro ⟨domain, ⟨hdomain, hmem⟩, rfl⟩
      exact ⟨domain, hdomain, rfl, hmem⟩
    · rintro ⟨domain, hdomain, rfl, hmem⟩
      exact ⟨domain, ⟨hdomain, hmem⟩, rfl⟩

/-- The planner and the evaluator agree on whom a trigger addresses, and a trigger that
the planner rejects for all of them never matches. -/
structure AgreesOn (topology : TriggerTopology) (trigger : ShutdownTrigger) : Prop where
  same : ∀ index states, topology.Observes states → ∀ device ∈ topology.known,
    (device ∈ topology.targets trigger ↔ Evaluated index trigger states device)
  silent : topology.Rejects trigger →
    ∀ (flow : List ShutdownTrigger) (index : Nat) (inputs : Inputs),
    flow[index]? = some trigger → inputs.triggers = triggerInputsFromFlow flow →
    topology.Observes inputs.upsStates → (∀ state ∈ inputs.upsStates, topology.Reports state) →
    ∀ decision, (evaluate inputs).decisions[index]? = some decision → decision.matched = false

/-- They agree exactly for the triggers that name no device, or name all the known
devices of the domains they name. -/
theorem planner_agrees_with_evaluator_iff (hdevices : ∀ name ∈ trigger.upsDeviceRefs, Tidy name)
    (hdomains : ∀ name ∈ trigger.powerDomains, Tidy name) :
    AgreesOn topology trigger ↔ trigger.upsDeviceRefs = [] ∨
      ∀ device ∈ topology.known, InNamedDomain topology trigger device →
        device ∈ trigger.upsDeviceRefs := by
  constructor
  · intro ha
    rw [or_iff_not_imp_left]
    intro hrefs device hknown
    exact ((mem_targets_iff_evaluated topology.observes_telemetry hdevices hdomains hknown).mp
      (ha.same 0 _ topology.observes_telemetry device hknown)).resolve_left hrefs
  · intro hc
    have hsame : ∀ index states, topology.Observes states → ∀ device ∈ topology.known,
        (device ∈ topology.targets trigger ↔ Evaluated index trigger states device) :=
      fun index states hobserved device hknown =>
        (mem_targets_iff_evaluated hobserved hdevices hdomains hknown).mpr
          (hc.imp_right fun hall => hall device hknown)
    refine ⟨hsame, ?_⟩
    intro hr flow index inputs hat ht hobserved hreports decision hd
    obtain ⟨hf, hrequired, hunchanged⟩ := hr.uncovered
    rw [getElem?_decisions_evaluate, ht, triggerInputsFromFlow, List.getElem?_map, hat] at hd
    cases hd
    have hnone : matchingStates (evaluatorTrigger index trigger)
        (normalizeUPSStates inputs.upsStates) = [] := by
      rw [matchingStates, List.filter_eq_nil_iff]
      intro state hs
      obtain ⟨seen, hseen, rfl, -⟩ := (mem_selectUPSStates hobserved hdevices hdomains).mp hs
      rw [Bool.not_eq_true]
      apply not_matches_of_uncovered (hreports seen hseen) hf hrequired
      by_cases hknown : seen.upsDevice ∈ topology.known
      · have htarget := (hsame index _ hobserved _ hknown).mpr
          ⟨_, hs, (hobserved.tidy seen hseen).1⟩
        obtain ⟨reported, hreport, hmiss⟩ := hunchanged _ htarget
        rw [hreport]
        exact hmiss
      · -- a device without a profile declares nothing
        have hu : topology.declared.lookup seen.upsDevice = none :=
          lookup_fillMap_eq_none fun hmem =>
            hknown (List.Sublist.subset (List.filter_sublist.map _) hmem)
        rw [hu, Option.getD_none]
        obtain ⟨first, hfirst⟩ := List.exists_mem_of_ne_nil _ hrequired
        rw [coversVariables, List.all_eq_false]
        exact ⟨first, hfirst, by simp⟩
    apply eq_false_of_ne_true
    intro hm
    exact matched_evaluateTrigger.mp hm hnone

end

def rackTopology : TriggerTopology where
  devices := [{ deviceID := "a", telemetryVariables := ["ups.status"] },
    { deviceID := "b", telemetryVariables := ["ups.status", "battery.runtime"] }]
  domains := [{ name := "rack", upsDevices := ["b"] }]
  distinct := by decide
  tidyDevices := by decide
  tidyDomains := by decide

def mixedTrigger : ShutdownTrigger :=
  { type := .runtimeBelow, upsDeviceRefs := ["a"], powerDomains := ["rack"],
    runtimeBelowSeconds := some 600 }

def lowRuntime : Inputs where
  observedAt := 0
  triggers := triggerInputsFromFlow [mixedTrigger]
  upsStates := [{ upsDevice := "a", phase := .online },
    { upsDevice := "b", powerDomains := ["rack"], phase := .online, runtimeSeconds := some 100 }]
  holds := []

/-- The planner rejects a trigger that matches a device of the domain it names. -/
theorem mixed_trigger_rejected_and_matched :
    rackTopology.Rejects mixedTrigger ∧ rackTopology.Observes lowRuntime.upsStates ∧
      (∀ state ∈ lowRuntime.upsStates, rackTopology.Reports state) ∧
      (evaluate lowRuntime).decisions.map (·.matched) = [true] ∧
      ¬AgreesOn rackTopology mixedTrigger := by
  have hrejected : rackTopology.Rejects mixedTrigger := by decide
  have hobserved : rackTopology.Observes lowRuntime.upsStates := by
    refine ⟨by decide, by decide,
      List.forall_mem_cons.mpr ⟨?_, List.forall_mem_singleton.mpr ?_⟩⟩ <;>
        simp [rackTopology, eq_comm]
  have hr : ∀ state ∈ lowRuntime.upsStates, rackTopology.Reports state := by
    refine List.forall_mem_cons.mpr ⟨?_, List.forall_mem_singleton.mpr ?_⟩
    · exact ⟨fun _ => by decide, fun _ => rfl, fun _ => rfl⟩
    · exact ⟨fun _ => by decide, fun hmiss => absurd (by decide) hmiss, fun _ => rfl⟩
  have hm : (evaluate lowRuntime).decisions.map (·.matched) = [true] := by decide
  refine ⟨hrejected, hobserved, hr, hm, fun ha => ?_⟩
  obtain ⟨decision, hd, htrue⟩ := List.map_eq_singleton_iff.mp hm
  have hfalse := ha.silent hrejected [mixedTrigger] 0 lowRuntime rfl rfl hobserved hr
    decision (by rw [hd]; rfl)
  rw [htrue] at hfalse
  cases hfalse

theorem planner_agrees_with_evaluator_rack :
    AgreesOn rackTopology { mixedTrigger with upsDeviceRefs := [] } :=
  (planner_agrees_with_evaluator_iff (by decide) (by decide)).mpr (.inl rfl)

end NutOperator.Controller
