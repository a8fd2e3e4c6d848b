import NutOperator.Adaptive.Hysteresis
import NutOperator.Controller.Observation
import Mathlib.Data.List.Count

/-! The runtime budget of several devices. Only devices that are not online count, and
what is not known never reads as time left. -/
namespace NutOperator.Controller

open Data Adaptive List

def drainingDevices (devices : List UPSDevice) : List UPSDevice :=
  devices.filter fun device => device.phase ≠ some .online

def UPSDevice.reportsRuntime (device : UPSDevice) : Bool :=
  devicePhaseReportsPower device.phase && device.runtimeSeconds.isSome

def UPSDevice.discharging (device : UPSDevice) : Bool :=
  device.phase = some .onBattery || device.phase = some .lowBattery

def UPSDevice.TrustedBy (device : UPSDevice) (bundle : StructuralBundle) : Prop :=
  ∃ capability ∈ bundle.capabilityMatches, capability.deviceID = device.name ∧
    capability.supportsTimingAdaptation = true

def UPSDevice.MatchedOnce (device : UPSDevice) (bundle : StructuralBundle) : Prop :=
  ∃ capability, bundle.capabilityMatches.filter (·.deviceID = device.name) = [capability]

section

variable {devices others : List UPSDevice} {bundle : StructuralBundle}
  {fallback : PowerObservation} {unknownSupply : Bool}

def UPSDevice.lower (device : UPSDevice) (known : Option Int) : Option Int :=
  if devicePhaseReportsPower device.phase then device.runtimeSeconds.elim known (lowerOf known)
  else known

theorem Reduction.add_eq (reduction : Reduction) (device : UPSDevice) : reduction.add device =
      { observation :=
          { reduction.observation with
            onBattery := reduction.observation.onBattery || device.discharging
            lowBattery := reduction.observation.lowBattery || device.phase = some .lowBattery
            runtimeSeconds := device.lower reduction.observation.runtimeSeconds }
        runtimeKnown := reduction.runtimeKnown && device.reportsRuntime } := by
  rcases hr : device.runtimeSeconds with _ | seconds <;>
    rcases hp : device.phase with _ | (_ | _ | _ | _ | _ | _) <;>
      simp [Reduction.add, Reduction.addRuntime, UPSDevice.lower, UPSDevice.reportsRuntime,
        UPSDevice.discharging, devicePhaseReportsPower, hr, hp]

theorem foldl_lowerOf (values : List Int) : values.foldl lowerOf none = values.min? := by
  have hsome : ∀ (values : List Int) (lowest : Int),
      values.foldl lowerOf (some lowest) = some (values.foldl min lowest) := by
    intro values
    induction values with
    | nil => simp
    | cons value rest ih =>
      intro lowest
      rw [foldl_cons, foldl_cons, ← ih, lowerOf]
      grind
  cases values with
  | nil => rfl
  | cons value rest => exact hsome rest value

theorem Reduction.foldl_add (devices : List UPSDevice) (start : Reduction) :
    let reduced := devices.foldl Reduction.add start
    reduced.observation.onBattery = (start.observation.onBattery || devices.any (·.discharging)) ∧
      reduced.observation.lowBattery =
        (start.observation.lowBattery || devices.any (·.phase = some .lowBattery)) ∧
      reduced.observation.runtimeTrusted = start.observation.runtimeTrusted ∧
      reduced.runtimeKnown = (start.runtimeKnown && devices.all (·.reportsRuntime)) ∧
      (devices.all (·.reportsRuntime) = true → reduced.observation.runtimeSeconds =
        (devices.filterMap (·.runtimeSeconds)).foldl lowerOf start.observation.runtimeSeconds) := by
  induction devices generalizing start with
  | nil => simp
  | cons device rest ih =>
    obtain ⟨hb, hlow, ht, hk, hr⟩ := ih (start.add device)
    refine ⟨?_, ?_, ?_, ?_, fun hall => ?_⟩
    · rw [foldl_cons, hb, Reduction.add_eq, any_cons, Bool.or_assoc]
    · rw [foldl_cons, hlow, Reduction.add_eq, any_cons, Bool.or_assoc]
    · rw [foldl_cons, ht, Reduction.add_eq]
    · rw [foldl_cons, hk, Reduction.add_eq, all_cons, Bool.and_assoc]
    obtain ⟨hd, hrest⟩ := Bool.and_eq_true_iff.mp (all_cons ▸ hall)
    obtain ⟨hp, hsome⟩ := Bool.and_eq_true_iff.mp hd
    obtain ⟨secs, hs⟩ := Option.isSome_iff_exists.mp hsome
    rw [foldl_cons, hr hrest, filterMap_cons_some hs, foldl_cons, Reduction.add_eq]
    simp [UPSDevice.lower, hp, hs]

theorem runtimeIsTrustedForFlow_iff (hnames : (devices.map (·.name)).Nodup)
    (hmatched : ∀ device ∈ devices, device.MatchedOnce bundle) :
    runtimeIsTrustedForFlow bundle.capabilityMatches (devices.map (·.name)) = true ↔
      devices ≠ [] ∧ ∀ device ∈ devices, device.TrustedBy bundle := by
  -- each name has one match, so the wanted matches are as many as the names
  have hwant : ((bundle.capabilityMatches.filter fun cap =>
      cap.deviceID ∈ devices.map (·.name)).map (·.deviceID)).Perm (devices.map (·.name)) := by
    rw [perm_iff_count]
    intro name
    rw [count_eq_countP, countP_map, countP_filter]
    by_cases hmem : name ∈ devices.map (·.name)
    · obtain ⟨device, hdevice, rfl⟩ := mem_map.mp hmem
      obtain ⟨cap, honly⟩ := hmatched device hdevice
      rw [count_eq_one_of_mem hnames hmem, ← length_singleton (a := cap), ← honly,
        ← countP_eq_length_filter]
      refine countP_congr fun other _ => ?_
      simp only [Function.comp_apply, beq_iff_eq, Bool.and_eq_true, decide_eq_true_eq]
      exact ⟨fun h => h.1, fun h => ⟨h, h ▸ hmem⟩⟩
    · rw [count_eq_zero_of_not_mem hmem, countP_eq_zero]
      intro other _
      simp only [Function.comp_apply, beq_iff_eq, Bool.and_eq_true, decide_eq_true_eq, not_and]
      exact fun h => h ▸ hmem
  have hlen := hwant.length_eq
  rw [length_map] at hlen
  simp only [runtimeIsTrustedForFlow, hlen, hnames.dedup, Bool.and_eq_true, decide_eq_true_eq,
    all_eq_true, mem_filter, ne_eq, map_eq_nil_iff, and_true]
  have honly : ∀ device ∈ devices, ∃ only, ∀ cap, (cap ∈ bundle.capabilityMatches ∧
      cap.deviceID = device.name) ↔ cap = only := by
    intro device hdevice
    obtain ⟨only, honly⟩ := hmatched device hdevice
    refine ⟨only, fun cap => ?_⟩
    rw [← mem_singleton (a := cap), ← honly, mem_filter, decide_eq_true_eq]
  constructor
  · rintro ⟨⟨hsome, -⟩, hall⟩
    refine ⟨hsome, fun device hdevice => ?_⟩
    obtain ⟨only, honly⟩ := honly device hdevice
    obtain ⟨hmem, hname⟩ := (honly only).mpr rfl
    exact ⟨only, hmem, hname, hall only ⟨hmem, mem_map.mpr ⟨device, hdevice, hname.symm⟩⟩⟩
  · rintro ⟨hsome, hall⟩
    obtain ⟨first, hf⟩ := exists_mem_of_ne_nil _ hsome
    obtain ⟨other, ho, -⟩ := hall first hf
    refine ⟨⟨hsome, ne_nil_of_mem ho⟩, fun cap ⟨hmem, hname⟩ => ?_⟩
    obtain ⟨device, hdevice, hname⟩ := mem_map.mp hname
    obtain ⟨trusted, ht, hid, hs⟩ := hall device hdevice
    obtain ⟨only, honly⟩ := honly device hdevice
    rw [(honly cap).mp ⟨hmem, hname.symm⟩, ← (honly trusted).mp ⟨ht, hid⟩]
    exact hs

theorem powerObservationFromDevices_eq (devices : List UPSDevice) (trusted : Bool) :
    powerObservationFromDevices devices trusted =
      { onBattery := devices.any (·.discharging)
        lowBattery := devices.any (·.phase = some .lowBattery)
        runtimeTrusted := trusted
        runtimeSeconds :=
          if devices.all (·.reportsRuntime) then (devices.filterMap (·.runtimeSeconds)).min?
          else none } := by
  obtain ⟨hbattery, hlow, htrusted, hk, hr⟩ :=
    Reduction.foldl_add devices ⟨{ runtimeTrusted := trusted }, true⟩
  rw [foldl_lowerOf] at hr
  rw [Bool.false_or] at hbattery hlow
  rw [Bool.true_and] at hk
  rw [powerObservationFromDevices]
  simp only [hk]
  split
  · rename_i hall
    rw [← hbattery, ← hlow, ← hr hall]
    exact congrArg (PowerObservation.mk _ _ _) htrusted
  · rw [← hbattery, ← hlow, htrusted]

theorem runtimeBudgetFromDevices_flags (devices : List UPSDevice) (bundle : StructuralBundle)
    (fallback : PowerObservation) (unknownSupply : Bool) :
    let unknown := unknownSupply ||
      (drainingDevices devices).any fun device => !devicePhaseReportsPower device.phase
    let budget := runtimeBudgetFromDevices devices bundle fallback unknownSupply
    budget.onBattery =
        ((drainingDevices devices).any (·.discharging) || unknown && fallback.onBattery) ∧
      budget.lowBattery = ((drainingDevices devices).any (·.phase = some .lowBattery) ||
        unknown && fallback.lowBattery) := by
  intro unknown budget
  simp only [budget, runtimeBudgetFromDevices, powerObservationFromDevices_eq,
    ← drainingDevices.eq_1]
  change (ite (unknown = true) _ _ : PowerObservation).onBattery = _ ∧
    (ite (unknown = true) _ _ : PowerObservation).lowBattery = _
  cases unknown <;> simp

theorem measuredRuntime_runtimeBudgetFromDevices {seconds : Int} :
    (runtimeBudgetFromDevices devices bundle fallback unknownSupply).measuredRuntime =
        some seconds ↔
      unknownSupply = false ∧ runtimeIsTrustedForFlow bundle.capabilityMatches
          ((drainingDevices devices).map (·.name)) = true ∧
        (∀ device ∈ drainingDevices devices, device.reportsRuntime = true) ∧
        ((drainingDevices devices).filterMap (·.runtimeSeconds)).min? = some seconds := by
  have hu : (drainingDevices devices).any (fun device =>
      !devicePhaseReportsPower device.phase) = true →
        ¬ ∀ device ∈ drainingDevices devices, device.reportsRuntime = true := by
    grind [UPSDevice.reportsRuntime]
  simp only [runtimeBudgetFromDevices, powerObservationFromDevices_eq,
    PowerObservation.measuredRuntime, all_eq_true, ← drainingDevices.eq_1]
  cases hany : (drainingDevices devices).any fun device =>
    !devicePhaseReportsPower device.phase with
  | true => simp [hu hany]
  | false => cases unknownSupply <;> grind

theorem min?_runtimes {seconds : Int} : (devices.filterMap (·.runtimeSeconds)).min? = some seconds ↔
      IsLeast {runtime | ∃ device ∈ devices, device.runtimeSeconds = some runtime} seconds := by
  simp only [List.min?_eq_some_iff, mem_filterMap, IsLeast, lowerBounds, Set.mem_ofPred_eq]

theorem measuredRuntime_eq_some_iff (hnames : (devices.map (·.name)).Nodup)
    (hmatched : ∀ device ∈ devices, device.MatchedOnce bundle) {seconds : Int} :
    (runtimeBudgetFromDevices devices bundle fallback unknownSupply).measuredRuntime =
        some seconds ↔
      unknownSupply = false ∧ (∀ device ∈ drainingDevices devices,
        device.reportsRuntime = true ∧ device.TrustedBy bundle) ∧
      IsLeast {runtime | ∃ device ∈ drainingDevices devices,
        device.runtimeSeconds = some runtime} seconds := by
  have hsome : ((drainingDevices devices).filterMap (·.runtimeSeconds)).min? = some seconds →
      drainingDevices devices ≠ [] := by
    intro hmin hnone
    rw [hnone] at hmin
    cases hmin
  have hsub : drainingDevices devices ⊆ devices := filter_subset_self _
  have hd : ((drainingDevices devices).map (·.name)).Nodup := hnames.sublist (filter_sublist.map _)
  rw [measuredRuntime_runtimeBudgetFromDevices, ← min?_runtimes, forall₂_and,
    runtimeIsTrustedForFlow_iff hd fun device hdevice => hmatched device (hsub hdevice)]
  tauto

theorem runtimeBudgetFromDevices_eq_of_perm (h : devices.Perm others) :
    runtimeBudgetFromDevices devices bundle fallback unknownSupply =
      runtimeBudgetFromDevices others bundle fallback unknownSupply := by
  have hactive : (drainingDevices devices).Perm (drainingDevices others) := h.filter _
  have hn := hactive.map (·.name)
  have ht : ∀ caps, runtimeIsTrustedForFlow caps ((drainingDevices devices).map (·.name)) =
      runtimeIsTrustedForFlow caps ((drainingDevices others).map (·.name)) := by
    intro caps
    simp only [runtimeIsTrustedForFlow, hn.mem_iff, hn.dedup.length_eq, ne_eq,
      ← length_eq_zero_iff, hn.length_eq]
  have hmin : ((drainingDevices devices).filterMap (·.runtimeSeconds)).min? =
      ((drainingDevices others).filterMap (·.runtimeSeconds)).min? :=
    Option.ext fun secs => by simp only [min?_runtimes, hactive.mem_iff]
  simp only [runtimeBudgetFromDevices, powerObservationFromDevices_eq, ← drainingDevices.eq_1,
    ht, hactive.any_eq, hactive.all_eq, hmin]

theorem indicatedMode_le {better worse : PowerObservation} (params : Parameters)
    (hbattery : better.onBattery = true → worse.onBattery = true)
    (hlow : better.lowBattery = true → worse.lowBattery = true)
    (hruntime : shouldDescend better = true → ∀ secs, worse.measuredRuntime = some secs →
      ∃ longer, better.measuredRuntime = some longer ∧ secs ≤ longer) :
    (indicatedMode better params).urgency ≤ (indicatedMode worse params).urgency := by
  cases hpower : shouldDescend better with
  | false => simp [indicatedMode, hpower, TimingMode.urgency]
  | true =>
    have hworse : shouldDescend worse = true := by
      simp only [shouldDescend, Bool.or_eq_true] at hpower ⊢
      exact hpower.imp hbattery hlow
    cases hlower : worse.lowBattery with
    | true =>
      have hu : indicatedMode worse params = .urgent := by
        simp [indicatedMode, hworse, hlower]
      rw [hu]
      exact TimingMode.urgency_le _
    | false =>
      have hb : better.lowBattery = false := by
        rw [← Bool.not_eq_true] at hlower ⊢
        exact mt hlow hlower
      simp only [indicatedMode, hpower, hworse, hlower, hb, Bool.not_true]
      cases hs : worse.measuredRuntime with
      | none => exact TimingMode.urgency_le _
      | some secs =>
        obtain ⟨longer, hlong, hle⟩ := hruntime hpower secs hs
        rw [hlong]
        grind [TimingMode.urgency]

end

/-- The budget is that of the worst-off devices, in any order. -/
theorem runtime_budget_is_pessimistic {devices : List UPSDevice} {bundle : StructuralBundle}
    (hnames : (devices.map (·.name)).Nodup)
    (hmatched : ∀ device ∈ devices, device.MatchedOnce bundle) (fallback : PowerObservation)
    (unknownSupply : Bool) :
    let budget := fun devices => runtimeBudgetFromDevices devices bundle fallback unknownSupply
    (∀ others, devices.Perm others → budget others = budget devices) ∧
    budget (drainingDevices devices) = budget devices ∧
    (∀ seconds, (budget devices).measuredRuntime = some seconds →
      unknownSupply = false ∧ (∀ device ∈ drainingDevices devices,
        device.reportsRuntime = true ∧ device.TrustedBy bundle) ∧
      IsLeast {runtime | ∃ device ∈ drainingDevices devices,
        device.runtimeSeconds = some runtime} seconds) ∧
    (∀ extra parameters, extra.phase ≠ some .online → extra.name ∉ devices.map (·.name) →
      extra.MatchedOnce bundle → (indicatedMode (budget devices) parameters).urgency ≤
        (indicatedMode (budget (extra :: devices)) parameters).urgency) ∧
    ((unknownSupply = true ∨ ∃ device ∈ devices, devicePhaseReportsPower device.phase = false) →
      (fallback.onBattery = true → (budget devices).onBattery = true) ∧
      (fallback.lowBattery = true → (budget devices).lowBattery = true)) := by
  have hflags := fun devices =>
    runtimeBudgetFromDevices_flags devices bundle fallback unknownSupply
  refine ⟨fun others h => (runtimeBudgetFromDevices_eq_of_perm h).symm, ?_,
    fun seconds => (measuredRuntime_eq_some_iff hnames hmatched).mp,
    fun extra parameters hphase hname honce => ?_, fun hunknown => ?_⟩
  · simp only [runtimeBudgetFromDevices, drainingDevices, List.filter_filter, Bool.and_self]
  · have hextends : drainingDevices (extra :: devices) = extra :: drainingDevices devices := by
      rw [drainingDevices, List.filter_cons_of_pos (by simpa using hphase), drainingDevices]
    obtain ⟨hbattery, hlow⟩ := hflags devices
    obtain ⟨hextraBattery, hextraLow⟩ := hflags (extra :: devices)
    rw [hextends, List.any_cons, List.any_cons] at hextraBattery hextraLow
    refine indicatedMode_le parameters ?_ ?_ fun hdescends seconds hs => ?_
    · rw [hbattery, hextraBattery]
      grind
    · rw [hlow, hextraLow]
      grind
    · have hnms' : ((extra :: devices).map (·.name)).Nodup := List.nodup_cons.mpr ⟨hname, hnames⟩
      obtain ⟨rfl, hall, -, hleast⟩ := (measuredRuntime_eq_some_iff hnms'
        (List.forall_mem_cons.mpr ⟨honce, hmatched⟩)).mp hs
      rw [hextends] at hall hleast
      obtain ⟨-, hall⟩ := List.forall_mem_cons.mp hall
      cases hmin : ((drainingDevices devices).filterMap (·.runtimeSeconds)).min? with
      | none =>
        -- then no device drains, and the devices' own flags are all there is
        rw [List.min?_eq_none_iff, List.filterMap_eq_nil_iff] at hmin
        have he : drainingDevices devices = [] := by
          refine List.eq_nil_iff_forall_not_mem.mpr fun device hdevice => ?_
          have hreports := (hall device hdevice).1
          rw [UPSDevice.reportsRuntime, hmin device hdevice, Option.isSome_none,
            Bool.and_false] at hreports
          cases hreports
        rw [shouldDescend, hbattery, hlow, he] at hdescends
        cases hdescends
      | some longer =>
        have hshorter := min?_runtimes.mp hmin
        obtain ⟨device, hdevice, hr⟩ := hshorter.1
        exact ⟨longer, (measuredRuntime_eq_some_iff hnames hmatched).mpr ⟨rfl, hall, hshorter⟩,
          hleast ⟨device, List.mem_cons_of_mem _ hdevice, hr⟩⟩
  · obtain ⟨hbattery, hlow⟩ := hflags devices
    have hknown : (unknownSupply || (drainingDevices devices).any fun device =>
        !devicePhaseReportsPower device.phase) = true := by
      rw [Bool.or_eq_true]
      refine hunknown.imp_right fun h => ?_
      obtain ⟨device, hdevice, hphase⟩ := h
      refine List.any_eq_true.mpr ⟨device, List.mem_filter.mpr ⟨hdevice, ?_⟩, by rw [hphase]; rfl⟩
      rw [decide_eq_true_eq]
      rintro ho
      rw [ho] at hphase
      cases hphase
    rw [hbattery, hlow, hknown, Bool.true_and, Bool.true_and]
    exact ⟨Bool.or_eq_true_iff.mpr ∘ Or.inr, Bool.or_eq_true_iff.mpr ∘ Or.inr⟩

def twoSupplies : List UPSDevice :=
  [{ name := "ups-a", phase := some .onBattery, runtimeSeconds := some 300 },
    { name := "ups-b", phase := some .online, runtimeSeconds := some 60 }]

def twoProfiles : StructuralBundle := { capabilityMatches := [⟨"ups-a", true⟩, ⟨"ups-b", false⟩] }

theorem online_supply_ignored :
    (runtimeBudgetFromDevices twoSupplies.reverse twoProfiles {} false).measuredRuntime =
      some 300 := by
  have hm : ∀ device ∈ twoSupplies, device.MatchedOnce twoProfiles := by
    simp [twoSupplies, twoProfiles, UPSDevice.MatchedOnce]
  obtain ⟨hperm, -⟩ := runtime_budget_is_pessimistic (by decide) hm {} false
  have hsame := hperm _ (List.reverse_perm _).symm
  exact congrArg PowerObservation.measuredRuntime hsame

end NutOperator.Controller
