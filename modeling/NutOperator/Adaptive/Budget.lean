import NutOperator.Adaptive.Hysteresis
import NutOperator.Data.Duration
import Mathlib.Algebra.Order.Field.Basic
import Mathlib.Algebra.Order.Field.Rat
import Mathlib.Tactic.Linarith
import Mathlib.Tactic.NormNum
import Mathlib.Tactic.Ring

/-! The timing budget: what a share of the runtime left does to declared durations. -/
namespace NutOperator.Adaptive

open Data

inductive DiagnosticSeverity where
  | error
  | warning
deriving Repr, DecidableEq

structure Diagnostic where
  severity : DiagnosticSeverity
  (reason message : String)
deriving Repr, DecidableEq

def timingThresholdsInverted : Diagnostic := ⟨.error, "TimingThresholdsInverted",
    "urgent runtime threshold must be below the nominal one; " ++
      "otherwise no reading can ever select Nominal"⟩

def hysteresisNotAsymmetric : Diagnostic := ⟨.warning, "HysteresisNotAsymmetric",
    "relaxing should need more observations than escalating; " ++
      "symmetric thresholds let the mode oscillate on ordinary telemetry jitter"⟩

def improvementMarginUnreachable : Diagnostic := ⟨.error, "ImprovementMarginUnreachable",
    "an improvement margin of 100% or more can never be met, so the flow would " ++
      "never relax once escalated"⟩

def cadenceSlowerDuringFlow : Diagnostic := ⟨.warning, "CadenceSlowerDuringFlow",
    "publishing more slowly during a flow than at rest inverts EX-29: the active " ++
      "period is when subscribers most need current state"⟩

def reserveConsumesAllRuntime : Diagnostic := ⟨.error, "ReserveConsumesAllRuntime",
    "reserving all remaining runtime leaves the plan no time to run in; the " ++
      "reserve covers the handoff tail, not the shutdown itself"⟩

def minimumCompressionRejectsEveryPlan : Diagnostic :=
  ⟨.error, "MinimumCompressionRejectsEveryPlan",
    "a minimum compression of 1 or more means no plan may ever be shortened, so " ++
      "every plan that does not already fit is reported as not fitting"⟩

def reportIf (found : Bool) (diagnostic : Diagnostic) : List Diagnostic :=
  if found then [diagnostic] else []

def Parameters.validate (parameters : Parameters) : List Diagnostic :=
  reportIf (parameters.nominalRuntimeSeconds ≤ parameters.urgentRuntimeSeconds)
      timingThresholdsInverted ++
    reportIf (parameters.relaxAfterObservations ≤ parameters.escalateAfterObservations)
      hysteresisNotAsymmetric ++
    reportIf (1 ≤ parameters.relaxImprovementMargin) improvementMarginUnreachable ++
    reportIf (parameters.idleCadence < parameters.activeCadence) cadenceSlowerDuringFlow ++
    reportIf (1 ≤ parameters.reserveFraction) reserveConsumesAllRuntime ++
    reportIf (1 ≤ parameters.minimumCompression) minimumCompressionRejectsEveryPlan

def Parameters.Valid (parameters : Parameters) : Prop :=
  ∀ diagnostic ∈ parameters.validate, diagnostic.severity ≠ .error

instance (parameters : Parameters) : Decidable parameters.Valid :=
  inferInstanceAs (Decidable (∀ diagnostic ∈ parameters.validate, diagnostic.severity ≠ .error))

variable {parameters : Parameters} {observation : PowerObservation} {plan : Duration}

theorem mem_reportIf {found : Bool} {diagnostic : Diagnostic} (h : found = true) :
    diagnostic ∈ reportIf found diagnostic := by
  rw [reportIf, if_pos h]
  exact List.mem_singleton_self _

theorem Parameters.Valid.fractions_lt_one (h : parameters.Valid) :
    parameters.reserveFraction < 1 ∧ parameters.minimumCompression < 1 := by
  constructor
  · by_contra hr
    refine h reserveConsumesAllRuntime (List.mem_append_left _ (List.mem_append_right _ ?_)) rfl
    exact mem_reportIf (decide_eq_true (not_lt.mp hr))
  · by_contra hm
    refine h minimumCompressionRejectsEveryPlan (List.mem_append_right _ ?_) rfl
    exact mem_reportIf (decide_eq_true (not_lt.mp hm))

theorem Parameters.withDefaults_reserveFraction (h : parameters.reserveFraction < 1) :
    0 < parameters.withDefaults.reserveFraction ∧ parameters.withDefaults.reserveFraction < 1 := by
  simp only [Parameters.withDefaults, defaultParameters]
  split
  · norm_num
  · exact ⟨not_le.mp (by assumption), h⟩

theorem Parameters.withDefaults_minimumCompression (h : parameters.minimumCompression < 1) :
    0 < parameters.withDefaults.minimumCompression ∧
      parameters.withDefaults.minimumCompression < 1 := by
  simp only [Parameters.withDefaults, defaultParameters]
  split
  · norm_num
  · exact ⟨not_le.mp (by assumption), h⟩

structure Parameters.Proper (parameters : Parameters) : Prop where
  reserve : 0 < parameters.withDefaults.reserveFraction ∧
    parameters.withDefaults.reserveFraction < 1
  minimum : 0 < parameters.withDefaults.minimumCompression ∧
    parameters.withDefaults.minimumCompression < 1

theorem Parameters.Valid.proper (h : parameters.Valid) : parameters.Proper :=
  ⟨withDefaults_reserveFraction h.fractions_lt_one.1,
    withDefaults_minimumCompression h.fractions_lt_one.2⟩

theorem Parameters.proper_of_valid (h : parameters.Valid ∨ parameters.withDefaults.Valid) :
    parameters.Proper := by
  cases h with
  | inl hc => exact hc.proper
  | inr hinForce =>
    have hp := hinForce.proper
    exact ⟨by simpa using hp.reserve, by simpa using hp.minimum⟩

def Parameters.share (parameters : Parameters) (runtime : Duration) : Duration :=
  truncate ((runtime : Rat) * (1 - parameters.withDefaults.reserveFraction))

section

variable {seconds : Int}

section

variable (h : parameters.Proper)

include h

theorem Parameters.Proper.part_nonneg : 0 ≤ 1 - parameters.withDefaults.reserveFraction :=
  sub_nonneg.mpr h.reserve.2.le

theorem Parameters.Proper.share_mono {shorter longer : Duration}
    (hle : shorter ≤ longer) : parameters.share shorter ≤ parameters.share longer := by
  apply truncate_mono
  have hcast : (shorter : Rat) ≤ longer := Int.cast_le.mpr hle
  exact mul_le_mul_of_nonneg_right hcast h.part_nonneg

theorem Parameters.Proper.share_nonneg {runtime : Duration}
    (hruntime : 0 ≤ runtime) : 0 ≤ parameters.share runtime := by
  have hcast : (0 : Rat) ≤ runtime := Int.cast_nonneg hruntime
  exact truncate_nonneg (mul_nonneg hcast h.part_nonneg)

theorem Parameters.Proper.share_le {runtime : Duration} (hruntime : 0 ≤ runtime) :
    (parameters.share runtime : Rat) ≤ (1 - parameters.withDefaults.reserveFraction) * runtime := by
  have hcast : (0 : Rat) ≤ runtime := Int.cast_nonneg hruntime
  rw [mul_comm]
  exact truncate_le (mul_nonneg hcast h.part_nonneg)

end

theorem budget_of_plan_nonpos (hbattery : observation.onBattery = true) (hplan : plan ≤ 0) :
    (parameters.budget observation plan).compression = 1 ∧
      (parameters.budget observation plan).fits = true := by
  simp [Parameters.budget, shouldDescend, hbattery, hplan]

variable (hbattery : observation.onBattery = true)
  (hmeasured : observation.measuredRuntime = some seconds)

include hbattery hmeasured

theorem budget_available : (parameters.budget observation plan).available =
      parameters.share (wrapDuration (seconds * nanosPerSecond)) := by
  by_cases hplan : plan ≤ 0 <;>
    simp [Parameters.budget, Parameters.share, shouldDescend, hbattery, hmeasured, hplan]

theorem budget_fits_iff (hplan : 0 < plan) : (parameters.budget observation plan).fits = true ↔
      parameters.withDefaults.minimumCompression ≤
        (parameters.share (wrapDuration (seconds * nanosPerSecond)) : Rat) / plan := by
  simp [Parameters.budget, Parameters.share, shouldDescend, hbattery, hmeasured, not_le.mpr hplan]

theorem budget_compression (hproperty : parameters.Proper) (hplan : 0 < plan) :
    (parameters.budget observation plan).compression =
      max parameters.withDefaults.minimumCompression
        (min 1 ((parameters.share (wrapDuration (seconds * nanosPerSecond)) : Rat) / plan)) := by
  have hm := hproperty.minimum.2
  simp only [Parameters.budget, shouldDescend, hbattery, hmeasured, not_le.mpr hplan,
    Bool.true_or, Bool.not_true, Bool.false_eq_true, if_false, decide_eq_true_eq,
    Parameters.share]
  generalize (truncate ((wrapDuration (seconds * nanosPerSecond) : Rat) *
    (1 - parameters.withDefaults.reserveFraction)) : Rat) / plan = ratio
  by_cases hlong : 1 < ratio
  · rw [if_pos hlong, min_eq_left hlong.le, max_eq_right hm.le]
  · rw [if_neg hlong, min_eq_right (not_lt.mp hlong)]
    by_cases hfits : parameters.withDefaults.minimumCompression ≤ ratio
    · rw [if_pos hfits, max_eq_right hfits]
    · rw [if_neg hfits, max_eq_left (not_le.mp hfits).le]

theorem budget_compression_bounds (hproperty : parameters.Proper) :
    0 < (parameters.budget observation plan).compression ∧
      (parameters.budget observation plan).compression ≤ 1 := by
  by_cases hplan : plan ≤ 0
  · rw [(budget_of_plan_nonpos hbattery hplan).1]
    exact ⟨one_pos, le_refl 1⟩
  · rw [budget_compression hbattery hmeasured hproperty (not_le.mp hplan)]
    exact ⟨lt_max_of_lt_left hproperty.minimum.1, max_le hproperty.minimum.2.le (min_le_left _ _)⟩

end

section

variable {budget : TimingBudget} {declared : Duration}

theorem scaleDuration_le_mul (hpos : 0 < budget.compression) (hone : budget.compression ≤ 1)
    (hdeclared : 0 ≤ declared) :
    (scaleDuration declared budget : Rat) ≤ declared * budget.compression := by
  have hcast : (0 : Rat) ≤ declared := Int.cast_nonneg hdeclared
  have hprod := mul_nonneg hcast hpos.le
  unfold scaleDuration
  by_cases hnone : declared ≤ 0
  · simpa [hnone] using hprod
  · rw [if_neg hnone]
    by_cases hfull : budget.compression ≤ 0 ∨ 1 ≤ budget.compression
    · rw [if_pos hfull, le_antisymm hone (hfull.resolve_left hpos.not_ge), mul_one]
    · rw [if_neg hfull]
      exact truncate_le hprod

theorem scaleDuration_le (hpos : 0 < budget.compression) (hone : budget.compression ≤ 1) :
    scaleDuration declared budget ≤ max declared 0 := by
  by_cases hnone : declared ≤ 0
  · simp [scaleDuration, hnone]
  · have hd := (not_le.mp hnone).le
    have hcast : (0 : Rat) ≤ declared := Int.cast_nonneg hd
    have hs : (scaleDuration declared budget : Rat) ≤ declared :=
      (scaleDuration_le_mul hpos hone hd).trans (mul_le_of_le_one_right hcast hone)
    exact le_max_of_le_left (Int.cast_le.mp hs)

theorem scaleDuration_pos (hdeclared : 0 < declared)
    (hlong : 1 ≤ (declared : Rat) * budget.compression) : 0 < scaleDuration declared budget := by
  unfold scaleDuration
  rw [if_neg (not_le.mpr hdeclared)]
  split
  · exact hdeclared
  · rw [truncate_of_nonneg (zero_le_one.trans hlong)]
    exact Int.floor_pos.mpr hlong

end

def PowerObservation.withRuntime (observation : PowerObservation) (seconds : Int) :
    PowerObservation :=
  { observation with runtimeSeconds := some seconds, runtimeTrusted := true }

structure NoMore (first second : TimingBudget) : Prop where
  compression : first.compression ≤ second.compression
  fits : first.fits = true → second.fits = true

section

variable {shorter longer : Int}

theorem noMore_of_share (hproperty : parameters.Proper) (hbattery : observation.onBattery = true)
    (hplan : 0 < plan)
    (hshare : (parameters.share (wrapDuration (shorter * nanosPerSecond)) : Rat) ≤ 0 ∨
      parameters.share (wrapDuration (shorter * nanosPerSecond)) ≤
        parameters.share (wrapDuration (longer * nanosPerSecond))) :
    NoMore (parameters.budget (observation.withRuntime shorter) plan)
      (parameters.budget (observation.withRuntime longer) plan) := by
  have hpos : (0 : Rat) < plan := Int.cast_pos.mpr hplan
  have hbatteryShort : (observation.withRuntime shorter).onBattery = true := hbattery
  have hbatteryLong : (observation.withRuntime longer).onBattery = true := hbattery
  have hshort : (observation.withRuntime shorter).measuredRuntime = some shorter := rfl
  have hlong : (observation.withRuntime longer).measuredRuntime = some longer := rfl
  constructor
  · rw [budget_compression hbatteryShort hshort hproperty hplan,
      budget_compression hbatteryLong hlong hproperty hplan]
    cases hshare with
    | inl hnone =>
      have hratio := div_nonpos_of_nonpos_of_nonneg hnone hpos.le
      exact max_le (le_max_left _ _)
        (le_max_of_le_left ((min_le_right _ _).trans (hratio.trans hproperty.minimum.1.le)))
    | inr hmore =>
      exact max_le_max_left _ (min_le_min_left _
        (div_le_div_of_nonneg_right (Int.cast_le.mpr hmore) hpos.le))
  · rw [budget_fits_iff hbatteryShort hshort hplan, budget_fits_iff hbatteryLong hlong hplan]
    intro hfits
    cases hshare with
    | inl hnone =>
      have hratio := div_nonpos_of_nonpos_of_nonneg hnone hpos.le
      exact absurd (hfits.trans hratio) hproperty.minimum.1.not_ge
    | inr hmore =>
      exact hfits.trans (div_le_div_of_nonneg_right (Int.cast_le.mpr hmore) hpos.le)

/-- Whole seconds are an even number of nanoseconds, wrapped around or not. -/
theorem wrapDuration_seconds_even (seconds : Int) :
    ∃ half : Int, wrapDuration (seconds * nanosPerSecond) = 2 * half := by
  have h := Int.bmod_add_bdiv (seconds * 1000000000) (2 ^ 64)
  refine ⟨seconds * 500000000 - 2 ^ 63 * (seconds * 1000000000).bdiv (2 ^ 64), ?_⟩
  change Int.bmod (seconds * 1000000000) (2 ^ 64) = _
  omega

def halfReserve : Parameters := { defaultParameters with reserveFraction := 1 / 2 }

theorem halfReserve_valid : halfReserve.Valid := by decide +kernel

theorem halfReserve_share (half : Int) : halfReserve.share (2 * half) = half := by
  have hr : halfReserve.withDefaults.reserveFraction = 1 / 2 := by
    norm_num [halfReserve, Parameters.withDefaults]
  have hhalf : ((2 * half : Int) : Rat) * (1 - 1 / 2) = half := by
    push_cast
    ring
  rw [Parameters.share, hr, hhalf, truncate_intCast]

theorem halfReserve_share_bounds {seconds : Int}
    (hpos : 0 < wrapDuration (seconds * nanosPerSecond)) :
    0 < halfReserve.share (wrapDuration (seconds * nanosPerSecond)) ∧
      halfReserve.share (wrapDuration (seconds * nanosPerSecond)) ≤ maxDuration := by
  obtain ⟨half, hhalf⟩ := wrapDuration_seconds_even seconds
  have hrange : wrapDuration (seconds * nanosPerSecond) < 2 ^ 63 := Int.bmod_lt (by decide)
  rw [hhalf] at hpos hrange ⊢
  change (0 : Int) < 2 * half at hpos
  change (2 * half : Int) < 2 ^ 63 at hrange
  rw [halfReserve_share]
  change (0 : Int) < half ∧ half ≤ (2 ^ 63 - 1 : Int)
  omega

theorem not_noMore_of_wrapped (hbattery : observation.onBattery = true)
    (hpos : 0 < wrapDuration (shorter * nanosPerSecond))
    (hless : wrapDuration (longer * nanosPerSecond) < wrapDuration (shorter * nanosPerSecond)) :
    ¬ NoMore (halfReserve.budget (observation.withRuntime shorter)
        (halfReserve.share (wrapDuration (shorter * nanosPerSecond))))
      (halfReserve.budget (observation.withRuntime longer)
        (halfReserve.share (wrapDuration (shorter * nanosPerSecond)))) := by
  obtain ⟨half, hhalf⟩ := wrapDuration_seconds_even shorter
  obtain ⟨other, hother⟩ := wrapDuration_seconds_even longer
  rw [hhalf, hother] at hless
  rw [hhalf] at hpos
  have hplan : 0 < half := by
    change (0 : Int) < 2 * half at hpos
    omega
  have hcast : (0 : Rat) < half := Int.cast_pos.mpr hplan
  have hsmall : (other : Rat) < half := by
    apply Int.cast_lt.mpr
    change (2 * other : Int) < 2 * half at hless
    omega
  rw [hhalf, halfReserve_share]
  intro h
  have hc := h.compression
  have hs : (observation.withRuntime shorter).measuredRuntime = some shorter := rfl
  have hlong : (observation.withRuntime longer).measuredRuntime = some longer := rfl
  rw [budget_compression (by exact hbattery) hs halfReserve_valid.proper hplan,
    budget_compression (by exact hbattery) hlong halfReserve_valid.proper hplan, hhalf, hother,
    halfReserve_share, halfReserve_share, div_self hcast.ne', min_self] at hc
  have hratio : (other : Rat) / half < 1 := (div_lt_one hcast).mpr hsmall
  have hb : max halfReserve.withDefaults.minimumCompression (min 1 ((other : Rat) / half)) < 1 :=
    max_lt halfReserve_valid.proper.minimum.2 (min_lt_of_right_lt hratio)
  exact absurd ((le_max_right _ _).trans hc) hb.not_ge

end

end NutOperator.Adaptive
