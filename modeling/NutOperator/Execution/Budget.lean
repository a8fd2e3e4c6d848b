import NutOperator.Adaptive.Budget
import NutOperator.Execution.Adaptive
import Mathlib.Algebra.Order.BigOperators.Group.List

/-! What a budget leaves of the waves still to run. -/
namespace NutOperator.Execution

open Data Adaptive List

section

variable {waves : List Wave}

theorem durations_nonneg (h : ∀ wave ∈ waves, 0 ≤ wave.duration) :
    0 ≤ (waves.map (·.duration)).sum := by
  apply sum_nonneg
  intro dur hmem
  obtain ⟨wave, hwave, rfl⟩ := mem_map.mp hmem
  exact h wave hwave

/-- The waves from a position on take no longer than all of them, so their sum does not
wrap around. -/
theorem remainingPlanDuration_drop (h : ∀ wave ∈ waves, 0 ≤ wave.duration)
    (hsum : (waves.map (·.duration)).sum ≤ maxDuration) (position : Nat) :
    remainingPlanDuration (waves.drop position) = ((waves.drop position).map (·.duration)).sum := by
  have he : 0 ≤ ((waves.take position).map (·.duration)).sum :=
    durations_nonneg fun wave hmem => h wave (mem_of_mem_take hmem)
  have hl : 0 ≤ ((waves.drop position).map (·.duration)).sum :=
    durations_nonneg fun wave hmem => h wave (mem_of_mem_drop hmem)
  have hs : ((waves.take position).map (·.duration)).sum +
      ((waves.drop position).map (·.duration)).sum = (waves.map (·.duration)).sum := by
    rw [← sum_append, ← map_append, take_append_drop]
  apply wrapDuration_eq_self
  · exact le_trans (by decide) hl
  · exact (le_add_of_nonneg_left he).trans (hs.le.trans hsum)

variable {budget : TimingBudget}

theorem sum_scaleDuration_le (hpos : 0 < budget.compression) (hone : budget.compression ≤ 1)
    (h : ∀ wave ∈ waves, 0 ≤ wave.duration) :
    ((waves.map fun wave => scaleDuration wave.duration budget).sum : Rat) ≤
      ((waves.map (·.duration)).sum : Int) * budget.compression := by
  induction waves with
  | nil => simp
  | cons wave rest ih =>
    rw [forall_mem_cons] at h
    have hf := scaleDuration_le_mul hpos hone h.1
    have hrest := ih h.2
    rw [map_cons, sum_cons, map_cons, sum_cons, Int.cast_add, Int.cast_add, add_mul]
    exact add_le_add hf hrest

end

theorem mul_compression_le_available {params : Parameters} {observation : PowerObservation}
    {secs : Int} {plan : Duration} (hproperty : params.Proper)
    (hbattery : observation.onBattery = true)
    (hmeasured : observation.measuredRuntime = some secs)
    (hruntime : 0 ≤ wrapDuration (secs * nanosPerSecond))
    (hfits : (params.budget observation plan).fits = true) :
    (plan : Rat) * (params.budget observation plan).compression ≤
    (params.budget observation plan).available := by
  have hb := @budget_compression_bounds params observation plan secs hbattery hmeasured hproperty
  rw [budget_available hbattery hmeasured]
  by_cases hplan : plan ≤ 0
  · have hcast : (plan : Rat) ≤ 0 := Int.cast_nonpos.mpr hplan
    exact (mul_nonpos_of_nonpos_of_nonneg hcast hb.1.le).trans
      (Int.cast_nonneg (hproperty.share_nonneg hruntime))
  · have hpos : 0 < plan := not_le.mp hplan
    have hcast : (0 : Rat) < plan := Int.cast_pos.mpr hpos
    rw [budget_fits_iff hbattery hmeasured hpos] at hfits
    rw [budget_compression hbattery hmeasured hproperty hpos, mul_comm, ← le_div_iff₀ hcast]
    exact max_le hfits (min_le_right _ _)

/-- On battery with a trusted runtime, the remaining plan is compressed by a positive
factor of at most one; no duration gets longer, none that stays at least a nanosecond
is lost, and if the plan is said to fit, its scaled waves take no longer than what is
available, which leaves the reserve untouched. -/
theorem budget_covers_scaled_plan (parameters : Parameters)
    (hvalid : parameters.Valid ∨ parameters.withDefaults.Valid) (observation : PowerObservation)
    (hbattery : observation.onBattery = true) (seconds : Int)
    (hruntime : observation.runtimeSeconds = some seconds)
    (htrusted : observation.runtimeTrusted = true) (hnonneg : 0 ≤ seconds)
    (hrange : seconds * nanosPerSecond < 2 ^ 63) (waves : List Wave)
    (hwaves : ∀ wave ∈ waves, 0 ≤ wave.duration)
    (hsum : (waves.map (·.duration)).sum ≤ maxDuration) (position : Nat) :
    let remaining := waves.drop position
    let budget := parameters.budget observation (remainingPlanDuration remaining)
    (0 < budget.compression ∧ budget.compression ≤ 1) ∧
      (∀ declared, scaleDuration declared budget ≤ max declared 0) ∧
      (∀ declared : Duration, 0 < declared → 1 ≤ (declared : Rat) * budget.compression →
        0 < scaleDuration declared budget) ∧
      (budget.fits = true →
        (remaining.map fun wave => scaleDuration wave.duration budget).sum ≤
          budget.available) ∧
      (budget.available : Rat) ≤ (1 - parameters.withDefaults.reserveFraction) *
        (seconds * nanosPerSecond : Int) := by
  intro remaining budget
  have hproperty := Parameters.proper_of_valid hvalid
  have hmeasured : observation.measuredRuntime = some seconds := by
    rw [PowerObservation.measuredRuntime, if_pos htrusted, hruntime]
  have hnanos : 0 ≤ seconds * nanosPerSecond := mul_nonneg hnonneg (by decide)
  have hwrap : wrapDuration (seconds * nanosPerSecond) = seconds * nanosPerSecond :=
    wrapDuration_eq_self (le_trans (by decide) hnanos) (Int.le_sub_one_of_lt hrange)
  obtain ⟨hpos, hone⟩ : 0 < budget.compression ∧ budget.compression ≤ 1 :=
    budget_compression_bounds hbattery hmeasured hproperty
  refine ⟨⟨hpos, hone⟩, fun _ => scaleDuration_le hpos hone,
    fun _ => scaleDuration_pos, fun hfits => ?_, ?_⟩
  · have hr : ∀ wave ∈ remaining, 0 ≤ wave.duration :=
      fun wave hmem => hwaves wave (List.mem_of_mem_drop hmem)
    have hs := sum_scaleDuration_le hpos hone hr
    rw [← remainingPlanDuration_drop hwaves hsum position] at hs
    have hc := mul_compression_le_available hproperty hbattery hmeasured
      (hnanos.trans hwrap.ge) hfits
    exact Int.cast_le.mp (hs.trans hc)
  · have ha : budget.available = parameters.share (seconds * nanosPerSecond) := by
      rw [← hwrap]
      exact budget_available hbattery hmeasured
    rw [ha]
    exact hproperty.share_le hnanos

def twoWaves : List Wave :=
  [{ duration := 600 * nanosPerSecond }, { duration := 600 * nanosPerSecond }]

theorem twoWaves_covered :
    let budget := defaultParameters.budget (batteryReading 900) (remainingPlanDuration twoWaves)
    budget.fits = true ∧
      (twoWaves.map fun wave => scaleDuration wave.duration budget).sum ≤ budget.available := by
  have h := budget_covers_scaled_plan defaultParameters (.inl (by decide +kernel))
    (batteryReading 900) rfl 900 rfl rfl (by decide) (by decide) twoWaves (by decide) (by decide) 0
  exact ⟨by decide +kernel, h.2.2.2.1 (by decide +kernel)⟩

end NutOperator.Execution
