import NutOperator.Adaptive.Timing
import Mathlib.Data.List.Infix

/-! Runs of the timing mode: what one observation can do to it, what a relaxation
has behind it, and how two runs over comparable observations stay comparable. -/
namespace NutOperator.Adaptive

open Data List

def TimingState.inForce (state : TimingState) : TimingMode := state.mode.getD .relaxed

theorem TimingMode.urgency_injective : Function.Injective TimingMode.urgency := by
  intro left right h
  cases left <;> cases right <;> simp_all [TimingMode.urgency]

theorem TimingMode.urgency_le (mode : TimingMode) : mode.urgency ≤ TimingMode.urgent.urgency := by
  cases mode <;> decide

theorem positive_or_idem {α : Type} [Zero α] [LE α] [DecidableLE α] (value fallback : α) :
    (if (if value ≤ 0 then fallback else value) ≤ 0 then fallback
      else if value ≤ 0 then fallback else value) =
      if value ≤ 0 then fallback else value := by
  by_cases h : value ≤ 0 <;> simp [h]

@[simp] theorem Parameters.withDefaults_withDefaults (parameters : Parameters) :
    parameters.withDefaults.withDefaults = parameters.withDefaults := by
  simp only [Parameters.withDefaults, positive_or_idem]

theorem Parameters.withDefaults_relaxAfter_pos (parameters : Parameters) :
    0 < parameters.withDefaults.relaxAfterObservations := by
  simp only [Parameters.withDefaults, defaultParameters]
  split <;> omega

theorem indicatedMode_withDefaults (observation : PowerObservation) (parameters : Parameters) :
    indicatedMode observation parameters.withDefaults = indicatedMode observation parameters := by
  rw [indicatedMode, indicatedMode, Parameters.withDefaults_withDefaults]

section

variable (parameters : Parameters) (state : TimingState) (observation : PowerObservation)

def TimingState.evidence : Int :=
  if state.pendingMode = some (indicatedMode observation parameters) then
    wrapDuration (state.pendingCount + 1)
  else 1

/-- How much evidence a change needs: towards a more urgent mode where that is counted
at all, and towards a less urgent one if this observation clears the margin. -/
inductive Counted : Int → Prop
  | escalation (hworse : state.inForce.urgency < (indicatedMode observation parameters).urgency)
      (hcounted : 1 < parameters.withDefaults.escalateAfterObservations) :
      Counted parameters.withDefaults.escalateAfterObservations
  | relaxation (hbetter : (indicatedMode observation parameters).urgency < state.inForce.urgency)
      (hearned : relaxationEarned observation (indicatedMode observation parameters)
        parameters.withDefaults = true) :
      Counted parameters.withDefaults.relaxAfterObservations

inductive Moves : TimingState → Prop
  | agreed (hsame : indicatedMode observation parameters = state.inForce) :
      Moves { mode := some state.inForce }
  | escalated (hworse : state.inForce.urgency < (indicatedMode observation parameters).urgency)
      (honce : parameters.withDefaults.escalateAfterObservations ≤ 1) :
      Moves { mode := some (indicatedMode observation parameters) }
  | withinMargin (hbetter : (indicatedMode observation parameters).urgency < state.inForce.urgency)
      (hmargin : relaxationEarned observation (indicatedMode observation parameters)
        parameters.withDefaults = false) :
      Moves { mode := some state.inForce }
  | pending {threshold : Int} (hcounted : Counted parameters state observation threshold)
      (hshort : state.evidence parameters observation < threshold) :
      Moves
        { mode := some state.inForce
          pendingMode := some (indicatedMode observation parameters)
          pendingCount := state.evidence parameters observation }
  | reached {threshold : Int} (hcounted : Counted parameters state observation threshold)
      (henough : threshold ≤ state.evidence parameters observation) :
      Moves { mode := some (indicatedMode observation parameters) }

variable {parameters state observation}

theorem TimingState.evidence_le : state.evidence parameters observation ≤ maxDuration := by
  unfold TimingState.evidence
  split
  · exact Int.le_sub_one_of_lt (Int.bmod_lt (by decide))
  · decide

theorem Counted.moves {threshold : Int} {reason : String}
    (h : Counted parameters state observation threshold) :
    Moves parameters state observation
      (state.accumulate state.inForce (indicatedMode observation parameters) threshold
        reason).1 := by
  have hcount : (if state.pendingMode = some (indicatedMode observation parameters)
      then wrapDuration (state.pendingCount + 1) else 1) =
        state.evidence parameters observation := rfl
  simp only [TimingState.accumulate, hcount]
  by_cases hshort : state.evidence parameters observation < threshold
  · rw [if_pos hshort]
    exact .pending h hshort
  · rw [if_neg hshort]
    exact .reached h (Int.not_lt.mp hshort)

variable (parameters state observation)

theorem observe_moves :
    Moves parameters state observation (state.observe observation parameters).1 := by
  have hmode : state.mode.getD .relaxed = state.inForce := rfl
  simp only [TimingState.observe, indicatedMode_withDefaults, hmode]
  by_cases hsame : indicatedMode observation parameters = state.inForce
  · rw [if_pos hsame]
    exact .agreed hsame
  · rw [if_neg hsame]
    by_cases hworse : state.inForce.urgency < (indicatedMode observation parameters).urgency
    · rw [if_pos hworse]
      by_cases honce : parameters.withDefaults.escalateAfterObservations ≤ 1
      · rw [if_pos honce]
        exact .escalated hworse honce
      · rw [if_neg honce]
        exact (Counted.escalation hworse (Int.not_le.mp honce)).moves
    · rw [if_neg hworse]
      have hd : (indicatedMode observation parameters).urgency ≠ state.inForce.urgency :=
        fun h => hsame (TimingMode.urgency_injective h)
      have hbetter : (indicatedMode observation parameters).urgency < state.inForce.urgency := by
        omega
      cases hearned : relaxationEarned observation (indicatedMode observation parameters)
          parameters.withDefaults with
      | false => exact .withinMargin hbetter hearned
      | true => exact (Counted.relaxation hbetter hearned).moves

end

def TimingState.run (parameters : Parameters) (state : TimingState)
    (observations : List PowerObservation) : TimingState :=
  observations.foldl (fun state observation => (state.observe observation parameters).1) state

@[simp] theorem TimingState.run_concat (parameters : Parameters) (state : TimingState)
    (history : List PowerObservation) (observation : PowerObservation) :
    state.run parameters (history ++ [observation]) =
      ((state.run parameters history).observe observation parameters).1 := by
  simp [TimingState.run]

/-- The runtime at or below which the flow would be in the next more urgent mode. -/
def Parameters.floor (parameters : Parameters) : TimingMode → Option Int
  | .relaxed => some parameters.withDefaults.nominalRuntimeSeconds
  | .nominal => some parameters.withDefaults.urgentRuntimeSeconds
  | .urgent => none

def Improves (parameters : Parameters) (mode : TimingMode) (observation : PowerObservation) :
    Prop :=
  (observation.onBattery = false ∧ observation.lowBattery = false) ∨
    ∃ seconds floor, observation.runtimeSeconds = some seconds ∧
      observation.runtimeTrusted = true ∧ parameters.floor mode = some floor ∧
      (1 + parameters.withDefaults.relaxImprovementMargin) * floor ≤ (seconds : Rat)

theorem PowerObservation.measuredRuntime_eq_some {observation : PowerObservation} {seconds : Int}
    (h : observation.measuredRuntime = some seconds) :
    observation.runtimeSeconds = some seconds ∧ observation.runtimeTrusted = true := by
  unfold PowerObservation.measuredRuntime at h
  split at h
  · exact ⟨h, by assumption⟩
  · cases h

theorem improves_of_relaxationEarned {parameters : Parameters} {mode : TimingMode}
    {observation : PowerObservation}
    (h : relaxationEarned observation mode parameters.withDefaults = true) :
    Improves parameters mode observation := by
  unfold relaxationEarned at h
  cases hbattery : shouldDescend observation with
  | false => exact .inl (by simpa [shouldDescend] using hbattery)
  | true =>
    simp only [hbattery, Bool.not_true, Bool.false_eq_true, if_false] at h
    cases hruntime : observation.measuredRuntime with
    | none => simp [hruntime] at h
    | some seconds =>
      obtain ⟨hseconds, htrusted⟩ := PowerObservation.measuredRuntime_eq_some hruntime
      cases mode with
      | urgent => simp [hruntime] at h
      | _ =>
        simp only [hruntime, decide_eq_true_eq] at h
        exact .inr ⟨seconds, _, hseconds, htrusted, rfl, by rwa [Rat.mul_comm]⟩

section

variable {parameters : Parameters}

/-- The observations behind a pending relaxation: the latest ones, each indicating the
pending mode and clearing its margin, with one mode in force all along. -/
structure Streak (parameters : Parameters) (mode pending : TimingMode)
    (earlier streak : List PowerObservation) : Prop where
  indicates : ∀ observation ∈ streak, indicatedMode observation parameters = pending
  improves : ∀ observation ∈ streak, Improves parameters pending observation
  inForce : ∀ part, part <+: streak →
    (TimingState.run parameters {} (earlier ++ part)).inForce = mode

/-- Where a relaxation needs no more observations than the counter can count, the
counter counts the latest ones, and no further than the relaxation needs. -/
def Counts (parameters : Parameters) (history : List PowerObservation) : Prop :=
  let state := TimingState.run parameters {} history
  ∀ pending, state.pendingMode = some pending → pending.urgency < state.inForce.urgency →
    parameters.withDefaults.relaxAfterObservations ≤ maxDuration →
    state.pendingCount < parameters.withDefaults.relaxAfterObservations ∧
    ∃ earlier streak, history = earlier ++ streak ∧ (streak.length : Int) = state.pendingCount ∧
      Streak parameters state.inForce pending earlier streak

variable {observation : PowerObservation}

theorem Counted.improves {state : TimingState} {threshold : Int}
    (h : Counted parameters state observation threshold)
    (hbetter : (indicatedMode observation parameters).urgency < state.inForce.urgency) :
    Improves parameters (indicatedMode observation parameters) observation ∧
      threshold = parameters.withDefaults.relaxAfterObservations := by
  cases h with
  | escalation hworse _ => omega
  | relaxation _ hearned => exact ⟨improves_of_relaxationEarned hearned, rfl⟩

variable {history : List PowerObservation}

theorem Counts.extend (h : Counts parameters history) (observation : PowerObservation)
    (hbound : parameters.withDefaults.relaxAfterObservations ≤ maxDuration) :
    let state := TimingState.run parameters {} history
    (indicatedMode observation parameters).urgency < state.inForce.urgency →
    ∃ earlier streak, history = earlier ++ streak ∧
      (streak.length : Int) + 1 = state.evidence parameters observation ∧
      Streak parameters state.inForce (indicatedMode observation parameters) earlier streak ∧
      (streak.length : Int) < parameters.withDefaults.relaxAfterObservations := by
  intro state hbetter
  by_cases hpending : state.pendingMode = some (indicatedMode observation parameters)
  · obtain ⟨hshort, earlier, streak, hsplit, hlength, hstreak⟩ := h _ hpending hbetter hbound
    have hroom : state.pendingCount + 1 ≤ maxDuration := le_trans hshort hbound
    have hcount : 0 ≤ state.pendingCount := hlength ▸ Int.natCast_nonneg _
    have hlow : minDuration ≤ state.pendingCount + 1 := le_trans (by decide) (Int.le_add_one hcount)
    refine ⟨earlier, streak, hsplit, ?_, hstreak, hlength ▸ hshort⟩
    rw [TimingState.evidence, if_pos hpending, wrapDuration_eq_self hlow hroom, hlength]
  · refine ⟨history, [], (append_nil _).symm, ?_, ⟨by simp, by simp, ?_⟩, ?_⟩
    · rw [TimingState.evidence, if_neg hpending]
      rfl
    · intro part hpart
      rw [prefix_nil.mp hpart, append_nil]
    · exact parameters.withDefaults_relaxAfter_pos

theorem Streak.concat {mode pending : TimingMode} {earlier streak : List PowerObservation}
    (h : Streak parameters mode pending earlier streak)
    (hindicated : indicatedMode observation parameters = pending)
    (himproves : Improves parameters pending observation)
    (hafter : (TimingState.run parameters {} (earlier ++ streak ++ [observation])).inForce = mode) :
    Streak parameters mode pending earlier (streak ++ [observation]) where
  indicates := forall_mem_append.mpr ⟨h.indicates, forall_mem_singleton.mpr hindicated⟩
  improves := forall_mem_append.mpr ⟨h.improves, forall_mem_singleton.mpr himproves⟩
  inForce := by
    intro part hpart
    cases prefix_concat_iff.mp hpart with
    | inl hwhole => rw [hwhole, ← append_assoc, hafter]
    | inr hshort => exact h.inForce part hshort

theorem Counts.concat (observation : PowerObservation) (h : Counts parameters history) :
    Counts parameters (history ++ [observation]) := by
  intro pending hpending hbetter hbound
  have hmoves := observe_moves parameters (TimingState.run parameters {} history) observation
  have hstate := TimingState.run_concat parameters {} history observation
  rw [hstate] at hpending hbetter ⊢
  generalize ((TimingState.run parameters {} history).observe observation
    parameters).1 = next at hmoves hstate hpending hbetter ⊢
  cases hmoves with
  | pending hcounted hshort =>
    cases hpending
    obtain ⟨himproves, hthreshold⟩ := hcounted.improves hbetter
    obtain ⟨earlier, streak, hsplit, hlength, hstreak, _⟩ := h.extend observation hbound hbetter
    refine ⟨hthreshold ▸ hshort, earlier, streak ++ [observation], ?_, ?_, ?_⟩
    · rw [hsplit, append_assoc]
    · rw [length_append, length_singleton, Nat.cast_add, Nat.cast_one]
      exact hlength
    · refine hstreak.concat rfl himproves ?_
      rw [← hsplit, hstate]
      rfl
  | _ => cases hpending

theorem counts (history : List PowerObservation) : Counts parameters history := by
  induction history using List.reverseRecOn with
  | nil => exact nofun
  | append_singleton history observation ih => exact ih.concat observation

theorem Moves.sustained {next : TimingState}
    (h : Moves parameters (TimingState.run parameters {} history) observation next)
    (hbetter : next.inForce.urgency < (TimingState.run parameters {} history).inForce.urgency) :
    ∃ earlier streak, history = earlier ++ streak ∧
      (streak.length : Int) + 1 = parameters.withDefaults.relaxAfterObservations ∧
      Streak parameters (TimingState.run parameters {} history).inForce next.inForce earlier
        streak ∧
      indicatedMode observation parameters = next.inForce ∧
      Improves parameters next.inForce observation := by
  cases h with
  | reached hcounted henough =>
    obtain ⟨himproves, rfl⟩ := hcounted.improves hbetter
    obtain ⟨earlier, streak, hsplit, hlength, hstreak, hshort⟩ :=
      (counts history).extend observation (henough.trans TimingState.evidence_le) hbetter
    exact ⟨earlier, streak, hsplit, by omega, hstreak, rfl, himproves⟩
  | escalated hworse _ => exact absurd hbetter (lt_asymm hworse)
  | _ => exact absurd hbetter (lt_irrefl _)

theorem Parameters.withDefaults_escalateAfter_le (h : parameters.escalateAfterObservations ≤ 1) :
    parameters.withDefaults.escalateAfterObservations ≤ 1 := by
  simp only [Parameters.withDefaults, defaultParameters]
  split <;> omega

theorem Moves.indicated_le {state next : TimingState} (h : Moves parameters state observation next)
    (honce : parameters.escalateAfterObservations ≤ 1) :
    (indicatedMode observation parameters).urgency ≤ next.inForce.urgency := by
  have hdefault := Parameters.withDefaults_escalateAfter_le honce
  cases h with
  | agreed hsame => exact (congrArg TimingMode.urgency hsame).le
  | withinMargin hbetter _ => exact hbetter.le
  | pending hcounted _ =>
    cases hcounted with
    | escalation _ hcounted => omega
    | relaxation hbetter _ => exact hbetter.le
  | _ => exact le_refl _

end

/-- A mode gives way to a less urgent one only at the end of as many consecutive
observations as a relaxation needs, each indicating the new mode and clearing its margin,
with no change of mode among them; and where one observation escalates, the mode is
always at least as urgent as the latest reading. -/
theorem relaxation_is_sustained (parameters : Parameters) (history : List PowerObservation)
    (observation : PowerObservation) :
    let before := (TimingState.run parameters {} history).inForce
    let after := (TimingState.run parameters {} (history ++ [observation])).inForce
    (after.urgency < before.urgency →
      ∃ earlier streak, history ++ [observation] = earlier ++ streak ∧
        (streak.length : Int) = parameters.withDefaults.relaxAfterObservations ∧
        (∀ reading ∈ streak, indicatedMode reading parameters = after ∧
          Improves parameters after reading) ∧
        ∀ part, part <+: streak → part ≠ streak →
          (TimingState.run parameters {} (earlier ++ part)).inForce = before) ∧
      (parameters.escalateAfterObservations ≤ 1 →
        (indicatedMode observation parameters).urgency ≤ after.urgency) := by
  intro before after
  have hmoves := observe_moves parameters (TimingState.run parameters {} history) observation
  rw [← TimingState.run_concat] at hmoves
  refine ⟨fun hbetter => ?_, hmoves.indicated_le⟩
  obtain ⟨earlier, streak, hsplit, hlength, hstreak, hlast, himproves⟩ := hmoves.sustained hbetter
  refine ⟨earlier, streak ++ [observation], ?_, ?_, ?_, ?_⟩
  · rw [hsplit, List.append_assoc]
  · simpa using hlength
  · refine List.forall_mem_append.mpr ⟨?_, List.forall_mem_singleton.mpr ⟨hlast, himproves⟩⟩
    exact fun _ hmem => ⟨hstreak.indicates _ hmem, hstreak.improves _ hmem⟩
  · intro part hpart hproper
    exact hstreak.inForce part ((List.prefix_concat_iff.mp hpart).resolve_left hproper)

def batteryReading (seconds : Int) : PowerObservation :=
  { onBattery := true, runtimeSeconds := some seconds, runtimeTrusted := true }

theorem relaxation_sustained_by_three_readings :
    (TimingState.run {} {} ([100, 400, 400].map batteryReading)).inForce = .urgent ∧
      (TimingState.run {} {} ([100, 400, 400].map batteryReading ++ [batteryReading 400])).inForce =
        .nominal ∧
      ∃ earlier streak, [100, 400, 400].map batteryReading ++ [batteryReading 400] =
          earlier ++ streak ∧
        (streak.length : Int) = 3 ∧
        ∀ reading ∈ streak, Improves {} .nominal reading := by
  have hbefore : (TimingState.run {} {} ([100, 400, 400].map batteryReading)).inForce =
      .urgent := by decide +kernel
  have hafter : (TimingState.run {} {} ([100, 400, 400].map batteryReading ++
      [batteryReading 400])).inForce = .nominal := by decide +kernel
  have h := (relaxation_is_sustained {} ([100, 400, 400].map batteryReading) (batteryReading 400)).1
  rw [hbefore, hafter] at h
  obtain ⟨earlier, streak, hsplit, hlength, hstreak, _⟩ := h (by decide)
  exact ⟨hbefore, hafter, earlier, streak, hsplit, hlength, fun reading hmem =>
    (hstreak reading hmem).2⟩

end NutOperator.Adaptive
