import NutOperator.Adaptive.Hysteresis
import Mathlib.Data.List.Forall2

/-! Two runs of the timing mode, one of which never has the better readings. -/
namespace NutOperator.Adaptive

open Data List

structure Parameters.Machine (parameters : Parameters) : Prop where
  escalate : parameters.escalateAfterObservations ≤ maxDuration
  relax : parameters.relaxAfterObservations ≤ maxDuration

theorem Parameters.Machine.withDefaults {parameters : Parameters} (h : parameters.Machine) :
    parameters.withDefaults.Machine := by
  constructor <;> simp only [Parameters.withDefaults] <;> split
  · decide
  · exact h.escalate
  · decide
  · exact h.relax

/-- A count that no observation brings to an overflow. -/
def TimingState.Countable (state : TimingState) : Prop :=
  0 ≤ state.pendingCount ∧ state.pendingCount < maxDuration

instance (state : TimingState) : Decidable state.Countable := inferInstanceAs (Decidable (_ ∧ _))

section

variable {parameters : Parameters} {state next : TimingState} {observation : PowerObservation}

theorem Moves.pendingMode_eq (h : Moves parameters state observation next) {pending : TimingMode}
    (hpending : next.pendingMode = some pending) :
    pending = indicatedMode observation parameters := by
  cases h with
  | pending _ _ => exact (Option.some.inj hpending).symm
  | _ => cases hpending

theorem TimingState.Countable.evidence_eq (h : state.Countable) :
    state.evidence parameters observation =
      if state.pendingMode = some (indicatedMode observation parameters) then
        state.pendingCount + 1
      else 1 := by
  have hlow : minDuration ≤ state.pendingCount + 1 := le_trans (by decide) (Int.le_add_one h.1)
  rw [TimingState.evidence, wrapDuration_eq_self hlow (Int.add_one_le_iff.mpr h.2)]

theorem TimingState.Countable.evidence_pos (h : state.Countable) :
    1 ≤ state.evidence parameters observation := by
  have hcount := h.1
  rw [h.evidence_eq]
  split <;> omega

section

variable (h : Moves parameters state observation next)

include h

theorem Moves.countable (hmachine : parameters.Machine) (hcount : state.Countable) :
    next.Countable := by
  cases h with
  | pending hcounted hshort =>
    refine ⟨Int.le_trans (by decide) hcount.evidence_pos, hshort.trans_le ?_⟩
    cases hcounted with
    | escalation _ _ => exact hmachine.withDefaults.escalate
    | relaxation _ _ => exact hmachine.withDefaults.relax
  | _ => exact ⟨le_refl 0, show 0 < maxDuration by decide⟩

theorem Moves.inForce_le
    (hbelow : state.inForce.urgency ≤ (indicatedMode observation parameters).urgency) :
    next.inForce.urgency ≤ (indicatedMode observation parameters).urgency := by
  cases h with
  | escalated _ _ => exact le_refl _
  | reached _ _ => exact le_refl _
  | _ => exact hbelow

theorem Moves.le_inForce
    (habove : (indicatedMode observation parameters).urgency ≤ state.inForce.urgency) :
    (indicatedMode observation parameters).urgency ≤ next.inForce.urgency := by
  cases h with
  | escalated _ _ => exact le_refl _
  | reached _ _ => exact le_refl _
  | _ => exact habove

theorem Moves.agreeing (hsame : indicatedMode observation parameters = state.inForce) :
    next = { mode := some state.inForce } := by
  cases h with
  | agreed _ => rfl
  | withinMargin _ _ => rfl
  | pending hcounted _ =>
    cases hcounted with
    | escalation hworse _ => exact absurd hworse (hsame ▸ lt_irrefl _)
    | relaxation hbetter _ => exact absurd hbetter (hsame ▸ lt_irrefl _)
  | _ => rw [hsame]

theorem Moves.relaxing
    (hbetter : (indicatedMode observation parameters).urgency < state.inForce.urgency) :
    (relaxationEarned observation (indicatedMode observation parameters)
        parameters.withDefaults = false ∧ next = { mode := some state.inForce }) ∨
      relaxationEarned observation (indicatedMode observation parameters)
        parameters.withDefaults = true ∧
      ((state.evidence parameters observation < parameters.withDefaults.relaxAfterObservations ∧
          next = ⟨some state.inForce, some (indicatedMode observation parameters),
            state.evidence parameters observation⟩) ∨
        (parameters.withDefaults.relaxAfterObservations ≤ state.evidence parameters observation ∧
          next = { mode := some (indicatedMode observation parameters) })) := by
  cases h with
  | agreed hsame => exact absurd hbetter (hsame ▸ lt_irrefl _)
  | escalated hworse _ => exact absurd hbetter (lt_asymm hworse)
  | withinMargin _ hmargin => exact .inl ⟨hmargin, rfl⟩
  | pending hcounted hshort =>
    cases hcounted with
    | escalation hworse _ => exact absurd hbetter (lt_asymm hworse)
    | relaxation _ hearned => exact .inr ⟨hearned, .inl ⟨hshort, rfl⟩⟩
  | reached hcounted henough =>
    cases hcounted with
    | escalation hworse _ => exact absurd hbetter (lt_asymm hworse)
    | relaxation _ hearned => exact .inr ⟨hearned, .inr ⟨henough, rfl⟩⟩

theorem Moves.escalating
    (hworse : state.inForce.urgency < (indicatedMode observation parameters).urgency) :
    (parameters.withDefaults.escalateAfterObservations ≤ 1 ∧
        next = { mode := some (indicatedMode observation parameters) }) ∨
      1 < parameters.withDefaults.escalateAfterObservations ∧
      ((state.evidence parameters observation < parameters.withDefaults.escalateAfterObservations ∧
          next = ⟨some state.inForce, some (indicatedMode observation parameters),
            state.evidence parameters observation⟩) ∨
        (parameters.withDefaults.escalateAfterObservations ≤ state.evidence parameters observation ∧
          next = { mode := some (indicatedMode observation parameters) })) := by
  cases h with
  | agreed hsame => exact absurd hworse (hsame ▸ lt_irrefl _)
  | escalated _ honce => exact .inl ⟨honce, rfl⟩
  | withinMargin hbetter _ => exact absurd hbetter (lt_asymm hworse)
  | pending hcounted hshort =>
    cases hcounted with
    | escalation _ hcounted => exact .inr ⟨hcounted, .inl ⟨hshort, rfl⟩⟩
    | relaxation hbetter _ => exact absurd hbetter (lt_asymm hworse)
  | reached hcounted henough =>
    cases hcounted with
    | escalation _ hcounted => exact .inr ⟨hcounted, .inr ⟨henough, rfl⟩⟩
    | relaxation hbetter _ => exact absurd hbetter (lt_asymm hworse)

end

end

/-- The better state is in a mode at most as urgent. What the worse one has counted
towards relaxing, the better one has counted too or has left behind; and what the
better one has counted towards escalating, the worse one has. -/
structure Ahead (worse better : TimingState) : Prop where
  mode : better.inForce.urgency ≤ worse.inForce.urgency
  worseCount : worse.Countable
  betterCount : better.Countable
  relaxing : ∀ pending, worse.pendingMode = some pending → pending.urgency < worse.inForce.urgency →
      better.inForce.urgency ≤ pending.urgency ∨
        (better.pendingMode = some pending ∧ worse.pendingCount ≤ better.pendingCount)
  escalating : ∀ pending, better.pendingMode = some pending →
    better.inForce.urgency < pending.urgency → pending.urgency ≤ worse.inForce.urgency ∨
        (worse.pendingMode = some pending ∧ better.pendingCount ≤ worse.pendingCount)

theorem Ahead.refl {state : TimingState} (hcount : state.Countable) : Ahead state state where
  mode := le_refl _
  worseCount := hcount
  betterCount := hcount
  relaxing := fun _ hpending _ => .inr ⟨hpending, le_refl _⟩
  escalating := fun _ hpending _ => .inr ⟨hpending, le_refl _⟩

variable {better : TimingState} {parameters : Parameters}

theorem Ahead.of_urgent (hcount : better.Countable) :
    Ahead { mode := some .urgent } better where
  mode := better.inForce.urgency_le
  worseCount := by decide
  betterCount := hcount
  relaxing := fun _ hpending _ => nomatch hpending
  escalating := fun pending _ _ => .inl pending.urgency_le

section

variable {worse worseNext betterNext : TimingState} {first second : PowerObservation}

section

variable (hmachine : parameters.Machine) (h : Ahead worse better)
  (hfirst : Moves parameters worse first worseNext)
  (hsecond : Moves parameters better second betterNext)
  (hsame : indicatedMode first parameters = indicatedMode second parameters)

include hmachine h hfirst hsecond hsame

theorem Ahead.between (hbetter : better.inForce.urgency ≤ (indicatedMode second parameters).urgency)
    (hworse : (indicatedMode first parameters).urgency ≤ worse.inForce.urgency) :
    Ahead worseNext betterNext := by
  have hbetterNext := hsecond.inForce_le hbetter
  have hworseNext := hfirst.le_inForce hworse
  constructor
  · rw [hsame] at hworseNext
    exact hbetterNext.trans hworseNext
  · exact hfirst.countable hmachine h.worseCount
  · exact hsecond.countable hmachine h.betterCount
  · intro pending hpending _
    rw [hfirst.pendingMode_eq hpending, hsame]
    exact .inl hbetterNext
  · intro pending hpending _
    rw [hsecond.pendingMode_eq hpending, ← hsame]
    exact .inl hworseNext

theorem Ahead.relax
    (hearned : relaxationEarned first (indicatedMode first parameters)
        parameters.withDefaults = true →
      relaxationEarned second (indicatedMode second parameters) parameters.withDefaults = true)
    (hbelow : (indicatedMode second parameters).urgency < better.inForce.urgency) :
    Ahead worseNext betterNext := by
  have hbelowWorse : (indicatedMode first parameters).urgency < worse.inForce.urgency := by
    rw [hsame]
    exact hbelow.trans_le h.mode
  have hevidence : worse.evidence parameters first ≤ better.evidence parameters second := by
    rw [h.worseCount.evidence_eq, h.betterCount.evidence_eq]
    by_cases hpending : worse.pendingMode = some (indicatedMode first parameters)
    · cases h.relaxing _ hpending hbelowWorse with
      | inl hpast =>
        rw [hsame] at hpast
        exact absurd hpast hbelow.not_ge
      | inr hcounted =>
        rw [if_pos hpending, if_pos (hsame ▸ hcounted.1)]
        exact Int.add_le_add_right hcounted.2 1
    · rw [if_neg hpending]
      have hcount := h.betterCount.1
      split <;> omega
  have hmode : betterNext.inForce.urgency ≤ worseNext.inForce.urgency ∧
      ∀ pending, worseNext.pendingMode = some pending → betterNext.inForce.urgency ≤
        pending.urgency ∨
          (betterNext.pendingMode = some pending ∧
            worseNext.pendingCount ≤ betterNext.pendingCount) := by
    obtain ⟨_, rfl⟩ | ⟨hcleared, hfirst⟩ := hfirst.relaxing hbelowWorse
    · -- The worse run counts nothing; the better one is no further back than it was.
      refine ⟨le_trans ?_ h.mode, fun _ hpending => nomatch hpending⟩
      obtain ⟨_, rfl⟩ | ⟨_, ⟨_, rfl⟩ | ⟨_, rfl⟩⟩ := hsecond.relaxing hbelow
      · exact le_refl _
      · exact le_refl _
      · exact hbelow.le
    · obtain ⟨hmargin, _⟩ | ⟨_, hsecond⟩ := hsecond.relaxing hbelow
      · rw [hearned hcleared] at hmargin
        cases hmargin
      · obtain ⟨_, rfl⟩ | ⟨henough, rfl⟩ := hfirst
        · obtain ⟨_, rfl⟩ | ⟨_, rfl⟩ := hsecond
          · exact ⟨h.mode, fun pending hpending => .inr ⟨hsame ▸ hpending, hevidence⟩⟩
          · refine ⟨hbelow.le.trans h.mode, fun pending hpending => .inl ?_⟩
            rw [← Option.some.inj hpending, hsame]
            exact le_refl _
        · obtain ⟨hshort, _⟩ | ⟨_, rfl⟩ := hsecond
          · exact absurd (henough.trans hevidence) hshort.not_ge
          · refine ⟨?_, fun _ hpending => nomatch hpending⟩
            rw [hsame]
  constructor
  · exact hmode.1
  · exact hfirst.countable hmachine h.worseCount
  · exact hsecond.countable hmachine h.betterCount
  · exact fun pending hpending _ => hmode.2 pending hpending
  · intro pending hpending hescalates
    rw [hsecond.pendingMode_eq hpending] at hescalates
    exact absurd (hsecond.le_inForce hbelow.le) hescalates.not_ge

theorem Ahead.escalate (habove : worse.inForce.urgency < (indicatedMode first parameters).urgency) :
    Ahead worseNext betterNext := by
  have haboveBetter : better.inForce.urgency < (indicatedMode second parameters).urgency := by
    rw [← hsame]
    exact h.mode.trans_lt habove
  have hevidence : better.evidence parameters second ≤ worse.evidence parameters first := by
    rw [h.worseCount.evidence_eq, h.betterCount.evidence_eq]
    by_cases hpending : better.pendingMode = some (indicatedMode second parameters)
    · cases h.escalating _ hpending haboveBetter with
      | inl hpast =>
        rw [← hsame] at hpast
        exact absurd hpast habove.not_ge
      | inr hcounted =>
        rw [if_pos hpending, if_pos (hsame ▸ hcounted.1)]
        exact Int.add_le_add_right hcounted.2 1
    · rw [if_neg hpending]
      have hcount := h.worseCount.1
      split <;> omega
  have hmode : betterNext.inForce.urgency ≤ worseNext.inForce.urgency ∧
      ∀ pending, betterNext.pendingMode = some pending → pending.urgency ≤
        worseNext.inForce.urgency ∨
          (worseNext.pendingMode = some pending ∧
            betterNext.pendingCount ≤ worseNext.pendingCount) := by
    obtain ⟨honce, rfl⟩ | ⟨hcounted, hfirst⟩ := hfirst.escalating habove
    · obtain ⟨_, rfl⟩ | ⟨hcounted, _⟩ := hsecond.escalating haboveBetter
      · refine ⟨?_, fun _ hpending => nomatch hpending⟩
        rw [hsame]
      · exact absurd honce hcounted.not_ge
    · obtain ⟨honce, _⟩ | ⟨_, hsecond⟩ := hsecond.escalating haboveBetter
      · exact absurd honce hcounted.not_ge
      · obtain ⟨hshort, rfl⟩ | ⟨_, rfl⟩ := hfirst
        · obtain ⟨_, rfl⟩ | ⟨henough, _⟩ := hsecond
          · exact ⟨h.mode, fun pending hpending => .inr ⟨hsame ▸ hpending, hevidence⟩⟩
          · exact absurd (henough.trans hevidence) hshort.not_ge
        · obtain ⟨_, rfl⟩ | ⟨_, rfl⟩ := hsecond
          · refine ⟨h.mode.trans habove.le, fun pending hpending => .inl ?_⟩
            rw [← Option.some.inj hpending, hsame]
            exact le_refl _
          · refine ⟨?_, fun _ hpending => nomatch hpending⟩
            rw [hsame]
  constructor
  · exact hmode.1
  · exact hfirst.countable hmachine h.worseCount
  · exact hsecond.countable hmachine h.betterCount
  · intro pending hpending hrelaxes
    rw [hfirst.pendingMode_eq hpending] at hrelaxes
    exact absurd (hfirst.inForce_le habove.le) hrelaxes.not_ge
  · exact fun pending hpending _ => hmode.2 pending hpending

end

structure Agree (parameters : Parameters) (first second : PowerObservation) : Prop where
  indicated : indicatedMode first parameters = indicatedMode second parameters
  earned : relaxationEarned first (indicatedMode first parameters) parameters.withDefaults = true →
    relaxationEarned second (indicatedMode second parameters) parameters.withDefaults = true

theorem Ahead.observe (hmachine : parameters.Machine) (h : Ahead worse better)
    (hagree : Agree parameters first second) :
    Ahead (worse.observe first parameters).1 (better.observe second parameters).1 := by
  have hfirst := observe_moves parameters worse first
  have hsecond := observe_moves parameters better second
  by_cases hbelow : (indicatedMode second parameters).urgency < better.inForce.urgency
  · exact h.relax hmachine hfirst hsecond hagree.indicated hagree.earned hbelow
  · by_cases habove : worse.inForce.urgency < (indicatedMode first parameters).urgency
    · exact h.escalate hmachine hfirst hsecond hagree.indicated habove
    · exact h.between hmachine hfirst hsecond hagree.indicated (not_lt.mp hbelow) (not_lt.mp habove)

end

/-- Both on battery without a low-battery warning, the second with at least the runtime
of the first. -/
structure LongerRuntime (first second : PowerObservation) : Prop where
  onBattery : first.onBattery = true ∧ second.onBattery = true
  lowBattery : first.lowBattery = false ∧ second.lowBattery = false
  runtimeTrusted : first.runtimeTrusted = true ∧ second.runtimeTrusted = true
  runtimeSeconds : ∃ shorter longer, first.runtimeSeconds = some shorter ∧
    second.runtimeSeconds = some longer ∧ shorter ≤ longer

theorem LongerRuntime.agree {first second : PowerObservation} (h : LongerRuntime first second)
    (hsame : indicatedMode first parameters = indicatedMode second parameters) :
    Agree parameters first second := by
  obtain ⟨shorter, longer, hshorter, hlonger, hle⟩ := h.runtimeSeconds
  have hcast : (shorter : Rat) ≤ longer := Rat.intCast_le_intCast.mpr hle
  refine ⟨hsame, fun hearned => ?_⟩
  rw [← hsame]
  simp only [relaxationEarned, shouldDescend, h.onBattery.1, h.onBattery.2,
    PowerObservation.measuredRuntime, h.runtimeTrusted.1, h.runtimeTrusted.2, hshorter, hlonger,
    Bool.true_or, Bool.not_true, Bool.false_eq_true, if_true, if_false] at hearned ⊢
  cases hmode : indicatedMode first parameters with
  | urgent => simp [hmode] at hearned
  | _ =>
    simp only [hmode, decide_eq_true_eq] at hearned ⊢
    exact Rat.le_trans hearned hcast

theorem Ahead.run {worse : TimingState} {firsts seconds : List PowerObservation}
    (hmachine : parameters.Machine) (h : Ahead worse better)
    (hread : List.Forall₂ (Agree parameters) firsts seconds) :
    Ahead (worse.run parameters firsts) (better.run parameters seconds) := by
  induction hread generalizing worse better with
  | nil => exact h
  | cons hagree _ ih => exact ih (h.observe hmachine hagree)

/-- Of two sequences of readings that indicate the same modes, the one with the longer
runtimes does not end in a more urgent mode. -/
theorem longer_runtime_not_more_urgent (parameters : Parameters)
    (hmachine : parameters.Machine) (state : TimingState) (hcount : state.Countable)
    (firsts seconds : List PowerObservation)
    (hlonger : List.Forall₂ LongerRuntime firsts seconds)
    (hsame : firsts.map (indicatedMode · parameters) =
      seconds.map (indicatedMode · parameters)) :
    (state.run parameters seconds).inForce.urgency ≤
      (state.run parameters firsts).inForce.urgency := by
  have hagree : List.Forall₂ (Agree parameters) firsts seconds := by
    induction hlonger with
    | nil => exact .nil
    | cons hfirst _ ih =>
      rw [map_cons, map_cons, List.cons.injEq] at hsame
      exact .cons (hfirst.agree hsame.1) (ih hsame.2)
  exact ((Ahead.refl hcount).run hmachine hagree).mode

theorem longerRuntime_batteryReading {shorter longer : Int} (h : shorter ≤ longer) :
    LongerRuntime (batteryReading shorter) (batteryReading longer) where
  onBattery := ⟨rfl, rfl⟩
  lowBattery := ⟨rfl, rfl⟩
  runtimeTrusted := ⟨rfl, rfl⟩
  runtimeSeconds := ⟨shorter, longer, rfl, rfl, h⟩

theorem steady_readings_longer {shorter longer : Int} (h : shorter ≤ longer) (count : Nat) :
    List.Forall₂ LongerRuntime (replicate count (batteryReading shorter))
      (replicate count (batteryReading longer)) := by
  induction count with
  | zero => exact .nil
  | succ count ih => exact .cons (longerRuntime_batteryReading h) ih

theorem longer_runtime_relaxes_too :
    (TimingState.run {} { mode := some .urgent }
        (replicate 3 (batteryReading 500))).inForce.urgency ≤
      (TimingState.run {} { mode := some .urgent }
        (replicate 3 (batteryReading 400))).inForce.urgency :=
  longer_runtime_not_more_urgent {} ⟨by decide, by decide⟩ { mode := some .urgent } (by decide)
    (replicate 3 (batteryReading 400)) (replicate 3 (batteryReading 500))
    (steady_readings_longer (by decide) 3) (by decide +kernel)

/-- A steady reading just over the nominal threshold never clears its margin, and one
well below that threshold relaxes the mode. -/
theorem longer_runtime_stays_urgent :
    List.Forall₂ LongerRuntime (replicate 3 (batteryReading 400))
        (replicate 3 (batteryReading 901)) ∧
      (TimingState.run {} { mode := some .urgent }
        (replicate 3 (batteryReading 400))).inForce = .nominal ∧
      (TimingState.run {} { mode := some .urgent }
        (replicate 3 (batteryReading 901))).inForce = .urgent :=
  ⟨steady_readings_longer (by decide) 3, by decide +kernel, by decide +kernel⟩

inductive Obscured (original : PowerObservation) : PowerObservation → Prop
  | kept : Obscured original original
  | lost {runtime : Option Int} {trusted : Bool} (honBattery : original.onBattery = true)
      (hlost : runtime = none ∨ trusted = false) :
      Obscured original { original with runtimeSeconds := runtime, runtimeTrusted := trusted }

theorem indicatedMode_of_lost {original : PowerObservation}
    {runtime : Option Int} {trusted : Bool} (honBattery : original.onBattery = true)
    (hlost : runtime = none ∨ trusted = false) :
    indicatedMode { original with runtimeSeconds := runtime, runtimeTrusted := trusted }
      parameters = .urgent := by
  rcases hlost with rfl | rfl <;>
    simp [indicatedMode, shouldDescend, honBattery, PowerObservation.measuredRuntime]

theorem Moves.eq_of_urgent {state next : TimingState} {observation : PowerObservation}
    (h : Moves parameters state observation next) (honce : parameters.escalateAfterObservations ≤ 1)
    (hurgent : indicatedMode observation parameters = .urgent) :
    next = { mode := some .urgent } := by
  have hdefault := Parameters.withDefaults_escalateAfter_le honce
  by_cases hworse : state.inForce.urgency < (indicatedMode observation parameters).urgency
  · obtain ⟨_, rfl⟩ | ⟨hcounted, _⟩ := h.escalating hworse
    · rw [hurgent]
    · exact absurd hdefault hcounted.not_ge
  · have hinForce : state.inForce = .urgent := by
      apply TimingMode.urgency_injective
      rw [hurgent] at hworse
      exact le_antisymm state.inForce.urgency_le (not_lt.mp hworse)
    rw [h.agreeing (hurgent.trans hinForce.symm), hinForce]

theorem Ahead.observe_obscured {worse : TimingState} {original obscured : PowerObservation}
    (hmachine : parameters.Machine) (h : Ahead worse better)
    (honce : parameters.escalateAfterObservations ≤ 1) (hobscured : Obscured original obscured) :
    Ahead (worse.observe obscured parameters).1 (better.observe original parameters).1 := by
  cases hobscured with
  | kept => exact h.observe hmachine ⟨rfl, id⟩
  | lost honBattery hlost =>
    have hurgent := (observe_moves parameters worse _).eq_of_urgent honce
      (indicatedMode_of_lost honBattery hlost)
    rw [hurgent]
    exact Ahead.of_urgent ((observe_moves parameters better original).countable hmachine
      h.betterCount)

theorem Ahead.run_obscured {worse : TimingState} {originals readings : List PowerObservation}
    (hmachine : parameters.Machine) (h : Ahead worse better)
    (honce : parameters.escalateAfterObservations ≤ 1)
    (hobscured : List.Forall₂ Obscured originals readings) :
    Ahead (worse.run parameters readings) (better.run parameters originals) := by
  induction hobscured generalizing worse better with
  | nil => exact h
  | cons hfirst _ ih => exact ih (h.observe_obscured hmachine honce hfirst)

/-- Where one observation escalates, losing runtimes makes the mode less urgent at no
position of the run. -/
theorem lost_runtime_not_less_urgent (parameters : Parameters) (hmachine : parameters.Machine)
    (honce : parameters.escalateAfterObservations ≤ 1) (state : TimingState)
    (hcount : state.Countable) (originals readings : List PowerObservation)
    (hobscured : List.Forall₂ Obscured originals readings) (position : Nat) :
    (state.run parameters (originals.take position)).inForce.urgency ≤
      (state.run parameters (readings.take position)).inForce.urgency :=
  ((Ahead.refl hcount).run_obscured hmachine honce (forall₂_take position hobscured)).mode

def unknownReading : PowerObservation :=
  { batteryReading 1000 with runtimeSeconds := none, runtimeTrusted := true }

theorem obscured_first_reading : List.Forall₂ Obscured (replicate 4 (batteryReading 1000))
      (unknownReading :: replicate 3 (batteryReading 1000)) :=
  .cons (.lost rfl (.inl rfl)) (.cons .kept (.cons .kept (.cons .kept .nil)))

theorem lost_reading_delays_relaxation :
    (TimingState.run {} { mode := some .nominal }
        ((replicate 4 (batteryReading 1000)).take 3)).inForce.urgency ≤
      (TimingState.run {} { mode := some .nominal }
        ((unknownReading :: replicate 3 (batteryReading 1000)).take 3)).inForce.urgency :=
  lost_runtime_not_less_urgent {} ⟨by decide, by decide⟩ (by decide) { mode := some .nominal }
    (by decide)
    (replicate 4 (batteryReading 1000))
    (unknownReading :: replicate 3 (batteryReading 1000)) obscured_first_reading 3

/-- From a state whose count is negative, the run that loses a reading also loses the
count, and relaxes first. -/
theorem negative_count_outlasts_lost_reading :
    List.Forall₂ Obscured (replicate 4 (batteryReading 1000))
        (unknownReading :: replicate 3 (batteryReading 1000)) ∧
      (TimingState.run {} ⟨some .nominal, some .relaxed, -10⟩
        (replicate 4 (batteryReading 1000))).inForce = .nominal ∧
      (TimingState.run {} ⟨some .nominal, some .relaxed, -10⟩
        (unknownReading :: replicate 3 (batteryReading 1000))).inForce = .relaxed :=
  ⟨obscured_first_reading, by decide +kernel, by decide +kernel⟩

end NutOperator.Adaptive
