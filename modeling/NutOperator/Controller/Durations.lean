import NutOperator.Controller.Barriers
import NutOperator.Execution.Durations
import Mathlib.Algebra.Order.BigOperators.Group.List

/-! The time the planner gives a wave and the time the executor needs for it. The
planner counts the slowest group, as if the groups ran together; the executor runs
one after the other. -/
namespace NutOperator.Controller

open Effects Execution List
open Data (Duration sum_le_foldl_max)
open Planner (CompiledFrom Plan StructuralInputs StableHash TelemetryInputs
  HistoryInputs Diagnostic compileWithHistory survivingInputs compiledFrom_of_compile
  declaredGroupDuration waveDuration constantHash exists_ok_of_map)

def declaredTime (inputs : StructuralInputs) (name : String) : Duration :=
  declaredGroupDuration (Planner.groupNamed inputs.groups name)

def EndWithin (inputs : StructuralInputs) (wave : Wave) (trace : TimedTrace) : Prop :=
  ∀ name ∈ wave.groups, groupTime trace name ≤ max (declaredTime inputs name) 0

def timedGroups (inputs : StructuralInputs) (wave : Wave) : List String :=
  wave.groups.filter fun name => 0 < declaredTime inputs name

theorem exists_planned {plan : Plan} (hwaves : plan.waves ≠ []) {wave : Wave}
    (hwave : wave ∈ executionWaves plan) :
    ∃ planned ∈ plan.waves, wave.groups = planned.groups ∧ wave.duration = planned.duration := by
  obtain ⟨bare, hbare, rfl⟩ := mem_map.mp hwave
  rw [executorWavesFromFlow, if_neg hwaves] at hbare
  obtain ⟨planned, hp, rfl⟩ := mem_map.mp hbare
  refine ⟨planned, hp, ?_⟩
  split <;> exact ⟨rfl, rfl⟩

theorem groups_ne_nil {structural normalized surviving : StructuralInputs} {plan : Plan}
    {pruned : List String} (hcompiled : CompiledFrom structural plan normalized surviving pruned)
    (hwaves : plan.waves ≠ []) : structural.groups ≠ [] := by
  intro hnone
  have hs : surviving.groups = [] := by
    apply eq_nil_iff_forall_not_mem.mpr
    intro group hmem
    have hname := (hcompiled.mem_names.mp (mem_map_of_mem hmem)).1
    rw [hnone] at hname
    cases hname
  rw [hcompiled.accepted.waves, Planner.compileSchedule, if_neg (not_not.mpr hs)] at hwaves
  exact hwaves rfl

/-- Groups that run one after the other keep to the time of the slowest when at most
one of them declares a time. -/
theorem wave_ends_within_duration {hash : StableHash} {structural surviving : StructuralInputs}
    {telemetry : TelemetryInputs} {history : HistoryInputs} {plan : Plan}
    {diagnostics : List Diagnostic}
    (h : compileWithHistory hash structural telemetry history = .ok (plan, diagnostics))
    (hsurviving : survivingInputs hash structural = .ok surviving) (hwaves : plan.waves ≠ [])
    {wave : Wave} (hwave : wave ∈ executionWaves plan)
    (hone : (timedGroups surviving wave).length ≤ 1) {executor : Executor}
    {config : WaveRunConfig} {state : WaveAdaptiveState} {trace : TimedTrace}
    {run : WaveExecutionResult} (hdeclared : DeclaresAll config.groups wave.groups)
    (hrun : Runs ((executor.runWave config wave state).timed Duration) trace run)
    (hinstant : Instant trace) (hwithin : EndWithin surviving wave trace) :
    elapsed trace ≤ wave.duration := by
  obtain ⟨normalized, same, pruned, hsame, -, hc⟩ := compiledFrom_of_compile h
  obtain rfl := Except.ok.inj (hsurviving.symm.trans hsame)
  obtain ⟨planned, hp, hg, hd⟩ := exists_planned hwaves hwave
  have hdistinct : wave.groups.Nodup := by
    rw [hg]
    exact (nodup_flatten.mp (hc.nodup_plan_groups (groups_ne_nil hc hwaves))).1
      _ (mem_map_of_mem hp)
  have hplan : wave.duration = (wave.groups.map (declaredTime surviving)).foldl max 0 := by
    rw [hc.accepted.waves] at hp
    rw [hd, Planner.duration_of_compileSchedule hp, hg, waveDuration, map_map]
    rfl
  calc elapsed trace
    _ = (wave.groups.map fun name => groupTime trace name).sum :=
        elapsed_runWave hrun hinstant hdeclared hdistinct
    _ ≤ (wave.groups.map fun name => max (declaredTime surviving name) 0).sum := sum_le_sum hwithin
    _ ≤ (wave.groups.map (declaredTime surviving)).foldl max 0 := by
        have hlong := @sum_le_foldl_max (wave.groups.map (declaredTime surviving)) (by
          rw [filter_map, length_map]
          exact hone)
        rwa [map_map] at hlong
    _ = wave.duration := hplan.symm

def pausingFlow (pauses : List (String × String)) : StructuralInputs :=
  { triggers := [{ type := "OnBattery" }]
    groups := pauses.map fun pause =>
      { name := pause.1, action := "Wait", params := [("duration", pause.2)] } }

def pausingReply (request : Request) : TimedReply Reply Duration request :=
  (failingReply [] request,
    match request with
    | .sleep _ duration => duration
    | _ => 0)

theorem instant_pausingReply {request : Request} (h : instant request = true) :
    (pausingReply request).2 = 0 := by
  cases request <;> first | rfl | cases h

def pausingConfig (pauses : List (String × Duration)) : WaveRunConfig :=
  { terminalWave := true, input := {}, groups := pauses.map fun pause =>
      { name := pause.1, action := actionWait, waitDuration := pause.2 }
    executionID := "run", mode := "Enforce", dryRun := false, tierPolicy := .wait, window := {}
    lowerTierDue := false, waveStart := 1, actionContext := .execution }

def pausingRun (pauses : List (String × Duration)) (wave : Wave) :
    TimedTrace × WaveExecutionResult :=
  perform (fun _ => pausingReply) []
    ((({ runner := true } : Executor).runWave (pausingConfig pauses) wave
      (waveStateOf {} wave 0 {})).timed Duration)

theorem runs_pausingRun (pauses : List (String × Duration)) (wave : Wave) :
    Runs ((({ runner := true } : Executor).runWave (pausingConfig pauses) wave
      (waveStateOf {} wave 0 {})).timed Duration) (pausingRun pauses wave).1
      (pausingRun pauses wave).2 :=
  runs_perform _ _ _

theorem instant_pausingRun (pauses : List (String × Duration)) (wave : Wave) :
    Instant (pausingRun pauses wave).1 := by
  apply forall_perform
  intro _ request hi
  exact instant_pausingReply hi

def minute : Duration := 60000000000

def pausingWave : Wave := { index := 0, groups := ["a", "b"], duration := minute }

section

variable {pauses : List (String × String)} {second : Duration} {surviving : StructuralInputs}

theorem exists_pausing_plan
    (hplan : (compileWithHistory constantHash (pausingFlow pauses) {} {}).toOption.map
      (fun accepted => (accepted.1.waves.length, executionWaves accepted.1)) =
        some (1, [pausingWave]))
    (htimes : (survivingInputs constantHash (pausingFlow pauses)).toOption.map
      (fun surviving => (declaredTime surviving "a", declaredTime surviving "b")) =
        some (minute, second)) :
    ∃ plan diagnostics surviving,
      compileWithHistory constantHash (pausingFlow pauses) {} {} = .ok (plan, diagnostics) ∧
      survivingInputs constantHash (pausingFlow pauses) = .ok surviving ∧
      plan.waves ≠ [] ∧ pausingWave ∈ executionWaves plan ∧
      declaredTime surviving "a" = minute ∧ declaredTime surviving "b" = second := by
  obtain ⟨⟨plan, diagnostics⟩, hc, hplan⟩ := exists_ok_of_map hplan
  obtain ⟨surviving, hs, htimes⟩ := exists_ok_of_map htimes
  obtain ⟨hlen, hw⟩ := Prod.mk.inj hplan
  exact ⟨plan, diagnostics, surviving, hc, hs, ne_nil_of_length_pos (hlen ▸ Nat.one_pos),
    hw ▸ mem_cons_self, Prod.mk.inj htimes⟩

theorem endWithin_pausingWave (hfirst : declaredTime surviving "a" = minute)
    (hsecond : declaredTime surviving "b" = second) {trace : TimedTrace}
    (hspent : groupTime trace "a" ≤ minute ∧ groupTime trace "b" ≤ second) :
    EndWithin surviving pausingWave trace := by
  simp only [EndWithin, pausingWave, forall_mem_cons, hfirst, hsecond]
  exact ⟨hspent.1.trans (le_max_left _ _), hspent.2.trans (le_max_left _ _), nofun⟩

end

/-- Two pauses of a minute are planned for one minute and take two. -/
theorem two_pauses_overrun :
    ∃ plan diagnostics surviving wave,
      compileWithHistory constantHash (pausingFlow [("a", "60s"), ("b", "60s")]) {} {} =
        .ok (plan, diagnostics) ∧
      survivingInputs constantHash (pausingFlow [("a", "60s"), ("b", "60s")]) = .ok surviving ∧
      plan.waves ≠ [] ∧ wave ∈ executionWaves plan ∧
      DeclaresAll (pausingConfig [("a", minute), ("b", minute)]).groups wave.groups ∧
      ∃ trace run, Runs ((({ runner := true } : Executor).runWave
          (pausingConfig [("a", minute), ("b", minute)]) wave
          (waveStateOf {} wave 0 {})).timed Duration) trace run ∧
        Instant trace ∧ EndWithin surviving wave trace ∧ wave.duration = minute ∧
        elapsed trace = 2 * minute ∧ ¬ elapsed trace ≤ wave.duration := by
  obtain ⟨plan, diagnostics, surviving, hc, hs, hw, hwave, hf, hsecond⟩ :=
    @exists_pausing_plan [("a", "60s"), ("b", "60s")] minute (by decide) (by decide)
  exact ⟨plan, diagnostics, surviving, pausingWave, hc, hs, hw, hwave,
    by simp [DeclaresAll, pausingConfig, pausingWave], _, _, runs_pausingRun _ _,
    instant_pausingRun _ _, endWithin_pausingWave hf hsecond (by decide), rfl, by decide, by decide⟩

/-- A pause beside a group that declares no time. -/
theorem wave_ends_within_duration_pause :
    ∃ plan diagnostics surviving wave,
      compileWithHistory constantHash (pausingFlow [("a", "60s"), ("b", "0s")]) {} {} =
        .ok (plan, diagnostics) ∧
      survivingInputs constantHash (pausingFlow [("a", "60s"), ("b", "0s")]) = .ok surviving ∧
      wave ∈ executionWaves plan ∧ wave.groups = ["a", "b"] ∧
      ∃ trace run, Runs ((({ runner := true } : Executor).runWave
          (pausingConfig [("a", minute), ("b", 0)]) wave
          (waveStateOf {} wave 0 {})).timed Duration) trace run ∧
        elapsed trace = minute ∧ elapsed trace ≤ wave.duration := by
  obtain ⟨plan, diagnostics, surviving, hc, hs, hw, hwave, hf, hsecond⟩ :=
    @exists_pausing_plan [("a", "60s"), ("b", "0s")] 0 (by decide) (by decide)
  have hrun := runs_pausingRun [("a", minute), ("b", 0)] pausingWave
  refine ⟨plan, diagnostics, surviving, _, hc, hs, hwave, rfl, _, _, hrun, by decide, ?_⟩
  apply wave_ends_within_duration hc hs hw hwave _ _ hrun (instant_pausingRun _ _)
  · exact endWithin_pausingWave hf hsecond (by decide)
  · simp [timedGroups, pausingWave, hf, hsecond, minute]
  · simp [DeclaresAll, pausingConfig, pausingWave]

end NutOperator.Controller
