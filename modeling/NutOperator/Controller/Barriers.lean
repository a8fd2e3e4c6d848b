import NutOperator.Execution.Overlap
import NutOperator.Execution.Sequential
import NutOperator.Planner.ReleaseOrder

/-! From a compiled plan to the waves of an execution: the status keeps the waves,
the steps and the graph of the plan, and a wave that releases a communication
carrier becomes a barrier. -/
namespace NutOperator.Controller

open Effects Execution List
open Planner (CompiledStep Graph NeedsCarrier Plan ReleasesShared StructuralInputs)

def stepWaves (previousDuration : Planner.Duration) : List CompiledStep → List Wave
  | [] => []
  | step :: rest =>
    { index := step.index, groups := [step.id]
      duration := step.cumulativeDuration - previousDuration } ::
      stepWaves step.cumulativeDuration rest

def executorWavesFromFlow (compiledWaves : List Planner.Wave) (compiledSteps : List CompiledStep) :
    List Wave :=
  if compiledWaves = [] then stepWaves 0 compiledSteps
  else
    compiledWaves.map fun wave =>
      { index := wave.index, shutdownTier := wave.shutdownTier, duration := wave.duration
        groups := wave.groups }

def carriers (graph : Graph) : List String :=
  (graph.edges.filter fun edge => edge.relation = .communicationPath).map (·.toID)

/-- Without a published artifact nothing is marked. -/
def applyCommunicationBarriers (waves : List Wave) : Option Graph → List Wave
  | none => waves
  | some graph =>
    waves.map fun wave =>
      if wave.groups.any fun group => group ∈ carriers graph then
        { wave with communicationBarrier := true }
      else wave

def executionWaves (plan : Plan) : List Wave :=
  applyCommunicationBarriers (executorWavesFromFlow plan.waves plan.steps) (some plan.graph)

variable {plan : Plan} {name : String}

theorem communicationBarrier_of_mem {wave : Wave} (hwave : wave ∈ executionWaves plan)
    (hname : name ∈ wave.groups) (hcarrier : name ∈ carriers plan.graph) :
    wave.communicationBarrier = true := by
  obtain ⟨compiled, _, rfl⟩ := mem_map.mp hwave
  split
  · rfl
  · rename_i hnone
    rw [if_neg hnone] at hname
    exact absurd (any_eq_true.mpr ⟨name, hname, by simpa using hcarrier⟩) hnone

theorem untiered_stepWaves (previousDuration : Planner.Duration) (steps : List CompiledStep) :
    ∀ wave ∈ stepWaves previousDuration steps, wave.shutdownTier = none := by
  induction steps generalizing previousDuration with
  | nil => simp [stepWaves]
  | cons step rest ih => exact forall_mem_cons.mpr ⟨rfl, ih _⟩

theorem untiered_executionWaves (hline : plan.waves = []) :
    ∀ wave ∈ executionWaves plan, wave.shutdownTier = none := by
  intro wave hmem
  obtain ⟨compiled, hc, rfl⟩ := mem_map.mp hmem
  rw [executorWavesFromFlow, if_pos hline] at hc
  have hu := untiered_stepWaves 0 plan.steps compiled hc
  split <;> exact hu

def ReleasesNeeded (structural : StructuralInputs) (plan : Plan) (name : String) : Prop :=
  ∃ other ∈ plan.stages.flatten,
    NeedsCarrier structural.groupNodes structural.communicationDependencies other name ∨
      other ≠ name ∧ ReleasesShared structural.groupNodes structural.communicationDependencies
        structural.communicationServices name

theorem mem_stages_of_mem_executionWaves {wave : Wave} (hwaves : plan.waves ≠ [])
    (hwave : wave ∈ executionWaves plan) (hname : name ∈ wave.groups) :
    name ∈ plan.stages.flatten := by
  obtain ⟨converted, hc, rfl⟩ := mem_map.mp hwave
  rw [executorWavesFromFlow, if_neg hwaves] at hc
  obtain ⟨compiled, hcompiled, rfl⟩ := mem_map.mp hc
  have hg : name ∈ compiled.groups := by
    split at hname <;> exact hname
  rw [Plan.stages, if_neg hwaves]
  exact mem_flatten.mpr ⟨compiled.groups, mem_map_of_mem hcompiled, hg⟩

theorem mem_carriers_of_releasesNeeded {hash : Planner.StableHash} {structural : StructuralInputs}
    {telemetry : Planner.TelemetryInputs} {samples : Planner.HistoryInputs}
    {diagnostics : List Planner.Diagnostic}
    (h : Planner.compileWithHistory hash structural telemetry samples = .ok (plan, diagnostics))
    (hgroups : structural.groups ≠ [])
    (hdistinct : Planner.DistinctIDs (Planner.actionNames structural))
    (hname : name ∈ plan.stages.flatten) (hneed : ReleasesNeeded structural plan name) :
    name ∈ carriers plan.graph := by
  obtain ⟨normalized, surviving, pruned, -, -, hc⟩ := Planner.compiledFrom_of_compile h
  obtain ⟨other, ho, hneeds⟩ := hneed
  have hj := hc.joins_communicationOrder hdistinct ho hname hneeds
  rw [Planner.communicationOrderEdges, if_neg (hc.groups_ne_nil hgroups)] at hj
  obtain ⟨edge, hedge, hr, -, hto⟩ := (hc.joins hgroups).mpr (.inr (.inr hj))
  exact mem_map.mpr ⟨edge, mem_filter.mpr ⟨hedge, by simpa using hr⟩, hto⟩

structure DispatchesWave (input : Input) (history before : History) (exchange : Exchange Reply)
    (after : History) (wave : Wave) (later : List Wave) : Prop where
  split : history = before ++ ⟨none, exchange⟩ :: after
  dispatch : ∃ dispatched, dispatchOf exchange = some dispatched
  position : input.waves.drop (dispatches before).length = wave :: later

/-- In every order of steps a barrier, the terminal handoff and every wave of an
accepted plan that releases a communication carrier start when all waves launched
before are over and none has failed. -/
theorem carriers_wait_for_running_waves {executor : Executor} {input : Input} {history : History}
    {execution : ExecutionMachine} (h : Executes executor input history execution) :
    (∀ before exchange after wave later,
      DispatchesWave input history before exchange after wave later →
      WaitsForAll input wave later → Quiesced executor before (⟨none, exchange⟩ :: after)) ∧
    (∀ hash structural telemetry samples plan diagnostics,
      Planner.compileWithHistory hash structural telemetry samples = .ok (plan, diagnostics) →
      input.waves = executionWaves plan → ∀ before exchange after wave later,
      DispatchesWave input history before exchange after wave later → ∀ name ∈ wave.groups,
      name ∈ carriers plan.graph ∨
        Planner.DistinctIDs (Planner.actionNames structural) ∧
          ReleasesNeeded structural plan name →
      Quiesced executor before (⟨none, exchange⟩ :: after)) := by
  constructor
  · rintro before exchange after wave later ⟨rfl, ⟨dispatched, hdispatch⟩, hposition⟩ hw
    exact h.quiesced hdispatch hposition hw
  · rintro hash structural telemetry samples plan diagnostics hcomp hwaves before exchange after
      wave later ⟨rfl, ⟨dispatched, hdispatch⟩, hposition⟩ name hname hreleases
    have hmem : wave ∈ executionWaves plan := by
      rw [← hwaves]
      apply mem_of_mem_drop
      rw [hposition]
      exact mem_cons_self
    by_cases hline : plan.waves = []
    · apply h.quiesced_of_untiered hdispatch
      rw [hwaves]
      exact untiered_executionWaves hline
    · have hg : structural.groups ≠ [] := by
        obtain ⟨normalized, surviving, pruned, -, -, hcompiled⟩ :=
          Planner.compiledFrom_of_compile hcomp
        exact fun hnone => hline (hcompiled.waves_eq_nil hnone)
      have hc : name ∈ carriers plan.graph := by
        rcases hreleases with hc | ⟨hd, hneed⟩
        · exact hc
        · exact mem_carriers_of_releasesNeeded hcomp hg hd
            (mem_stages_of_mem_executionWaves hline hmem hname) hneed
      exact h.quiesced hdispatch hposition (.inl (communicationBarrier_of_mem hmem hname hc))

def switchedRack : StructuralInputs :=
  { Planner.switchedFlow with
    groups := [{ name := "switch", shutdownTier := some 1 },
        { name := "work", shutdownTier := some 2, timeout := 60 * Data.nanosPerSecond }] }

def rackInput : Input :=
  { hookedInput with
    tierOverrunPolicy := some .overlap
    waves :=
      [{ index := 0, shutdownTier := some 2, duration := 60 * Data.nanosPerSecond,
         groups := ["work"] },
        { index := 1, communicationBarrier := true, shutdownTier := some 1, groups := ["switch"] }]
    groups :=
      [{ name := "work", action := "DrainNodes" }, { name := "switch", action := "DrainNodes" }] }

/-- The work is late, the loop goes past it, and the switch still waits. -/
theorem rackInput_waits_for_work :
    let run := simulate { runner := true } rackInput (fun _ => failingReply [])
      (replicate 20 none ++ replicate 20 (some 0) ++ replicate 20 none)
    (∃ plan diagnostics, Planner.compileWithHistory Planner.constantHash switchedRack {} {} =
        .ok (plan, diagnostics) ∧ rackInput.waves = executionWaves plan ∧
      "switch" ∈ carriers plan.graph) ∧
      launches (run.1.take 22) = [0] ∧
      (dispatches (run.1.drop 22)).map Dispatched.label = [(1, ["switch"])] ∧
      Quiesced { runner := true } (run.1.take 22) (run.1.drop 22) := by
  intro run
  obtain ⟨⟨plan, diagnostics⟩, haccepted, hplan⟩ : ∃ accepted,
      Planner.compileWithHistory Planner.constantHash switchedRack {} {} = .ok accepted ∧
        (executionWaves accepted.1, carriers accepted.1.graph) = (rackInput.waves, ["switch"]) :=
    Planner.exists_ok_of_map (by decide)
  obtain ⟨hwaves, hc⟩ := Prod.mk.inj hplan
  have hcarrier : "switch" ∈ carriers plan.graph := by
    rw [hc]
    exact mem_singleton_self _
  obtain ⟨exchange, hdrop, hd⟩ := exists_dispatch_at
    (show run.1[22]?.map (fun event => (event.actor, dispatchOf event.exchange)) =
      some (none, some ⟨1, ["switch"], false⟩) by decide)
  have hs : run.1 = run.1.take 22 ++ ⟨none, exchange⟩ :: run.1.drop 23 := by
    rw [← hdrop, take_append_drop]
  refine ⟨⟨plan, diagnostics, haccepted, hwaves.symm, hcarrier⟩, by decide, by decide, ?_⟩
  rw [hdrop]
  exact (carriers_wait_for_running_waves (executes_simulate _ _ _ _)).2 _ _ _ _ plan diagnostics
    haccepted hwaves.symm _ _ _ (rackInput.waves.getLastD {}) [] ⟨hs, ⟨_, hd⟩, by decide⟩
    "switch" (by decide) (.inl hcarrier)

end NutOperator.Controller
