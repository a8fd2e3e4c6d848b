import NutOperator.Execution.Attempts
import NutOperator.Execution.WaveEvidence

/-! Executions under the `Wait` policy. Nothing overlaps and nothing is preempted,
so the groups run one after another in the order of the waves. -/
namespace NutOperator.Execution

open Adaptive Effects List

structure Idle (state : Dispatch) : Prop where
  pending : state.pending = []
  phase : state.result.phase = some .completed

variable {state : Dispatch} {ending : Ending String}

theorem Idle.within_waitForPending (h : Idle state) :
    Within ClosingAsks state.waitForPending fun drained => drained =
      { result := state.result } := by
  rw [Dispatch.waitForPending, h.pending]
  exact within_pure rfl

section

variable {run : ExecutionRun}

theorem within_drainBefore (wave : Wave) (later : List Wave) (hidle : Idle state) :
    Within ClosingAsks (run.drainBefore wave later state)
      fun step => ∃ drained, step = .next drained ∧ Idle drained := by
  unfold ExecutionRun.drainBefore
  split
  · refine hidle.within_waitForPending.bind ?_
    rintro drained rfl
    exact within_pure ⟨_, rfl, ⟨rfl, hidle.phase⟩⟩
  · exact within_pure ⟨state, rfl, hidle⟩

def Settled (error : Option String) : Step → Prop
  | .ended outcome => error.isSome ∧ outcome.1.phase = some .aborted
  | .next state => error = none ∧ Idle state

theorem Settled.closeWindow {err : Option String} {step : Step} (h : Settled err step)
    (lowerTierDue : Bool) : Settled err (step.closeWindow lowerTierDue) := by
  cases step with
  | ended out => exact h
  | next state =>
    cases lowerTierDue with
    | false => exact h
    | true => exact ⟨h.1, h.2.pending, h.2.phase⟩

theorem within_handleWaveResult (hidle : Idle state) (finished : WaveExecutionResult) :
    Within ClosingAsks (run.handleWaveResult state finished) (Settled finished.err) := by
  unfold ExecutionRun.handleWaveResult
  dsimp only
  cases herr : finished.err with
  | none => exact within_pure ⟨rfl, hidle.pending, hidle.phase⟩
  | some err =>
    have ha : Idle { state with
        result := state.result.absorbWave finished
        recordErr := joinErrors state.recordErr finished.recordError } :=
      ⟨hidle.pending, hidle.phase⟩
    refine ha.within_waitForPending.bind fun drained _ => ?_
    exact (asks_recordAborted run _ _ _ _).bind fun out haborted =>
      within_pure ⟨rfl, haborted.2.1⟩

end

theorem ensures_evaluateWave (executor : Executor) (context : Context) (input : AdaptiveInput)
    (wave : Wave) (remainingPlan : Data.Duration) :
    Ensures Steady (executor.evaluateWave context input wave remainingPlan)
      fun trace result => Silent trace ∧ ∃ state, result = .ok state := by
  unfold Executor.evaluateWave
  split
  · have ho : Ensures Steady (ask (.observe context))
        fun trace (reply : Except String PowerObservation) => Silent trace ∧ reply.isOk := by
      refine ensures_request fun reply hs => ⟨⟨rfl, rfl, rfl⟩, hs⟩
    refine ho.bind ?_
    rintro observing reply ⟨hobserving, hok⟩
    cases reply with
    | error error => cases hok
    | ok observation =>
      refine ensures_pure ⟨?_, _, rfl⟩
      rw [append_nil]
      exact hobserving
  · exact ensures_pure ⟨silent_nil, _, rfl⟩

theorem within_approvalRevokedAt (executor : Executor) (dryRun approvalRevoked : Bool) :
    Within Quiet (executor.approvalRevokedAt dryRun approvalRevoked) fun _ => True := by
  unfold Executor.approvalRevokedAt
  split
  · refine (within_asked trivial).bind fun reply _ => ?_
    split <;> exact within_pure trivial
  · exact within_pure trivial

/-- One wave of a sequential execution: it either ends the execution or leaves
it idle for the next one. -/
def Advanced (groups : List Group) (names : List String) (trace : Trace) (step : Step) : Prop :=
  ∃ error, WaveRan groups names trace error ∧ Settled error step

section

variable (executor : Executor) {run : ExecutionRun} (hpolicy : run.tierPolicy = .wait)
  {wave : Wave} (hnames : ∀ name ∈ wave.groups, (groupNamed run.groups name).name = name)
include hpolicy hnames

theorem ensures_awaitWave (later : List Wave) (hidle : Idle state)
    (dryRun : Bool) (window : TierOverrunWindow) (waveStart : Time)
    (waveState : WaveAdaptiveState) :
    Ensures Steady (executor.awaitWave run state
        (run.waveRun wave later dryRun window waveStart) wave waveState)
      fun trace step => Advanced run.groups wave.groups trace step := by
  have hc : (run.waveRun wave later dryRun window waveStart).actionContext = .execution := by
    simp [ExecutionRun.waveRun, waveActionContext, hpolicy]
  have hp : (run.waveRun wave later dryRun window waveStart).tierPolicy ≠ .preempt := by
    simp [ExecutionRun.waveRun, hpolicy]
  unfold Executor.awaitWave
  refine (ensures_runWave executor wave waveState hc hp hnames).bind ?_
  intro running finished hran
  refine ((within_handleWaveResult hidle finished).mono quiet_of_closingAsks).ensures.bind ?_
  rintro ha step ⟨hh, hs⟩
  refine ensures_pure ⟨finished.err, ?_, hs.closeWindow _⟩
  rw [append_nil]
  exact hran.frame silent_nil (silent_of_quiet hh)

theorem ensures_launch (slot : Nat) (later : List Wave) (hidle : Idle state)
    (waveState : WaveAdaptiveState) :
    Ensures Steady (executor.launch run slot wave later state waveState)
      fun trace step => Advanced run.groups wave.groups trace step := by
  unfold Executor.launch
  dsimp only
  refine (within_approvalRevokedAt executor _ _).ensures.bind
    fun approving approvalRevoked ha => ?_
  refine (within_reportProgress executor _).ensures.bind fun reporting _ hr => ?_
  refine within_now.ensures.bind fun starting waveStart hs => ?_
  rw [if_neg (by simp [hpolicy])]
  refine (ensures_awaitWave executor hpolicy hnames later ?_ _ _ _ _).imp ?_
  · exact ⟨hidle.pending, hidle.phase⟩
  rintro running step ⟨err, hran, hsettled⟩
  have hopen := ((silent_of_quiet ha.1).append (silent_of_quiet hr.1)).append
    (silent_of_quiet hs.1)
  refine ⟨err, ?_, hsettled⟩
  simpa using hran.frame hopen silent_nil

theorem ensures_dispatchWave (slot : Nat) (later : List Wave) (hidle : Idle state) :
    Ensures Steady (executor.dispatchWave run slot wave later state)
      fun trace step => Advanced run.groups wave.groups trace step := by
  unfold Executor.dispatchWave
  refine ((within_drainBefore wave later hidle).mono quiet_of_closingAsks).ensures.bind ?_
  rintro draining step ⟨hdraining, drained, rfl, hd⟩
  refine (ensures_evaluateWave executor .execution drained.adaptiveInput wave
    (remainingPlanDuration (wave :: later))).bind ?_
  rintro evaluating result ⟨heval, waveState, rfl⟩
  refine (ensures_launch executor hpolicy hnames slot later hd waveState).imp ?_
  rintro launching step ⟨err, hran, hs⟩
  have hopen := (silent_of_quiet hdraining).append heval
  refine ⟨err, ?_, hs⟩
  simpa using hran.frame hopen silent_nil

end

structure RanWaves (groups : List Group) (waves : List Wave) (trace : Trace)
    (ending : Ending String) : Prop where
  declared : ∀ entry ∈ groupRecords trace, entry.action = (groupNamed groups entry.groupName).action
  called : (calledGroups trace).Sublist (executedGroups trace)
  lookups : failedLookups trace = ending.skips
  staged : Staged (·.groupName) Stops (waves.map (·.groups)) (groupRecords trace) ending

def endingPhase : Ending String → Phase
  | .finished => .completed
  | _ => .aborted

section

variable {groups : List Group} {wave : Wave} {later : List Wave} {before after : Trace}

theorem Silent.ranWaves (h : Silent before) : RanWaves groups [] before .finished := by
  refine ⟨by simp [h.records], by simp [calledGroups, h.actions], h.lookups, ?_⟩
  rw [h.records]
  exact .finish

theorem RanWaves.silent_append {waves : List Wave}
    (h : RanWaves groups waves after ending) (hbefore : Silent before) :
    RanWaves groups waves (before ++ after) ending := by
  obtain ⟨hr, hacts, hl⟩ := hbefore.frame silent_nil after
  rw [append_nil] at hr hacts hl
  refine ⟨?_, ?_, hl.trans h.lookups, ?_⟩
  · rw [hr]
    exact h.declared
  · rw [calledGroups, executedGroups, hacts, hr]
    exact h.called
  · rw [hr]
    exact h.staged

theorem WaveRan.ended_ranWaves {err : Option String}
    (h : WaveRan groups wave.groups before err) (herr : err.isSome) :
    ∃ ending, RanWaves groups (wave :: later) before ending ∧ endingPhase ending = .aborted := by
  rcases h.ended with ⟨hl, hs⟩ | ⟨name, hname, hl, hr, _⟩
  · rw [herr] at hs
    exact ⟨.stopped, ⟨h.declared, h.called, hl, .stop hs⟩, rfl⟩
  · refine ⟨.skipped name, ⟨h.declared, h.called, hl, ?_⟩, rfl⟩
    rw [hr]
    exact .skip hname

theorem WaveRan.ranWaves_cons
    (h : WaveRan groups wave.groups before none) (hrest : RanWaves groups later after ending) :
    RanWaves groups (wave :: later) (before ++ after) ending := by
  rcases h.ended with ⟨hl, hsequence⟩ | ⟨name, _, _, _, herr⟩
  · refine ⟨?_, ?_, ?_, ?_⟩
    · intro entry hmem
      rw [groupRecords_append] at hmem
      rcases mem_append.mp hmem with hmem | hmem
      · exact h.declared entry hmem
      · exact hrest.declared entry hmem
    · rw [calledGroups, executedGroups, actions_append, groupRecords_append, map_append, map_append]
      exact h.called.append hrest.called
    · rw [failedLookups_append, hl, nil_append, hrest.lookups]
    · rw [groupRecords_append, map_cons]
      exact .next hsequence hrest.staged
  · cases herr

end

theorem ensures_finish (run : ExecutionRun) (hidle : Idle state) :
    Ensures Steady (run.finish state) fun trace out =>
      Silent trace ∧ out.1.phase = some .completed := by
  unfold ExecutionRun.finish ExecutionRun.finishExecution
  refine (hidle.within_waitForPending.mono quiet_of_closingAsks).ensures.bind ?_
  rintro draining drained ⟨hdrained, rfl⟩
  refine ensures_contextErr_execution.bind ?_
  rintro checking err ⟨hchecking, rfl⟩
  have hc : Within Quiet (do
      let completionErr ← run.recordCompletion state.result
      pure ({ state.result with
        recordError := joinErrors (joinErrors state.recordErr none) completionErr },
          (none : Option String)))
      fun out => out.1.phase = some .completed :=
    ((asks_recordCompletion run state.result).mono quiet_of_closingAsks).bind
      fun completionErr _ => within_pure hidle.phase
  refine hc.ensures.imp ?_
  rintro completing out ⟨hcompleting, hp⟩
  exact ⟨(silent_of_quiet hdrained).append (hchecking.append (silent_of_quiet hcompleting)), hp⟩

theorem ensures_dispatchWaves (executor : Executor) {run : ExecutionRun}
    (hpolicy : run.tierPolicy = .wait) (slot : Nat) (waves : List Wave) (hidle : Idle state)
    (hnames : ∀ wave ∈ waves, ∀ name ∈ wave.groups, (groupNamed run.groups name).name = name) :
    Ensures Steady (executor.dispatchWaves run slot waves state) fun trace out =>
      ∃ ending, RanWaves run.groups waves trace ending ∧ out.1.phase =
        some (endingPhase ending) := by
  induction waves generalizing slot state with
  | nil =>
    refine (ensures_finish run hidle).imp ?_
    rintro trace out ⟨hs, hphase⟩
    exact ⟨.finished, hs.ranWaves, hphase⟩
  | cons wave later ih =>
    unfold Executor.dispatchWaves
    refine (ensures_dispatchWave executor hpolicy (hnames wave mem_cons_self) slot later
      hidle).bind ?_
    rintro running step ⟨err, hran, hsettled⟩
    cases step with
    | ended out =>
      obtain ⟨ending, hw, he⟩ := hran.ended_ranWaves hsettled.1
      refine ensures_pure ⟨ending, ?_, ?_⟩
      · rw [append_nil]
        exact hw
      · rw [he]
        exact hsettled.2
    | next next =>
      obtain ⟨rfl, hnext⟩ := hsettled
      refine (ih (slot + 1) hnext fun other hmem => hnames other (mem_cons_of_mem _ hmem)).imp ?_
      rintro trace out ⟨ending, hrest, hphase⟩
      exact ⟨ending, hran.ranWaves_cons hrest, hphase⟩

theorem ensures_execute (executor : Executor) {input : Input} {groups : List Group}
    (hvalue : validateExecuteInput input = .ok groups)
    (hpolicy : effectiveTierOverrunPolicy input.tierOverrunPolicy = .wait) :
    Ensures Steady (executor.execute input) fun trace out =>
      ∃ ending, RanWaves input.groups input.waves trace ending ∧
        out.1.phase = some (endingPhase ending) := by
  obtain ⟨rfl, hdeclared⟩ := declared_of_validate hvalue
  unfold Executor.execute
  rw [hvalue]
  refine ((asks_executionDefaults input).mono fun request h =>
    quiet_of_bookkeepingAsks request (bookkeepingAsks_of_clockAsks request h)).ensures.bind ?_
  rintro preparing run ⟨hp, hgroups, _, hrunPolicy, _⟩
  refine (within_record (by exact trivial)).ensures.bind fun starting startErr hs => ?_
  refine (ensures_dispatchWaves executor (hrunPolicy.trans hpolicy) 0 input.waves
    ⟨rfl, rfl⟩ ?_).imp ?_
  · intro wave hwave name hname
    rw [hgroups]
    exact (groupNamed_of_mem (hdeclared wave hwave name hname)).2
  · rintro running out ⟨ending, hw, hphase⟩
    have hopen := (silent_of_quiet hp).append (silent_of_quiet hs.1)
    refine ⟨ending, ?_, hphase⟩
    rw [hgroups] at hw
    rw [← append_assoc]
    exact hw.silent_append hopen

/-- The contract of an execution under the `Wait` policy. -/
structure SequentialRun (executor : Executor) (input : Input) (trace : Trace) (result : Result) :
    Prop where
  /-- Groups run in the order of the waves, each entry once, with no gap. -/
  inOrder : executedGroups trace <+: input.waves.flatMap (·.groups)
  declared : ∀ entry ∈ groupRecords trace, ∃ group ∈ input.groups,
    group.name = entry.groupName ∧ group.action = entry.action
  called : (calledGroups trace).Sublist (executedGroups trace)
  /-- A group with effect calls the runner once unless it fails before, and is recorded
  as failed when the runner or its limit fails it and for no other reason. -/
  attempted : AttemptsRecorded executor trace
  uninterrupted : ∀ before, before <+: trace → (since before).ended = false
  /-- A stopping failure aborts, and nothing runs after it. -/
  stopped : ∀ before entry after, groupRecords trace = before ++ entry :: after → Stops entry →
    result.phase = some .aborted ∧ after = []
  /-- A failed lookup aborts before any group of its wave. -/
  unresolved : ∀ name ∈ failedLookups trace, result.phase = some .aborted ∧
    ∃ earlier wave later, input.waves = earlier ++ wave :: later ∧ name ∈ wave.groups ∧
      executedGroups trace = earlier.flatMap (·.groups)
  /-- Nothing else stops an execution, a failed hook in particular. -/
  unstopped : (∀ entry ∈ groupRecords trace, ¬ Stops entry) → failedLookups trace = [] →
    executedGroups trace = input.waves.flatMap (·.groups)
  completed : result.phase = some .completed ↔
    executedGroups trace = input.waves.flatMap (·.groups) ∧
      ∀ entry ∈ groupRecords trace, ¬ Stops entry

theorem Steady.ended_after {seen : Attempting} {exchange : Exchange Reply} (h : Steady exchange)
    (hopen : seen.ended = false) : (seen.after exchange).ended = false := by
  obtain ⟨request, reply⟩ := exchange
  cases request with
  | contextErr context =>
    cases context with
    | group parent name timeout => exact hopen
    | lookup parent name timeout => exact hopen
    | _ => exact Bool.or_eq_false_iff.mpr ⟨hopen, by rw [h rfl]; rfl⟩
  | record context written => cases written <;> first | exact hopen | rfl
  | _ => exact hopen

theorem ended_since {trace : Trace} (h : ∀ exchange ∈ trace, Steady exchange) :
    (since trace).ended = false := by
  refine List.foldlRecOn (motive := fun seen => seen.ended = false) trace Attempting.after ?_
    fun seen hopen exchange hmem => (h exchange hmem).ended_after hopen
  rfl

theorem flatten_groups (waves : List Wave) :
    (waves.map (·.groups)).flatten = waves.flatMap (·.groups) :=
  (flatMap_def ..).symm

theorem endingPhase_eq_completed_iff : endingPhase ending = .completed ↔ ending = .finished := by
  cases ending <;> simp [endingPhase]

theorem endingPhase_of_ne (h : ending ≠ .finished) : endingPhase ending = .aborted := by
  cases ending with
  | finished => exact absurd rfl h
  | stopped => rfl
  | skipped name => rfl

theorem RanWaves.sequentialRun {executor : Executor} {input : Input} {trace : Trace}
    {result : Result}
    (h : RanWaves input.groups input.waves trace ending)
    (hattempted : AttemptsRecorded executor trace)
    (hsteady : ∀ exchange ∈ trace, Steady exchange)
    (hdeclared : ∀ wave ∈ input.waves, ∀ name ∈ wave.groups, input.groups.any (·.name = name))
    (hphase : result.phase = some (endingPhase ending)) : SequentialRun executor input trace
    result := by
  have hinOrder := h.staged.inOrder
  have hfinished := h.staged.finished_iff
  rw [flatten_groups] at hinOrder hfinished
  refine ⟨hinOrder, ?_, h.called, hattempted, ?_, ?_, ?_, ?_, ?_⟩
  · intro entry hmem
    have hname := hinOrder.subset (mem_map_of_mem hmem)
    obtain ⟨wave, hwave, hname⟩ := mem_flatMap.mp hname
    obtain ⟨hg, hsame⟩ := groupNamed_of_mem (hdeclared wave hwave _ hname)
    exact ⟨_, hg, hsame, (h.declared entry hmem).symm⟩
  · exact fun before hbefore => ended_since fun exchange hmem =>
      hsteady exchange (hbefore.subset hmem)
  · intro before entry after hsplit hstops
    have hu : ending ≠ .finished := fun he =>
      (hfinished.mp he).2 entry (by simp [hsplit]) hstops
    rw [hphase, endingPhase_of_ne hu]
    exact ⟨rfl, h.staged.last_of_stops hsplit hstops⟩
  · intro name hmem
    rw [h.lookups] at hmem
    cases ending with
    | skipped job =>
      obtain rfl : name = job := mem_singleton.mp hmem
      obtain ⟨earlier, stage, later, hw, hjob, hexecutes⟩ := h.staged.of_skipped
      obtain ⟨before, rest, hsplit, rfl, hrest⟩ := map_eq_append_iff.mp hw
      obtain ⟨wave, after, rfl, rfl, _⟩ := map_eq_cons_iff.mp hrest
      rw [flatten_groups] at hexecutes
      exact ⟨hphase, before, wave, after, hsplit, hjob, hexecutes⟩
    | _ => simp [Ending.skips] at hmem
  · intro hstops hl
    cases ending with
    | finished => exact (hfinished.mp rfl).1
    | stopped =>
      obtain ⟨entry, hmem, hentry⟩ := h.staged.exists_stops
      exact absurd hentry (hstops entry hmem)
    | skipped job => simp [h.lookups, Ending.skips] at hl
  · rw [hphase, Option.some_inj, endingPhase_eq_completed_iff]
    exact hfinished

/-- In every environment that neither cancels the execution nor fails a power
read, whatever its runner, lookups and timers do, an accepted input runs
sequentially under the `Wait` policy. -/
theorem waves_run_in_order (executor : Executor) (input : Input)
    (hvalid : (validateExecuteInput input).isOk)
    (hpolicy : effectiveTierOverrunPolicy input.tierOverrunPolicy = .wait)
    (environment : Trace → (request : Request) → Reply request)
    (hsteady : ∀ history request, Steady ⟨request, environment history request⟩) :
    SequentialRun executor input (perform environment [] (executor.execute input)).1
      (perform environment [] (executor.execute input)).2.1 := by
  cases ha : validateExecuteInput input with
  | error error =>
    rw [ha] at hvalid
    cases hvalid
  | ok groups =>
    obtain ⟨ending, hw, hp⟩ := (ensures_execute executor ha hpolicy).perform hsteady []
    exact hw.sequentialRun (attemptsRecorded_of_runs (runs_perform ..))
      (forall_perform hsteady [] _) (declared_of_validate ha).2 hp

def failingReply (failing : List String) : (request : Request) → Reply request
  | .now => 1
  | .newID => "id"
  | .observe _ => .ok {}
  | .approve _ => .ok true
  | .resolveTargets _ group => .ok group.selectedTargets
  | .refreshNodeRelease _ release => .ok release
  | .sleep _ _ => none
  | .runAction _ action =>
    ({}, if action.group.name ∈ failing then some "action failed" else none)
  | .contextErr _ => none
  | .record _ _ => none
  | .report _ => ()
  | .cancelExecution => ()
  | .launchWave _ _ _ _ => ()
  | .selectWave _ _ => .due
  | .receiveWave _ => {}

theorem steady_failingReply (failing : List String) (request : Request) :
    Steady ⟨request, failingReply failing request⟩ := by
  cases request with
  | contextErr context => exact fun _ => rfl
  | observe context => rfl
  | _ => trivial

def hookedInput : Input :=
  { executionID := "run", observedAt := 1, shutdownFlow := "rack", planConfigHash := "hash"
    mode := "Enforce", approved := true
    waves := [{ index := 0, groups := ["notify", "drain"] }, { index := 1, groups := ["scale"] }]
    groups :=
      [{ name := "notify", action := "RunHook" }, { name := "drain", action := "DrainNodes" },
        { name := "scale", action := "ScaleWorkload" }] }

theorem hookedInput_runs_in_order :
    let run := perform (fun _ => failingReply ["notify", "drain"]) []
      (({ runner := true, resolveTargets := true } : Executor).execute hookedInput)
    SequentialRun { runner := true, resolveTargets := true } hookedInput run.1 run.2.1 ∧
      executedGroups run.1 = ["notify", "drain"] ∧
      run.2.1.phase = some .aborted :=
  ⟨waves_run_in_order _ hookedInput (by decide) rfl _
    (fun _ request => steady_failingReply _ request), by decide, by decide⟩

/-- Every group ran, the last one failed, and the execution is aborted. -/
theorem lastGroup_fails_after_all_ran :
    let run := perform (fun _ => failingReply ["scale"]) []
      (({ runner := true } : Executor).execute hookedInput)
    (validateExecuteInput hookedInput).isOk ∧
      effectiveTierOverrunPolicy hookedInput.tierOverrunPolicy = .wait ∧
      (∀ request, Steady ⟨request, failingReply ["scale"] request⟩) ∧
      executedGroups run.1 = hookedInput.waves.flatMap (·.groups) ∧
      run.2.1.phase = some .aborted :=
  ⟨by decide, rfl, steady_failingReply _, by decide, by decide⟩

end NutOperator.Execution
