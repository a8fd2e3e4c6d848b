import NutOperator.Execution.LoopState

/-! The wave loop keeps to its ghost state: under every policy, waves are
dispatched in order and each launched wave is received once before the end. -/
namespace NutOperator.Execution

open Adaptive Effects List

structure AtHead (slot : Nat) (dispatch : Dispatch) (state : LoopState) : Prop where
  dispatched : state.dispatched = slot
  running : state.running = dispatch.pending
  closed : state.waveOpen = false
  unfailed : state.failed = false
  revoked : state.revoked = dispatch.approvalRevoked
  earlier : ∀ other ∈ dispatch.pending, other < slot

def Stepped (slot : Nat) : Step → LoopState → Prop
  | .ended _, state => state.running = []
  | .next dispatch, state => AtHead slot dispatch state

section

variable {input : Input} {known : LoopState}

theorem triple_drainPending (slots : List Nat) (drained : Drained) (failed : Bool) :
    Triple (loop input)
      (· = { known with running := slots, failed := failed || drained.firstErr.isSome })
      (drainPending slots drained) fun ended state =>
        state = { known with running := [], failed := failed || ended.firstErr.isSome } := by
  induction slots generalizing drained with
  | nil =>
    apply triple_return
    rfl
  | cons slot rest ih =>
    have hreceives : Triple (loop input)
        (· = { known with running := slot :: rest, failed := failed || drained.firstErr.isSome })
        (ask (.receiveWave slot)) fun run state =>
          state = { known with
            running := rest
            failed := failed || drained.firstErr.isSome || run.err.isSome } := by
      apply triple_request
      rintro state run rfl _
      refine ⟨mem_cons_self, ?_⟩
      simp [loop, loopAdvance, LoopState.receive]
    refine hreceives.bind fun run => Triple.of_pre (ih _) ?_
    rintro state rfl
    cases drained.firstErr <;> cases run.err <;> simp

variable {dispatch : Dispatch} {run : ExecutionRun} {slot : Nat} {wave : Wave} {later : List Wave}
  {waveState : WaveAdaptiveState}

theorem triple_waitForPending (hrunning : known.running = dispatch.pending) :
    Triple (loop input) (· = known) dispatch.waitForPending fun drained state =>
      state = { known with running := [], failed := known.failed || drained.firstErr.isSome } := by
  refine (triple_drainPending dispatch.pending { result := dispatch.result } known.failed).of_pre ?_
  rintro state rfl
  simp [← hrunning]

theorem keeps_closing (request : Request) (h : ClosingAsks request) :
    (loop input).Keeps (fun state => state.running = []) request := by
  cases request with
  | now => exact keeps_unwatched input _ _ trivial
  | contextErr context => exact keeps_contextErr input (fun state hs => hs) context
  | record context entry =>
    cases entry with
    | execution entry => exact keeps_unwatched input _ _ trivial
    | _ => exact h.elim
  | _ => exact h.elim

theorem triple_closing {pre : LoopState → Prop} {program : Run (Result × Option String)}
    {post : Result × Option String → Prop} (h : Within ClosingAsks program post)
    (hpre : ∀ state, pre state → state.running = []) :
    Triple (loop input) pre program fun _ state => state.running = [] :=
  ((h.triple keeps_closing).of_pre hpre).imp fun _ _ hend => hend.2

theorem triple_ended {pre : LoopState → Prop} {program : Run (Result × Option String)}
    {post : Step → LoopState → Prop}
    (h : Triple (loop input) pre program fun _ state => state.running = [])
    (hpost : ∀ out state, state.running = [] → post (.ended out) state) :
    Triple (loop input) pre (do let out ← program; pure (.ended out)) post :=
  h.bind fun out => triple_pure (hpost out)

theorem triple_drainBefore (wave : Wave) (later : List Wave) (hhead : AtHead slot dispatch known) :
    Triple (loop input) (· = known) (run.drainBefore wave later dispatch) fun step state =>
      Stepped slot step state ∧ ∀ next, step = .next next →
        awaitsPending run.groups wave later = true → state.running = [] := by
  unfold ExecutionRun.drainBefore
  split
  · refine (triple_waitForPending hhead.running).bind fun drained => ?_
    dsimp only
    cases hf : drained.firstErr with
    | some err =>
      refine triple_ended (triple_closing (asks_recordAborted run _ _ _ _) ?_) ?_
      · rintro state rfl
        rfl
      · exact fun out state hr => ⟨hr, fun _ _ _ => hr⟩
    | none =>
      apply triple_return
      refine ⟨⟨hhead.dispatched, rfl, hhead.closed, ?_, hhead.revoked, by simp⟩, fun _ _ _ => rfl⟩
      simp [hhead.unfailed]
  · rename_i hnone
    exact triple_return ⟨hhead, fun next _ h => absurd h hnone⟩

theorem Stepped.closeWindow {step : Step} {state : LoopState} (h : Stepped slot step state)
    (lowerTierDue : Bool) : Stepped slot (step.closeWindow lowerTierDue) state := by
  cases step with
  | ended out => exact h
  | next dispatch =>
    cases lowerTierDue with
    | false => exact h
    | true => exact ⟨h.dispatched, h.running, h.closed, h.unfailed, h.revoked, h.earlier⟩

theorem triple_handleWaveResult {finished : WaveExecutionResult}
    (hhead : AtHead slot dispatch { known with failed := false })
    (hfail : known.failed = finished.err.isSome) :
    Triple (loop input) (· = known) (run.handleWaveResult dispatch finished) (Stepped slot) := by
  unfold ExecutionRun.handleWaveResult
  dsimp only
  cases herr : finished.err with
  | none =>
    apply triple_return
    rw [herr] at hfail
    exact ⟨hhead.dispatched, hhead.running, hhead.closed, hfail, hhead.revoked, hhead.earlier⟩
  | some err =>
    refine Triple.bind (triple_waitForPending hhead.running) fun drained => ?_
    refine triple_ended (triple_closing (asks_recordAborted run _ _ _ _) ?_) fun _ _ h => h
    rintro state rfl
    rfl

theorem triple_observationFailed {following : Nat} {err : String}
    (hhead : AtHead slot dispatch known) :
    Triple (loop input) (· = known) (run.observationFailed dispatch err) (Stepped following) := by
  unfold ExecutionRun.observationFailed
  refine (triple_contextErr .execution).bind fun cancelled => ?_
  apply triple_of_forall
  rintro state ⟨stopped, rfl, _⟩
  have hc : Triple (loop input) (· = { known with stopped := stopped })
      (ask .cancelExecution) fun _ state => state = { known with stopped := stopped } :=
    triple_request fun state reply hs _ => ⟨trivial, hs⟩
  refine hc.bind fun _ => ?_
  have hr : ({ known with stopped := stopped } : LoopState).running = dispatch.pending :=
    hhead.running
  refine (triple_waitForPending hr).bind fun drained => ?_
  refine triple_ended (triple_closing (asks_recordObservationFailure run _ _ _ _) ?_) fun _ _ h => h
  rintro state rfl
  rfl

section

variable (h : AtHead slot dispatch known)

include h

theorem AtHead.launched (window : TierOverrunWindow) :
    AtHead (slot + 1) { dispatch with pending := dispatch.pending ++ [slot], tierWindow := window }
      (known.launch slot) := by
  refine ⟨congrArg (· + 1) h.dispatched, ?_, h.closed, h.unfailed, h.revoked, ?_⟩
  · rw [LoopState.launch, h.running]
  · refine forall_mem_append.mpr ⟨?_, forall_mem_singleton.mpr (Nat.lt_succ_self slot)⟩
    exact fun other hp => Nat.lt_succ_of_lt (h.earlier other hp)

theorem AtHead.receive_launched (run : WaveExecutionResult) : (known.launch slot).receive slot run =
      { known with dispatched := known.dispatched + 1, failed := run.err.isSome } := by
  have hnot : slot ∉ known.running := by
    rw [h.running]
    intro hmem
    exact Nat.lt_irrefl slot (h.earlier slot hmem)
  simp [LoopState.receive, LoopState.launch, erase_append_right _ hnot, h.unfailed]

theorem AtHead.succ (ended : LoopState) (hdispatched : ended.dispatched = known.dispatched + 1)
    (hrunning : ended.running = known.running) (hopen : ended.waveOpen = known.waveOpen)
    (hrevoked : ended.revoked = known.revoked) :
    AtHead (slot + 1) dispatch { ended with failed := false } :=
  ⟨hdispatched.trans (congrArg (· + 1) h.dispatched), hrunning.trans h.running,
    hopen.trans h.closed, rfl, hrevoked.trans h.revoked,
    fun other hmem => Nat.lt_succ_of_lt (h.earlier other hmem)⟩

end

variable {config : WaveRunConfig}

section

variable {window : TierOverrunWindow} {waveStart : Time} (hprepared : Prepared input run)
  (hpolicy : run.tierPolicy = .overlap) (hhead : AtHead slot dispatch known)
  (hconfig : config = run.waveRun wave later config.dryRun window waveStart)
  (hdue : config.lowerTierDue = true) (hdispatch : Dispatching input known wave later config.dryRun)
include hprepared hpolicy hhead hconfig hdue hdispatch

theorem triple_launchWave :
    Triple (loop input) (· = known) (ask (.launchWave slot config wave waveState))
      fun _ state => state = known.launch slot := by
  apply triple_request
  rintro state reply rfl _
  exact ⟨⟨hhead.dispatched.symm, run, later, window, waveStart, hprepared, hpolicy, hconfig,
    hdue, hdispatch⟩, rfl⟩

theorem triple_overlapWave :
    Triple (loop input) (· = known) (run.overlapWave dispatch config slot wave waveState)
      (Stepped (slot + 1)) := by
  unfold ExecutionRun.overlapWave
  refine (triple_launchWave hprepared hpolicy hhead hconfig hdue hdispatch).bind fun _ => ?_
  refine asks_now.triple_bind (keeps_bookkeeping _) fun time _ => ?_
  have hleft := hhead.launched {}
  dsimp only
  split
  · exact triple_return hleft
  · have hs : Triple (loop input) (· = known.launch slot)
        (ask (.selectWave slot (config.window.startedAt + config.window.effectiveDuration - time)))
        fun signal state => state = (signal.outcome.elim (known.launch slot)
          ((known.launch slot).receive slot)) := by
      apply triple_request
      rintro state signal rfl _
      refine ⟨mem_append_right _ (mem_singleton_self slot), ?_⟩
      cases signal <;> rfl
    refine hs.bind fun signal => ?_
    cases signal with
    | cancelled =>
      refine Triple.bind (triple_waitForPending hleft.running) fun drained => ?_
      have hr : ∀ state : LoopState, state = { known.launch slot with
          running := []
          failed := (known.launch slot).failed || drained.firstErr.isSome } →
          state.running = [] := by
        rintro state rfl
        rfl
      refine ((asks_contextErr_execution.triple keeps_closing).of_pre hr).bind
        fun err => triple_of_fact fun _ => ?_
      exact triple_ended (triple_closing (asks_recordAborted run _ _ _ _) fun _ h => h)
        fun _ _ h => h
    | finished finished =>
      have hstate := hhead.receive_launched finished
      dsimp only [WaveSignal.outcome, Option.elim]
      rw [hstate]
      refine Triple.bind (triple_handleWaveResult (hhead.succ { known with
        dispatched := known.dispatched + 1
        failed := finished.err.isSome } rfl rfl rfl rfl) rfl) fun step => ?_
      exact triple_pure fun state hstep => hstep.closeWindow _
    | due =>
      exact triple_return hleft

end

section

variable (executor : Executor)

theorem triple_awaitWave (hhead : AtHead slot dispatch known)
    (hdispatch : Dispatching input known wave later config.dryRun) :
    Triple (loop input) (· = known) (executor.awaitWave run dispatch config wave waveState)
      (Stepped (slot + 1)) := by
  unfold Executor.awaitWave
  refine (triple_runWave executor waveState hdispatch).bind fun finished => ?_
  apply triple_of_forall
  rintro state ⟨stopped, rfl⟩
  refine (triple_handleWaveResult (hhead.succ (known.ranWave config.dryRun stopped
    finished.err.isSome) rfl rfl rfl rfl) ?_).bind fun step => ?_
  · simp [LoopState.ranWave, hhead.unfailed]
  · exact triple_pure fun state hstep => hstep.closeWindow _

theorem triple_approvalRevokedAt {dryRun : Bool} (hdry : dryRun = effectiveDryRun input)
    (hclosed : known.waveOpen = false) (hrevoked : known.revoked = dispatch.approvalRevoked) :
    Triple (loop input) (· = known) (executor.approvalRevokedAt dryRun dispatch.approvalRevoked)
      fun revoked state => state = { known with revoked := revoked } := by
  unfold Executor.approvalRevokedAt
  split
  · rename_i hasks
    have heffect : effectiveDryRun input = false ∧ dispatch.approvalRevoked = false := by
      simpa [hdry] using (Bool.and_eq_true_iff.mp hasks).1
    have hask : Triple (loop input) (· = known) (ask (.approve .execution)) fun reply state =>
        state = { known with revoked := !granted reply } := by
      apply triple_request
      rintro state reply rfl _
      refine ⟨⟨hclosed, heffect.1, hrevoked.trans heffect.2⟩, ?_⟩
      simp [loop, loopAdvance, hrevoked, heffect.2]
    refine hask.bind fun reply => ?_
    split
    · apply triple_return
      simp [granted, heffect.2]
    · rename_i hr
      apply triple_return
      cases reply with
      | error error => rfl
      | ok approved =>
        cases approved with
        | true => exact absurd rfl hr
        | false => rfl
  · apply triple_return
    rw [← hrevoked]

theorem triple_launch (hprepared : Prepared input run) (hhead : AtHead slot dispatch known)
    (hwaves : input.waves.drop slot = wave :: later)
    (hdrained : awaitsPending run.groups wave later = true → known.running = []) :
    Triple (loop input) (· = known) (executor.launch run slot wave later dispatch waveState)
      (Stepped (slot + 1)) := by
  unfold Executor.launch
  refine (triple_approvalRevokedAt executor hprepared.dryRun hhead.closed hhead.revoked).bind
    fun revoked => ?_
  dsimp only
  refine (asks_reportProgress executor _).triple_bind (keeps_reports _) fun _ _ => ?_
  refine asks_now.triple_bind (keeps_bookkeeping _) fun waveStart _ => ?_
  have hready : ∀ window, AtHead slot
      { dispatch.observed waveState revoked with tierWindow := window }
      { known with revoked := revoked } := fun window =>
    ⟨hhead.dispatched, hhead.running, hhead.closed, hhead.unfailed, rfl, hhead.earlier⟩
  have hdispatch : Dispatching input { known with revoked := revoked } wave later
      (run.dryRun || revoked) := by
    refine ⟨?_, hhead.closed, hhead.unfailed, ?_, ?_⟩
    · rw [hhead.dispatched, hwaves]
    · rw [hprepared.dryRun]
    · rw [← hprepared.groups]
      exact hdrained
  split
  · rename_i hover
    exact triple_overlapWave hprepared hover.1 (hready _) rfl hover.2.1 hdispatch
  · exact triple_awaitWave executor (hready _) hdispatch

theorem triple_evaluateWave (adaptive : AdaptiveInput) (wave : Wave)
    (remainingPlan : Data.Duration) :
    Triple (loop input) (· = known) (executor.evaluateWave .execution adaptive wave remainingPlan)
      fun _ state => state = known := by
  unfold Executor.evaluateWave
  split
  · have ho : Triple (loop input) (· = known) (ask (.observe .execution))
        fun _ state => state = known := triple_request fun state reply hs _ => ⟨trivial, hs⟩
    refine ho.bind fun reply => ?_
    cases reply <;> exact triple_skip
  · exact triple_skip

theorem triple_dispatchWave (hprepared : Prepared input run) (hhead : AtHead slot dispatch known)
    (hwaves : input.waves.drop slot = wave :: later) :
    Triple (loop input) (· = known) (executor.dispatchWave run slot wave later dispatch)
      (Stepped (slot + 1)) := by
  unfold Executor.dispatchWave
  refine (triple_drainBefore wave later hhead).bind fun step => ?_
  apply triple_of_forall
  rintro state ⟨hstep, hd⟩
  cases step with
  | ended out =>
    exact triple_return hstep
  | next drained =>
    dsimp only
    refine (triple_evaluateWave executor _ _ _).bind fun evaluated => ?_
    cases evaluated with
    | error error => exact triple_observationFailed hstep
    | ok waveState => exact triple_launch executor hprepared hstep hwaves (hd _ rfl)

end

theorem triple_finish (hhead : AtHead slot dispatch known) :
    Triple (loop input) (· = known) (run.finish dispatch) fun _ state => state.running = [] := by
  unfold ExecutionRun.finish
  refine (triple_waitForPending hhead.running).bind fun drained => ?_
  dsimp only
  cases drained.firstErr with
  | some err =>
    refine triple_closing (asks_recordAborted run _ _ _ _) ?_
    rintro state rfl
    rfl
  | none =>
    refine triple_closing (asks_finishExecution run _ _) ?_
    rintro state rfl
    rfl

theorem triple_dispatchWaves (executor : Executor) {waves : List Wave}
    (hprepared : Prepared input run) (hhead : AtHead slot dispatch known)
    (hwaves : input.waves.drop slot = waves) :
    Triple (loop input) (· = known) (executor.dispatchWaves run slot waves dispatch)
      fun _ state => state.running = [] := by
  induction waves generalizing slot dispatch known with
  | nil => exact triple_finish hhead
  | cons wave later ih =>
    unfold Executor.dispatchWaves
    refine (triple_dispatchWave executor hprepared hhead hwaves).bind fun step => ?_
    cases step with
    | ended out => exact triple_skip
    | next next =>
      apply triple_of_forall
      intro state hnext
      refine ih hnext ?_
      rw [← drop_drop, hwaves, drop_one, tail_cons]

end

/-- Every run of the executor keeps to the ghost state, and returns with nothing
left running. -/
theorem triple_execute (executor : Executor) (input : Input) :
    Triple (loop input) (· = {}) (executor.execute input) fun _ state => state.running = [] := by
  unfold Executor.execute
  cases hv : validateExecuteInput input with
  | error error =>
    apply triple_return
    rfl
  | ok groups =>
    obtain ⟨rfl, _⟩ := declared_of_validate hv
    dsimp only
    refine (asks_executionDefaults input).triple_bind (fun request h =>
      keeps_bookkeeping _ request (bookkeepingAsks_of_clockAsks request h)) fun run hprepared => ?_
    have hs : Triple (loop input) (· = {}) (record .execution (.execution
        (run.executionRecord run.startedAt .running run.reason none
          [("waveCount", .number input.waves.length)]))) fun _ state => state = {} :=
      triple_request fun state reply hstate _ => ⟨trivial, hstate⟩
    refine hs.bind fun startErr => ?_
    exact triple_dispatchWaves executor hprepared ⟨rfl, rfl, rfl, rfl, rfl, by simp⟩ rfl

end NutOperator.Execution
