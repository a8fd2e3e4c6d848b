import Mathlib.Algebra.Group.Prod
import NutOperator.Execution.Overlap

/-! What the loop makes of its waves, for any ghost state: whatever holds of the
counts so far and is kept by each wave and each receipt holds of the counts the
execution returns, on every path out of the loop. -/
namespace NutOperator.Execution

open Effects

/-- Counts of groups, action attempts and node releases. -/
abbrev Tally := Nat × Nat × Nat

def WaveExecutionResult.tally (run : WaveExecutionResult) : Tally :=
  (run.groups, run.actionAttempts, run.nodeReleases)

def Result.tally (result : Result) : Tally :=
  (result.groups, result.actionAttempts, result.nodeReleases)

def WaveSignal.tally (signal : WaveSignal) : Tally :=
  signal.outcome.elim 0 WaveExecutionResult.tally

theorem tally_absorbWave (result : Result) (run : WaveExecutionResult) :
    (result.absorbWave run).tally = result.tally + run.tally := rfl

theorem Closes.tally {result : Result} {out : Result × Option String}
    (h : Closes result out) : out.1.tally = result.tally := by
  obtain ⟨phase, recordError, ho⟩ := h
  rw [ho]
  rfl

def LoopAsks : Request → Prop
  | .now => True
  | .newID => True
  | .observe _ => True
  | .approve _ => True
  | .contextErr context => context = .execution
  | .report (.adaptive _) => True
  | .cancelExecution => True
  | .launchWave _ _ _ _ => True
  | .record _ (.execution _) => True
  | _ => False

theorem loopAsks_of_clockAsks (request : Request) (h : ClockAsks request) : LoopAsks request := by
  cases request <;> trivial

theorem loopAsks_of_closingAsks (request : Request) (h : ClosingAsks request) :
    LoopAsks request := by
  cases request with
  | now => trivial
  | contextErr context => exact h
  | record context entry =>
    cases entry <;> trivial
  | _ => exact h.elim

theorem loopAsks_of_reports {adaptive : AdaptiveResult} (request : Request)
    (h : Reports (.adaptive adaptive) request) : LoopAsks request := by
  cases request with
  | report progress =>
    rw [show progress = _ from h]
    trivial
  | _ => exact h.elim

def GroupExecutionResult.tally (result : GroupExecutionResult) : Tally :=
  (1, result.actionAttempts, result.nodeReleases)

theorem tally_absorbGroup (run : WaveExecutionResult) (result : GroupExecutionResult) :
    (run.absorbGroup result).tally = run.tally + result.tally := rfl

/-- What a wave asks for itself, beside its groups and their reports. -/
def OwnAsks (context : Context) : Request → Prop
  | .now => True
  | .newID => True
  | .contextErr other => other = .execution ∨ other = context ∨ other.isLookup = true
  | .resolveTargets _ _ => True
  | .record _ (.wave _) => True
  | _ => False

theorem ownAsks_of_clockAsks {context : Context} (request : Request) (h : ClockAsks request) :
    OwnAsks context request := by
  cases request <;> trivial

theorem ownAsks_of_lookupAsks {context : Context} {names : List String} (request : Request)
    (h : LookupAsks context names request) : OwnAsks context request := by
  cases request with
  | contextErr other => exact .inr h
  | resolveTargets other group => trivial
  | _ => exact h.elim

/-- A relation between counts and ghost states that the groups of a wave carry on. -/
structure WaveFolds {σ : Type} (executor : Executor) (monitor : Monitor Reply σ)
    (related : Tally → σ → Prop) (reporting : Tally → GroupExecutionResult → σ → Prop)
    (config : WaveRunConfig) (wave : Wave) (waveState : WaveAdaptiveState) : Prop where
  own : ∀ counts request, OwnAsks config.actionContext request →
    monitor.Keeps (related counts) request
  grouped : ∀ counts tierOverrunning resolved name, ResolvedFrom config.groups resolved →
    Triple monitor (related counts)
      (executor.executeGroup (config.groupRun wave waveState tierOverrunning)
        (dispatchedGroup config wave (resolved.get name)))
      fun result => reporting counts result.1
  reported : ∀ counts result, Triple monitor (reporting counts result)
    (executor.reportProgress (.groups 1 result.actionAttempts result.nodeReleases))
    fun _ => related (counts + result.tally)

section

variable {σ : Type} {executor : Executor} {monitor : Monitor Reply σ} {related : Tally → σ → Prop}
  {reporting : Tally → GroupExecutionResult → σ → Prop} {config : WaveRunConfig} {wave : Wave}
  {waveState : WaveAdaptiveState}
  (h : WaveFolds executor monitor related reporting config wave waveState)
include h

theorem WaveFolds.runGroups (counts : Tally) {resolved : ResolvedGroups}
    (hresolved : ResolvedFrom config.groups resolved) (names : List String)
    (run : WaveExecutionResult) :
    Triple monitor (related (counts + run.tally))
      (executor.runGroups config wave waveState resolved names run)
      fun result => related (counts + result.1.tally) := by
  induction names generalizing run with
  | nil => exact triple_pure fun _ h => h
  | cons name rest ih =>
    unfold Executor.runGroups
    dsimp only
    refine (ticks_now.mono ownAsks_of_clockAsks).triple_bind (h.own _) fun time _ => ?_
    refine (h.grouped _ _ resolved name hresolved).bind ?_
    rintro ⟨result, groupErr⟩
    refine (h.reported _ result).bind fun _ => ?_
    rw [add_assoc, ← tally_absorbGroup]
    refine (within_tierPreempted (.inl rfl) (.inr (.inl rfl)) _ _).triple_bind (h.own _)
      fun preempted _ => ?_
    cases preempted with
    | true => exact triple_pure fun _ h => h
    | false =>
      cases groupErr with
      | some error => exact triple_pure fun _ h => h
      | none => exact ih _

theorem WaveFolds.runWave (counts : Tally) :
    Triple monitor (related counts) (executor.runWave config wave waveState)
      fun run => related (counts + run.tally) := by
  have hwave : ∀ counts entry, Triple monitor (related counts)
      (record .execution (.wave entry)) fun _ => related counts :=
    fun counts entry => triple_request (h.own counts (.record .execution (.wave entry)) trivial)
  unfold Executor.runWave Executor.resolveWaveTargets
  refine (ticks_newID.mono ownAsks_of_clockAsks).triple_bind (h.own _) fun recordID _ => ?_
  refine (hwave _ _).bind fun startErr => ?_
  refine ((asks_resolveNames executor _ _ wave waveState.budget _ (List.Subset.refl _) []).mono
    ownAsks_of_lookupAsks).triple_bind (h.own _) fun resolution hresolution => ?_
  have hresolved : Triple monitor (related counts)
      (executor.runResolved config wave waveState { recordError := startErr } resolution)
      fun result => related (counts + result.1.tally) := by
    cases resolution with
    | error failure => exact triple_pure fun _ h => h
    | ok resolved =>
      exact (h.runGroups counts (hresolution (by simp [ResolvedFrom]) resolved rfl).1 wave.groups
        _).of_pre fun _ h => h
  refine hresolved.bind ?_
  rintro ⟨run, preempted⟩
  refine (ticks_now.mono ownAsks_of_clockAsks).triple_bind (h.own _) fun completedAt _ => ?_
  exact (hwave _ _).bind fun endErr => triple_pure fun _ h => h

end

theorem asks_approvalRevokedAt (executor : Executor) (dryRun approvalRevoked : Bool) :
    Within LoopAsks (executor.approvalRevokedAt dryRun approvalRevoked) fun _ => True := by
  unfold Executor.approvalRevokedAt
  split
  · refine (within_asked trivial).bind fun reply _ => ?_
    split <;> exact within_pure trivial
  · exact within_pure trivial

theorem asks_evaluateWave (executor : Executor) (adaptive : AdaptiveInput) (wave : Wave)
    (remainingPlan : Data.Duration) :
    Within LoopAsks (executor.evaluateWave .execution adaptive wave remainingPlan)
      fun _ => True := by
  unfold Executor.evaluateWave
  split
  · refine (within_asked trivial).bind fun reply _ => ?_
    cases reply <;> exact within_pure trivial
  · exact within_pure trivial

theorem asks_aborting (run : ExecutionRun) (result : Result) (err : Option String)
    (failedGroup : String) (recordErr : Option String) :
    Within ClosingAsks (run.recordAborted result err failedGroup recordErr) (Closes result) :=
  (asks_recordAborted run result err failedGroup recordErr).imp fun _ h => h.1

/-- A relation between counts and ghost states that waves and receipts carry on. -/
structure Folds {σ : Type} (executor : Executor) (input : Input) (monitor : Monitor Reply σ)
    (related : Tally → σ → Prop) : Prop where
  quiet : ∀ counts request, LoopAsks request → monitor.Keeps (related counts) request
  received : ∀ counts slot, Triple monitor (related counts) (ask (.receiveWave slot))
    fun run => related (counts + run.tally)
  selected : ∀ counts slot dueAfter, Triple monitor (related counts)
    (ask (.selectWave slot dueAfter)) fun signal => related (counts + signal.tally)
  ran : ∀ counts run wave later dryRun window waveStart state, Prepared input run →
    Triple monitor (related counts)
      (executor.runWave (run.waveRun wave later dryRun window waveStart) wave state)
      fun finished => related (counts + finished.tally)

def Folded {σ : Type} (related : Tally → σ → Prop) : Step → σ → Prop
  | .ended outcome => related outcome.1.tally
  | .next dispatch => related dispatch.result.tally

theorem folded_closeWindow {σ : Type} {related : Tally → σ → Prop} {step : Step} {state : σ}
    (lowerTierDue : Bool) (h : Folded related step state) :
    Folded related (step.closeWindow lowerTierDue) state := by
  cases step with
  | ended out => exact h
  | next dispatch => cases lowerTierDue <;> exact h

section

variable {σ : Type} {executor : Executor} {input : Input} {monitor : Monitor Reply σ}
  {related : Tally → σ → Prop} (h : Folds executor input monitor related)
include h

variable {counts : Tally} {dispatch : Dispatch}

theorem Folds.drainPending (slots : List Nat) {drained : Drained}
    (hcounts : drained.result.tally = counts) :
    Triple monitor (related counts) (drainPending slots drained)
      fun ended => related ended.result.tally := by
  induction slots generalizing drained counts with
  | nil => exact triple_pure fun state hs => hcounts ▸ hs
  | cons slot rest ih =>
    refine (h.received _ slot).bind fun run => ?_
    exact ih (by rw [tally_absorbWave, hcounts])

theorem Folds.waitForPending (hcounts : dispatch.result.tally = counts) :
    Triple monitor (related counts) dispatch.waitForPending
      fun ended => related ended.result.tally :=
  h.drainPending dispatch.pending hcounts

theorem Folds.request {request : Request} (hasks : LoopAsks request) :
    Triple monitor (related counts) (ask request) fun _ => related counts :=
  triple_request fun state reply hs ha => h.quiet counts request hasks state reply hs ha

theorem Folds.now : Triple monitor (related counts) Execution.now fun _ => related counts :=
  h.request trivial

section

variable {program : Run (Result × Option String)} {result : Result}
  (hwithin : Within ClosingAsks program (Closes result))
include hwithin

theorem Folds.closing : Triple monitor (related result.tally) program fun out =>
    related out.1.tally := by
  refine ((hwithin.mono loopAsks_of_closingAsks).triple (h.quiet _)).imp ?_
  rintro out state ⟨hc, hs⟩
  rw [hc.tally]
  exact hs

theorem Folds.ending :
    Triple monitor (related result.tally) (do let out ← program; pure (.ended out))
      (Folded related) :=
  (h.closing hwithin).bind fun _ => triple_pure fun _ h => h

end

theorem Folds.drainBefore (run : ExecutionRun) (wave : Wave) (later : List Wave)
    (dispatch : Dispatch) :
    Triple monitor (related dispatch.result.tally) (run.drainBefore wave later dispatch)
      (Folded related) := by
  unfold ExecutionRun.drainBefore
  split
  · refine (h.waitForPending rfl).bind fun drained => ?_
    dsimp only
    cases drained.firstErr with
    | some err => exact h.ending (asks_aborting run _ _ _ _)
    | none => exact triple_pure fun _ h => h
  · exact triple_pure fun _ h => h

theorem Folds.handleWaveResult (run : ExecutionRun) (finished : WaveExecutionResult)
    (hcounts : dispatch.result.tally = counts) (lowerTierDue : Bool) :
    Triple monitor (related (counts + finished.tally))
      (do let step ← run.handleWaveResult dispatch finished; pure (step.closeWindow lowerTierDue))
      (Folded related) := by
  have hhanded : Triple monitor (related (counts + finished.tally))
      (run.handleWaveResult dispatch finished) (Folded related) := by
    rw [← hcounts]
    unfold ExecutionRun.handleWaveResult
    dsimp only
    cases finished.err with
    | none => exact triple_pure fun _ h => h
    | some err =>
      refine Triple.bind (h.waitForPending (tally_absorbWave _ _)) fun drained => ?_
      exact h.ending (asks_aborting run _ _ _ _)
  exact hhanded.bind fun _ => triple_pure fun _ => folded_closeWindow lowerTierDue

theorem Folds.observationFailed (run : ExecutionRun) (dispatch : Dispatch) (err : String) :
    Triple monitor (related dispatch.result.tally) (run.observationFailed dispatch err)
      (Folded related) := by
  unfold ExecutionRun.observationFailed
  refine Triple.bind (h.request rfl) fun cancelled => ?_
  refine Triple.bind (h.request trivial) fun _ => ?_
  refine (h.waitForPending rfl).bind fun drained => ?_
  exact h.ending (asks_recordObservationFailure run _ _ _ _)

theorem Folds.overlapWave (run : ExecutionRun) (cfg : WaveRunConfig) (slot : Nat) (wave : Wave)
    (waveState : WaveAdaptiveState) (hcounts : dispatch.result.tally = counts) :
    Triple monitor (related counts)
      (run.overlapWave dispatch cfg slot wave waveState) (Folded related) := by
  have hleft : ∀ state, related counts state → related dispatch.result.tally state :=
    fun state hs => hcounts ▸ hs
  unfold ExecutionRun.overlapWave
  refine Triple.bind (h.request trivial) fun _ => ?_
  refine h.now.bind fun time => ?_
  dsimp only
  split
  · exact triple_pure hleft
  · refine (h.selected counts slot _).bind fun signal => ?_
    cases signal with
    | cancelled =>
      refine Triple.bind (h.waitForPending hcounts) fun drained => ?_
      refine Triple.bind (h.request rfl) fun err => ?_
      exact h.ending (asks_aborting run _ _ _ _)
    | finished finished => exact h.handleWaveResult run finished hcounts _
    | due => exact triple_pure hleft

section

variable {run : ExecutionRun} (hprepared : Prepared input run) (slot : Nat) (wave : Wave)
  (later : List Wave) (dispatch : Dispatch)
include hprepared

theorem Folds.launch (waveState : WaveAdaptiveState) :
    Triple monitor (related dispatch.result.tally)
      (executor.launch run slot wave later dispatch waveState) (Folded related) := by
  unfold Executor.launch
  refine (asks_approvalRevokedAt executor _ _).triple_bind (h.quiet _) fun revoked _ => ?_
  dsimp only
  refine ((asks_reportProgress executor _).mono loopAsks_of_reports).triple_bind (h.quiet _)
    fun _ _ => ?_
  refine h.now.bind fun waveStart => ?_
  split
  · exact h.overlapWave run _ slot wave waveState rfl
  · unfold Executor.awaitWave
    refine (h.ran _ run wave later _ _ _ waveState hprepared).bind fun finished => ?_
    refine h.handleWaveResult run finished ?_ _
    rfl

theorem Folds.dispatchWave :
    Triple monitor (related dispatch.result.tally)
      (executor.dispatchWave run slot wave later dispatch) (Folded related) := by
  unfold Executor.dispatchWave
  refine (h.drainBefore run wave later dispatch).bind fun step => ?_
  cases step with
  | ended out => exact triple_pure fun _ h => h
  | next drained =>
    refine (asks_evaluateWave executor _ _ _).triple_bind (h.quiet _) fun evaluated _ => ?_
    cases evaluated with
    | error error => exact h.observationFailed run drained error
    | ok waveState => exact h.launch hprepared slot wave later drained waveState

end

theorem Folds.finish (run : ExecutionRun) (dispatch : Dispatch) :
    Triple monitor (related dispatch.result.tally) (run.finish dispatch)
      fun out => related out.1.tally := by
  unfold ExecutionRun.finish
  refine (h.waitForPending rfl).bind fun drained => ?_
  dsimp only
  cases drained.firstErr with
  | some err => exact h.closing (asks_aborting run _ _ _ _)
  | none => exact h.closing (asks_finishExecution run _ _)

theorem Folds.dispatchWaves {run : ExecutionRun} (hprepared : Prepared input run) (slot : Nat)
    (waves : List Wave) (hcounts : dispatch.result.tally = counts) :
    Triple monitor (related counts) (executor.dispatchWaves run slot waves dispatch)
      fun out => related out.1.tally := by
  induction waves generalizing slot dispatch counts with
  | nil =>
    rw [← hcounts]
    exact h.finish run dispatch
  | cons wave later ih =>
    unfold Executor.dispatchWaves
    rw [← hcounts]
    refine (h.dispatchWave hprepared slot wave later dispatch).bind fun step => ?_
    cases step with
    | ended out => exact triple_pure fun _ h => h
    | next next => exact ih (slot + 1) rfl

/-- The counts an execution returns are related to its ghost state. -/
theorem Folds.execute : Triple monitor (related 0) (executor.execute input)
      fun out => related out.1.tally := by
  unfold Executor.execute
  cases hv : validateExecuteInput input with
  | error error => exact triple_pure fun _ h => h
  | ok groups =>
    obtain ⟨rfl, _⟩ := declared_of_validate hv
    refine ((asks_executionDefaults input).mono loopAsks_of_clockAsks).triple_bind (h.quiet _)
      fun run hprepared => ?_
    refine Triple.bind (h.request trivial) fun startErr => ?_
    exact h.dispatchWaves hprepared 0 input.waves rfl

end

/-- Every party of an execution keeps to a monitor that waves and receipts carry on. -/
theorem Executes.accepts_monitor {σ : Type} {executor : Executor} {input : Input}
    {history : History}
    {execution : ExecutionMachine} {monitor : Monitor Reply σ} {related : Tally → σ → Prop}
    {initial : σ} (h : Executes executor input history execution)
    (hfolds : Folds executor input monitor related) (hinitial : related 0 initial)
    (hassumed : ∀ state exchange, monitor.assumed state exchange) (actor : Option Nat) :
    monitor.Accepts initial (view actor history) := by
  have hassumes : ∀ trace, monitor.Assumes initial trace := Monitor.along_of_forall hassumed initial
  cases actor with
  | none =>
    obtain ⟨rest, out, hruns⟩ := (Reaches.follows_main h).exists_runs
    have hall := hfolds.execute initial _ _ hinitial hruns (hassumes _)
    exact (Monitor.along_append.mp hall.1).1
  | some slot =>
    by_cases hl : slot ∈ launches history
    · obtain ⟨cfg, wave, state, hlaunch⟩ := mem_launches.mp hl
      obtain ⟨run, later, window, waveStart, hprepared, _, hc⟩ := h.prepared_of_launch hlaunch
      obtain ⟨rest, finished, hruns⟩ := h.runs_of_launch hlaunch
      rw [hc] at hruns
      have hall := hfolds.ran 0 run wave later _ window waveStart state hprepared initial _ _
        hinitial hruns (hassumes _)
      exact (Monitor.along_append.mp hall.1).1
    · rw [(h.idle hl).1]
      trivial

end NutOperator.Execution
