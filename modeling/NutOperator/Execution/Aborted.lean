import NutOperator.Execution.Folding

/-! How a cancelled execution ends: when its last look at its context finds it
ended, it ends with the record of an abort on a context of its own. -/
namespace NutOperator.Execution

open Data Effects List

def lookOf : Exchange Reply → Option (Option ContextError)
  | ⟨.contextErr .execution, found⟩ => some found
  | _ => none

def looks (trace : Trace) : List (Option ContextError) := trace.filterMap lookOf

@[simp] theorem looks_append (before after : Trace) :
    looks (before ++ after) = looks before ++ looks after :=
  filterMap_append

def EndsAborted (executionID : String) (trace : Trace) : Prop :=
  ∃ before error completedAt entry reply, entry.phase = .aborted ∧
    entry.executionID = executionID ∧ trace = before ++
      [⟨.contextErr .execution, some error⟩, ⟨.now, completedAt⟩,
        ⟨.record (.detached .execution nanosPerSecond) (.execution entry), reply⟩]

def LooksLast (executionID : String) (trace : Trace) : Prop :=
  ∃ found, (looks trace).getLast? = some found ∧ (found.isSome → EndsAborted executionID trace)

variable {executionID : String}

theorem LooksLast.append {after : Trace} (h : LooksLast executionID after) (before : Trace) :
    LooksLast executionID (before ++ after) := by
  obtain ⟨found, hf, ha⟩ := h
  refine ⟨found, ?_, ?_⟩
  · rw [looks_append, getLast?_append, hf]
    rfl
  · intro hsome
    obtain ⟨mid, err, completedAt, entry, reply, hp, hid, rfl⟩ := ha hsome
    exact ⟨before ++ mid, err, completedAt, entry, reply, hp, hid, (append_assoc _ _ _).symm⟩

theorem looksLast_of_live {after : Trace} (h : looks after = []) :
    LooksLast executionID (⟨.contextErr .execution, none⟩ :: after) := by
  refine ⟨none, ?_, fun hsome => by cases hsome⟩
  show (none :: looks after).getLast? = some none
  rw [h]
  rfl

def anyReply : Exchange Reply → Prop := fun _ => True

theorem ensures_any {α : Type} (program : Run α) : Ensures anyReply program fun _ _ => True :=
  fun _ _ _ _ => trivial

theorem ensures_ask (request : Request) :
    Ensures anyReply (ask request) fun trace reply => trace = [⟨request, reply⟩] :=
  ensures_request fun _ _ => rfl

theorem lastLook_recordAborted (run : ExecutionRun) (result : Result) (err : Option String)
    (failedGroup : String) (recordErr : Option String) :
    Ensures anyReply (run.recordAborted result err failedGroup recordErr)
      fun trace _ => LooksLast run.executionID trace := by
  intro trace out _ hrun
  unfold ExecutionRun.recordAborted at hrun
  cases hrun with
  | ask found hrun =>
    cases hrun with
    | ask completedAt hrun =>
      cases hrun with
      | ask reply hrun =>
        cases hrun
        refine ⟨found, rfl, ?_⟩
        intro hsome
        obtain ⟨ended, rfl⟩ := Option.isSome_iff_exists.mp hsome
        exact ⟨[], ended, completedAt, _, reply, rfl, rfl, rfl⟩

theorem lastLook_waitForPending (dispatch : Dispatch) :
    Ensures anyReply dispatch.waitForPending fun trace _ => looks trace = [] := by
  unfold Dispatch.waitForPending
  generalize ({ result := dispatch.result } : Drained) = drained
  induction dispatch.pending generalizing drained with
  | nil => exact ensures_pure rfl
  | cons slot rest ih =>
    refine (ensures_ask (.receiveWave slot)).bind fun before run hb => ?_
    subst hb
    refine (ih _).imp fun after ended ha => ?_
    rw [looks_append, ha]
    rfl

def StepLooks (executionID : String) (trace : Trace) : Step → Prop
  | .ended _ => LooksLast executionID trace
  | .next _ => True

theorem stepLooks_closeWindow {trace : Trace} {step : Step} (lowerTierDue : Bool)
    (h : StepLooks executionID trace step) :
    StepLooks executionID trace (step.closeWindow lowerTierDue) := by
  cases step with
  | ended out => exact h
  | next dispatch => trivial

theorem StepLooks.append {after : Trace} {step : Step} (h : StepLooks executionID after step)
    (before : Trace) : StepLooks executionID (before ++ after) step := by
  cases step with
  | ended out => exact LooksLast.append h before
  | next dispatch => trivial

theorem lastLook_ended {program : Run (Result × Option String)}
    (h : Ensures anyReply program fun trace _ => LooksLast executionID trace) :
    Ensures anyReply (do let out ← program; pure (Step.ended out)) (StepLooks executionID) := by
  refine h.bind fun before out hb => ensures_pure ?_
  rw [append_nil]
  exact hb

theorem lastLook_drainBefore (run : ExecutionRun) (wave : Wave) (later : List Wave)
    (dispatch : Dispatch) :
    Ensures anyReply (run.drainBefore wave later dispatch) (StepLooks run.executionID) := by
  unfold ExecutionRun.drainBefore
  split
  · refine (lastLook_waitForPending dispatch).bind fun before drained _ => ?_
    dsimp only
    cases drained.firstErr with
    | some err =>
      exact (lastLook_ended (lastLook_recordAborted run _ _ _ _)).imp
        fun after step hstep => hstep.append before
    | none => exact ensures_pure trivial
  · exact ensures_pure trivial

theorem lastLook_handleWaveResult (run : ExecutionRun) (dispatch : Dispatch)
    (finished : WaveExecutionResult) :
    Ensures anyReply (run.handleWaveResult dispatch finished) (StepLooks run.executionID) := by
  unfold ExecutionRun.handleWaveResult
  dsimp only
  cases finished.err with
  | none => exact ensures_pure trivial
  | some err =>
    refine (lastLook_waitForPending _).bind fun before drained _ => ?_
    exact (lastLook_ended (lastLook_recordAborted run _ _ _ _)).imp
      fun after step hstep => hstep.append before

theorem lastLook_observationFailed (run : ExecutionRun) (dispatch : Dispatch) (err : String) :
    Ensures anyReply (run.observationFailed dispatch err) (StepLooks run.executionID) := by
  unfold ExecutionRun.observationFailed
  refine (ensures_ask (.contextErr .execution)).bind fun looked found hl => ?_
  refine (ensures_ask .cancelExecution).bind fun cancelled _ hc => ?_
  refine (lastLook_waitForPending dispatch).bind fun drains drained hd => ?_
  subst hl hc
  cases found with
  | some ended =>
    refine (lastLook_ended (lastLook_recordAborted run _ _ _ _)).imp fun after step hstep => ?_
    exact ((hstep.append drains).append _).append _
  | none =>
    refine ensures_pure (looksLast_of_live ?_)
    show looks (drains ++ []) = []
    rw [append_nil, hd]

theorem lastLook_overlapWave (run : ExecutionRun) (dispatch : Dispatch) (config : WaveRunConfig)
    (slot : Nat) (wave : Wave) (waveState : WaveAdaptiveState) :
    Ensures anyReply (run.overlapWave dispatch config slot wave waveState)
      (StepLooks run.executionID) := by
  unfold ExecutionRun.overlapWave
  refine (ensures_ask (.launchWave slot config wave waveState)).bind fun launched _ _ => ?_
  refine (ensures_ask .now).bind fun timed time _ => ?_
  dsimp only
  split
  · exact ensures_pure trivial
  · refine (ensures_ask (.selectWave slot _)).bind fun selected signal _ => ?_
    cases signal with
    | cancelled =>
      refine (lastLook_waitForPending _).bind fun drains drained _ => ?_
      refine (ensures_ask (.contextErr .execution)).bind fun looked found _ => ?_
      refine (lastLook_ended (lastLook_recordAborted run _ _ _ _)).imp fun after step hstep => ?_
      exact ((((hstep.append looked).append drains).append selected).append timed).append launched
    | finished finished =>
      refine (lastLook_handleWaveResult run dispatch finished).bind fun ha step hstep =>
        ensures_pure ?_
      rw [append_nil]
      exact ((stepLooks_closeWindow _ (hstep.append selected)).append timed).append launched
    | due => exact ensures_pure trivial

section

variable (executor : Executor) (run : ExecutionRun)

theorem lastLook_awaitWave (dispatch : Dispatch) (config : WaveRunConfig) (wave : Wave)
    (waveState : WaveAdaptiveState) :
    Ensures anyReply (executor.awaitWave run dispatch config wave waveState)
      (StepLooks run.executionID) := by
  unfold Executor.awaitWave
  refine (ensures_any _).bind fun ran finished _ => ?_
  refine (lastLook_handleWaveResult run dispatch finished).bind fun ha step hstep =>
    ensures_pure ?_
  rw [append_nil]
  exact stepLooks_closeWindow _ (hstep.append ran)

theorem lastLook_launch (slot : Nat) (wave : Wave) (later : List Wave) (dispatch : Dispatch)
    (waveState : WaveAdaptiveState) :
    Ensures anyReply (executor.launch run slot wave later dispatch waveState)
      (StepLooks run.executionID) := by
  unfold Executor.launch
  refine (ensures_any _).bind fun approved revoked _ => ?_
  refine (ensures_any _).bind fun reported _ _ => ?_
  refine (ensures_ask .now).bind fun timed waveStart _ => ?_
  dsimp only
  split
  · refine (lastLook_overlapWave run _ _ slot wave waveState).imp fun after step hstep => ?_
    exact ((hstep.append timed).append reported).append approved
  · refine (lastLook_awaitWave executor run _ _ wave waveState).imp fun after step hstep => ?_
    exact ((hstep.append timed).append reported).append approved

theorem lastLook_dispatchWave (slot : Nat) (wave : Wave) (later : List Wave) (dispatch : Dispatch) :
    Ensures anyReply (executor.dispatchWave run slot wave later dispatch)
      (StepLooks run.executionID) := by
  unfold Executor.dispatchWave
  refine (lastLook_drainBefore run wave later dispatch).bind fun before step hstep => ?_
  cases step with
  | ended out =>
    refine ensures_pure ?_
    rw [append_nil]
    exact hstep
  | next drained =>
    refine (ensures_any _).bind fun evaluating evaluated _ => ?_
    cases evaluated with
    | error error =>
      exact (lastLook_observationFailed run drained error).imp fun after step hstep =>
        (hstep.append evaluating).append before
    | ok waveState =>
      exact (lastLook_launch executor run slot wave later drained waveState).imp
        fun after step hstep => (hstep.append evaluating).append before

end

theorem lastLook_recordCompletion (run : ExecutionRun) (result : Result) :
    Ensures anyReply (run.recordCompletion result) fun trace _ => looks trace = [] := by
  unfold ExecutionRun.recordCompletion
  refine (ensures_ask .now).bind fun timed completedAt ht => ?_
  refine (ensures_ask _).imp fun recorded reply hr => ?_
  rw [ht, hr]
  rfl

theorem lastLook_finishExecution (run : ExecutionRun) (result : Result)
    (recordErr : Option String) :
    Ensures anyReply (run.finishExecution result recordErr)
      fun trace _ => LooksLast run.executionID trace := by
  unfold ExecutionRun.finishExecution
  refine (ensures_ask (.contextErr .execution)).bind fun looked found hl => ?_
  subst hl
  cases found with
  | some ended =>
    exact (lastLook_recordAborted run _ _ _ _).imp fun after out ha => ha.append _
  | none =>
    refine (lastLook_recordCompletion run _).bind fun completing completionErr hc =>
      ensures_pure (looksLast_of_live ?_)
    rw [append_nil]
    exact hc

theorem lastLook_finish (run : ExecutionRun) (dispatch : Dispatch) :
    Ensures anyReply (run.finish dispatch) fun trace _ => LooksLast run.executionID trace := by
  unfold ExecutionRun.finish
  refine (lastLook_waitForPending dispatch).bind fun drains drained _ => ?_
  dsimp only
  cases drained.firstErr with
  | some err =>
    exact (lastLook_recordAborted run _ _ _ _).imp fun after out ha => ha.append drains
  | none =>
    exact (lastLook_finishExecution run _ _).imp fun after out ha => ha.append drains

theorem lastLook_dispatchWaves (executor : Executor) (run : ExecutionRun) (slot : Nat)
    (waves : List Wave) (dispatch : Dispatch) :
    Ensures anyReply (executor.dispatchWaves run slot waves dispatch)
      fun trace _ => LooksLast run.executionID trace := by
  induction waves generalizing slot dispatch with
  | nil => exact lastLook_finish run dispatch
  | cons wave later ih =>
    unfold Executor.dispatchWaves
    refine (lastLook_dispatchWave executor run slot wave later dispatch).bind
      fun before step hstep => ?_
    cases step with
    | ended out =>
      refine ensures_pure ?_
      rw [append_nil]
      exact hstep
    | next next => exact (ih (slot + 1) next).imp fun after out ha => ha.append before

def RecordsRunning (executionID : String) (trace : Trace) : Prop :=
  ∃ entry reply, entry.phase = .running ∧ entry.executionID = executionID ∧
    ⟨.record .execution (.execution entry), reply⟩ ∈ trace

theorem lastLook_execute (executor : Executor) (input : Input) :
    Ensures anyReply (executor.execute input) fun trace _ => trace = [] ∨
      ∃ executionID, RecordsRunning executionID trace ∧ LooksLast executionID trace := by
  unfold Executor.execute
  cases validateExecuteInput input with
  | error error => exact ensures_pure (.inl rfl)
  | ok groups =>
    refine (ensures_any _).bind fun prepared run _ => ?_
    refine (ensures_ask _).bind fun recorded startErr hr => ?_
    refine (lastLook_dispatchWaves executor run 0 input.waves _).imp fun after out ha => ?_
    subst hr
    refine .inr ⟨run.executionID, ⟨_, startErr, rfl, rfl, ?_⟩, (ha.append _).append prepared⟩
    exact mem_append_right _ mem_cons_self

theorem endsAborted_execute {executor : Executor} {input : Input} {trace : Trace}
    {out : Result × Option String} {error : ContextError}
    (hrun : Runs (executor.execute input) trace out)
    (hlast : (looks trace).getLast? = some (some error)) :
    ∃ executionID, RecordsRunning executionID trace ∧ EndsAborted executionID trace := by
  rcases lastLook_execute executor input trace out (fun _ _ => trivial) hrun with
    rfl | ⟨executionID, hr, found, hf, ha⟩
  · cases hlast
  · obtain rfl : found = some error := Option.some.inj (hf.symm.trans hlast)
    exact ⟨executionID, hr, ha rfl⟩

end NutOperator.Execution
