import NutOperator.Execution.Folding

/-! What a group record says of the calls before it. A group calls the runner once at
most, fails when the runner or its own limit does, and otherwise has made its call. -/
namespace NutOperator.Execution

open Effects List

/-- What a party has seen since its last group record. -/
structure Attempting where
  calls : List Action := []
  /-- The runner, a pause or the evidence for a handoff has failed. -/
  failed : Bool := false
  expired : Bool := false
  /-- A context that is neither a group's nor a lookup's has ended. -/
  ended : Bool := false

def Attempting.after (seen : Attempting) : Exchange Reply → Attempting
  | ⟨.runAction _ action, (reply : ActionOutcome × Option String)⟩ =>
    { seen with calls := seen.calls ++ [action], failed := seen.failed || reply.2.isSome }
  | ⟨.sleep _ _, (reply : Option String)⟩ => { seen with failed := seen.failed || reply.isSome }
  | ⟨.refreshNodeRelease _ _, (reply : Except String NodeRelease)⟩ =>
    { seen with failed := seen.failed || !reply.isOk }
  | ⟨.contextErr (.group _ _ _), (reply : Option ContextError)⟩ =>
    { seen with expired := seen.expired || reply.isSome }
  | ⟨.contextErr (.lookup _ _ _), _⟩ => seen
  | ⟨.contextErr _, (reply : Option ContextError)⟩ =>
    { seen with ended := seen.ended || reply.isSome }
  | ⟨.record _ (.group _), _⟩ => {}
  | _ => seen

def since (trace : Trace) : Attempting := trace.foldl Attempting.after {}

def Effective (entry : ShutdownFlowExecutionGroup) : Prop :=
  ("dryRun", Detail.flag false) ∈ entry.details ∨ entry.action = actionRunHook

/-- Why a group may be recorded as failed. -/
def Cause (executor : Executor) (action : String) (seen : Attempting) : Prop :=
  seen.failed = true ∨ seen.expired = true ∨ seen.ended = true ∨ action = actionAgentShutdown ∨
    executor.runner = false

structure Judged (executor : Executor) (seen : Attempting) (entry : ShutdownFlowExecutionGroup) :
    Prop where
  failed : seen.failed = true ∨ seen.expired = true ∧ seen.ended = false → entry.phase = .failed
  cause : entry.phase = .failed → Cause executor entry.action seen
  called : entry.phase ≠ .failed → Effective entry → ∃ action, seen.calls = [action]
  named : ∀ action ∈ seen.calls, action.group.name = entry.groupName ∧
    action.group.action = entry.action

def attempts (executor : Executor) : Monitor Reply Attempting where
  advance := Attempting.after
  allowed seen exchange := (∀ action, actionOf exchange = some action → seen.calls = []) ∧
    ∀ entry, groupRecordOf exchange = some entry → Judged executor seen entry

/-- Every attempt of a party has a record of its own that agrees with it. -/
structure AttemptsRecorded (executor : Executor) (trace : Trace) : Prop where
  once : AtEach (fun before exchange => ∀ action, actionOf exchange = some action →
    (since before).calls = []) trace
  judged : AtEach (fun before exchange => ∀ entry, groupRecordOf exchange = some entry →
    Judged executor (since before) entry) trace
  settled : (since trace).calls = []

structure Attempting.Fresh (seen : Attempting) : Prop where
  calls : seen.calls = []
  failed : seen.failed = false
  expired : seen.expired = false

/-- A request that has no part in an attempt. -/
def Aside : Request → Prop
  | .contextErr context => context.isRoot = true ∨ context.isLookup = true
  | .runAction _ _ => False
  | .sleep _ _ => False
  | .refreshNodeRelease _ _ => False
  | .record _ (.group _) => False
  | _ => True

section

variable {executor : Executor} {seen : Attempting} {action : String}
  {context actionContext : Context}

theorem allowed_of_none {exchange : Exchange Reply} (haction : actionOf exchange = none)
    (hrecord : groupRecordOf exchange = none) : (attempts executor).allowed seen exchange :=
  ⟨fun _ h => absurd (haction.symm.trans h) nofun, fun _ h => absurd (hrecord.symm.trans h) nofun⟩

theorem allowed_of_aside {request : Request} (h : Aside request) (reply : Reply request) :
    (attempts executor).allowed seen ⟨request, reply⟩ := by
  cases request with
  | runAction context called => exact h.elim
  | record context written =>
    cases written with
    | group entry => exact h.elim
    | _ => exact allowed_of_none rfl rfl
  | _ => exact allowed_of_none rfl rfl

theorem Attempting.Fresh.after (hfresh : seen.Fresh) {request : Request} (h : Aside request)
    (reply : Reply request) : (seen.after ⟨request, reply⟩).Fresh := by
  cases request with
  | contextErr context =>
    cases context with
    | group parent name timeout => cases h <;> contradiction
    | _ => exact ⟨hfresh.calls, hfresh.failed, hfresh.expired⟩
  | record context written =>
    cases written with
    | group entry => exact h.elim
    | _ => exact hfresh
  | runAction context called => exact h.elim
  | sleep context duration => exact h.elim
  | refreshNodeRelease context release => exact h.elim
  | _ => exact hfresh

theorem attemptsRecorded_of_accepts {trace : Trace} (h : (attempts executor).Accepts {} trace)
    (hfresh : (since trace).Fresh) : AttemptsRecorded executor trace := by
  refine ⟨?_, ?_, hfresh.calls⟩
  · rintro before exchange later rfl
    exact h.split.1
  · rintro before exchange later rfl
    exact h.split.2

theorem keeps_fresh (request : Request) (h : Aside request) :
    (attempts executor).Keeps Attempting.Fresh request :=
  fun _ reply hfresh _ => ⟨allowed_of_aside h reply, hfresh.after h reply⟩

structure Tried (executor : Executor) (attempt : GroupAttempt) (seen : Attempting) : Prop where
  failed : seen.failed = true ∨ seen.expired = true ∧ seen.ended = false → attempt.actionErr ≠ none
  cause : attempt.actionErr ≠ none → Cause executor attempt.group.action seen
  named : ∀ action ∈ seen.calls, action.group = attempt.group

theorem Attempting.Fresh.tried (h : seen.Fresh) {attempt : GroupAttempt}
    (hok : attempt.actionErr = none) : Tried executor attempt seen :=
  ⟨by simp [h.failed, h.expired], fun hfailed => absurd hok hfailed, by simp [h.calls]⟩

theorem Tried.block {attempt : GroupAttempt} (h : seen.calls = []) (error : String)
    (hcause : Cause executor attempt.group.action seen) :
    Tried executor (attempt.block error) seen :=
  ⟨fun _ => nofun, fun _ => hcause, by simp [h]⟩

def Waiting (executor : Executor) (attempt : GroupAttempt) (seen : Attempting) : Prop :=
  Tried executor attempt seen ∧ seen.calls = []

theorem after_contextErr_none (seen : Attempting) (context : Context) :
    seen.after ⟨.contextErr context, (none : Option ContextError)⟩ = seen := by
  cases context <;> simp [Attempting.after]

theorem after_root_some (hroot : context.isRoot = true) (seen : Attempting) (error : ContextError) :
    seen.after ⟨.contextErr context, some error⟩ = { seen with ended := true } := by
  cases context with
  | group parent name timeout => cases hroot
  | lookup parent name timeout => cases hroot
  | _ => simp [Attempting.after]

theorem tried_asked (pre : Attempting → Prop) (hcontext : context.isLookup = false) :
    Triple (attempts executor) (fun seen => pre seen ∧ seen.calls = []) (contextErr context)
      fun reply seen => seen.calls = [] ∧
        (reply = none → pre seen) ∧ (reply ≠ none → ∀ action, Cause executor action seen) := by
  refine triple_request fun seen reply hpre _ => ⟨allowed_of_none rfl rfl, ?_⟩
  change Option ContextError at reply
  cases reply with
  | none =>
    have hsame : (attempts executor).advance seen ⟨.contextErr context, none⟩ = seen :=
      after_contextErr_none seen context
    rw [hsame]
    exact ⟨hpre.2, fun _ => hpre.1, nofun⟩
  | some error =>
    refine ⟨?_, nofun, fun _ action => ?_⟩
    · cases context <;> exact hpre.2
    · cases context with
      | group parent name timeout => exact .inr (.inl (Bool.or_true _))
      | lookup parent name timeout => cases hcontext
      | _ => exact .inr (.inr (.inl (Bool.or_true _)))

theorem tried_refreshReleases (hcontext : context.isLookup = false) (releases : List NodeRelease) :
    Triple (attempts executor) Attempting.Fresh (refreshReleases context releases)
      fun result seen => seen.calls = [] ∧ ∀ fresh, result = .ok fresh → seen.Fresh := by
  induction releases with
  | nil => exact triple_pure fun seen h => ⟨h.calls, fun _ _ => h⟩
  | cons selected rest ih =>
    unfold refreshReleases
    refine Triple.bind ((tried_asked Attempting.Fresh hcontext).of_pre
      fun seen h => ⟨h, h.calls⟩) fun ended => ?_
    cases ended with
    | some error => exact triple_pure fun seen h => ⟨h.1, nofun⟩
    | none =>
      have hread : Triple (attempts executor) (fun seen => seen.Fresh)
          (ask (.refreshNodeRelease context selected))
          fun read seen => seen.calls = [] ∧ ∀ release, read = .ok release → seen.Fresh := by
        refine triple_request fun seen read hfresh _ =>
          ⟨allowed_of_none rfl rfl, hfresh.calls, fun release hok => ?_⟩
        obtain rfl : read = .ok release := hok
        exact ⟨hfresh.calls, Bool.or_eq_false_iff.mpr ⟨hfresh.failed, rfl⟩, hfresh.expired⟩
      refine Triple.bind (hread.of_pre fun seen h => h.2.1 rfl) fun read => ?_
      cases read with
      | error error => exact triple_pure fun seen h => ⟨h.1, nofun⟩
      | ok release =>
        dsimp only
        split
        · refine Triple.bind (ih.of_pre fun seen h => h.2 release rfl) fun result => ?_
          cases result with
          | error error => exact triple_pure fun seen h => ⟨h.1, nofun⟩
          | ok releases => exact triple_pure fun seen h => ⟨h.1, fun _ _ => h.2 releases rfl⟩
        · exact triple_pure fun seen h => ⟨h.1, nofun⟩

theorem tried_confirmReleases (hcontext : context.isLookup = false) (dryRun : Bool)
    (group : Group) :
    Triple (attempts executor) Attempting.Fresh (executor.confirmReleases context dryRun group)
      (Waiting executor) := by
  unfold Executor.confirmReleases
  split
  · rename_i hagent
    have hrefresh : Triple (attempts executor) Attempting.Fresh
        (executor.refreshReleaseEvidence context group) fun result seen =>
          seen.calls = [] ∧ result.1.action = actionAgentShutdown ∧
            (result.2 = none → seen.Fresh) := by
      unfold Executor.refreshReleaseEvidence
      split
      · refine (tried_refreshReleases hcontext group.nodeReleases).bind fun result => ?_
        cases result with
        | error error => exact triple_pure fun seen h => ⟨h.1, hagent, nofun⟩
        | ok releases => exact triple_pure fun seen h => ⟨h.1, hagent, fun _ => h.2 releases rfl⟩
      · exact triple_pure fun seen h => ⟨h.calls, hagent, fun _ => h⟩
    refine hrefresh.bind ?_
    rintro ⟨refreshed, refreshErr⟩
    have hblocked : ∀ seen attempt, seen.calls = [] → attempt.actionErr ≠ none →
        attempt.group.action = actionAgentShutdown → Waiting executor attempt seen :=
      fun seen attempt hcalls herr haction =>
        ⟨⟨fun _ => herr, fun _ => .inr (.inr (.inr (.inl haction))), by simp [hcalls]⟩, hcalls⟩
    cases refreshErr with
    | some error =>
      exact triple_pure fun seen h => hblocked seen _ h.1 nofun h.2.1
    | none =>
      dsimp only
      split
      · exact triple_pure fun seen h => hblocked seen _ h.1 nofun h.2.1
      · exact triple_pure fun seen h => ⟨(h.2.2 rfl).tried rfl, h.1⟩
  · exact triple_pure fun seen h => ⟨h.tried rfl, h.calls⟩

theorem tried_holdWait (dryRun : Bool) (effectiveWait : Data.Duration) (attempt : GroupAttempt) :
    Triple (attempts executor) (Waiting executor attempt)
      (holdWait context dryRun effectiveWait attempt) (Waiting executor) := by
  unfold holdWait
  split
  · have hsleep : Triple (attempts executor) (Waiting executor attempt)
        (ask (.sleep context effectiveWait)) fun interrupted seen => seen.calls = [] ∧
          (interrupted = none → Waiting executor attempt seen) ∧
          (interrupted ≠ none → seen.failed = true) := by
      refine triple_request fun seen interrupted hwaiting _ => ⟨allowed_of_none rfl rfl, ?_⟩
      change Option String at interrupted
      cases interrupted with
      | none =>
        have hsame : (attempts executor).advance seen ⟨.sleep context effectiveWait, none⟩ =
          seen := by
          simp [attempts, Attempting.after]
        rw [hsame]
        exact ⟨hwaiting.2, fun _ => hwaiting, nofun⟩
      | some error => exact ⟨hwaiting.2, nofun, fun _ => Bool.or_true _⟩
    refine hsleep.bind fun interrupted => ?_
    cases interrupted with
    | some error =>
      exact triple_pure fun seen h => ⟨.block h.1 _ (.inl (h.2.2 nofun)), h.1⟩
    | none =>
      refine triple_pure fun seen h => ?_
      obtain ⟨htried, hcalls⟩ := h.2.1 rfl
      exact ⟨⟨htried.failed, htried.cause, htried.named⟩, hcalls⟩
  · exact triple_pure fun _ h => h

theorem tried_checkContext (hcontext : context.isLookup = false) (attempt : GroupAttempt) :
    Triple (attempts executor) (Waiting executor attempt) (checkContext context attempt)
      (Waiting executor) := by
  unfold checkContext
  split
  · refine Triple.bind ((tried_asked (Tried executor attempt) hcontext).of_pre fun _ h => h)
      fun ended => ?_
    cases ended with
    | some error =>
      exact triple_pure fun seen h => ⟨.block h.1 _ (h.2.2 nofun _), h.1⟩
    | none => exact triple_pure fun seen h => ⟨h.2.1 rfl, h.1⟩
  · exact triple_pure fun _ h => h

def MadeCall (dryRun : Bool) (attempt : GroupAttempt) (seen : Attempting) : Prop :=
  attempt.actionErr = none → dryRun = false ∨ attempt.group.action = actionRunHook →
    ∃ action, seen.calls = [action]

theorem tried_dispatchAction (config : GroupRunConfig) (attempt : GroupAttempt) :
    Triple (attempts executor) (Waiting executor attempt)
      (executor.dispatchAction config context attempt)
      fun dispatched seen => Tried executor dispatched seen ∧
        MadeCall config.dryRun dispatched seen := by
  unfold Executor.dispatchAction
  split
  · rename_i hrun
    split
    · have hcalled : Triple (attempts executor) (Waiting executor attempt)
          (ask (.runAction context (config.actionFor attempt.group))) fun reply seen =>
            seen.calls = [config.actionFor attempt.group] ∧
              (seen.failed = true ∨ seen.expired = true ∧ seen.ended = false → reply.2 ≠ none) ∧
              (reply.2 ≠ none → seen.failed = true) := by
        refine triple_request fun seen reply hwaiting _ =>
          ⟨⟨fun _ _ => hwaiting.2, fun entry h => absurd h.symm (Option.some_ne_none entry)⟩, ?_⟩
        have hunfailed := mt hwaiting.1.failed (not_not.mpr hrun.2)
        rw [not_or] at hunfailed
        refine ⟨by simp [attempts, Attempting.after, hwaiting.2], ?_, ?_⟩
        · rintro (hfailed | hexpired) hnone
          · simp [attempts, Attempting.after, hnone, hunfailed.1] at hfailed
          · exact hunfailed.2 hexpired
        · intro herr
          simp [attempts, Attempting.after, Option.isSome_iff_ne_none.mpr herr]
      refine hcalled.bind fun reply => ?_
      refine triple_pure fun seen h =>
        ⟨⟨h.2.1, fun herr => .inl (h.2.2 herr), ?_⟩, fun _ _ => ⟨_, h.1⟩⟩
      simp [h.1, GroupRunConfig.actionFor]
    · rename_i hrunner
      refine triple_pure fun seen h => ⟨.block h.2 _ ?_, nofun⟩
      exact .inr (.inr (.inr (.inr (by simpa using hrunner))))
  · rename_i hrun
    exact triple_pure fun seen h => ⟨h.1, fun hok heffect => absurd ⟨heffect, hok⟩ hrun⟩

theorem tried_limit {known : Attempting} :
    Triple (attempts executor) (· = known) (contextErr context)
      fun reply seen => seen = known.after ⟨.contextErr context, reply⟩ := by
  refine triple_request ?_
  rintro seen reply rfl _
  exact ⟨allowed_of_none rfl rfl, rfl⟩

theorem tried_checkTimeout {parent : Context} {name : String} {timeout : Data.Duration}
    (hroot : actionContext.isRoot = true) (dryRun : Bool) (attempt : GroupAttempt) :
    Triple (attempts executor)
      (fun seen => Tried executor attempt seen ∧ MadeCall dryRun attempt seen)
      (checkTimeout actionContext
        (if 0 < timeout then .group parent name timeout else actionContext) timeout attempt)
      fun checked seen => Tried executor checked seen ∧ MadeCall dryRun checked seen := by
  unfold checkTimeout
  split
  · refine triple_of_forall fun seen ⟨htried, hcalled⟩ => ?_
    refine tried_limit.bind fun expired => ?_
    cases expired with
    | none =>
      rw [after_contextErr_none]
      exact triple_return ⟨htried, hcalled⟩
    | some error =>
      refine tried_limit.bind fun ended => ?_
      cases ended with
      | some error =>
        -- The execution has ended too, so the limit is not what the group is judged by.
        rw [after_root_some hroot]
        refine triple_return ⟨⟨?_, fun _ => .inr (.inl (Bool.or_true _)), htried.named⟩, hcalled⟩
        rintro (hfailed | ⟨-, hended⟩)
        · exact htried.failed (.inl hfailed)
        · cases hended
      | none =>
        rw [after_contextErr_none]
        exact triple_return
          ⟨⟨fun _ => nofun, fun _ => .inr (.inl (Bool.or_true _)), htried.named⟩, nofun⟩
  · exact triple_pure fun _ h => h

theorem isLookup_of_isRoot (h : context.isRoot = true) : context.isLookup = false := by
  cases context <;> first | rfl | cases h

theorem tried_attemptGroup {config : GroupRunConfig} (hroot : config.actionContext.isRoot = true)
    (group : Group) :
    Triple (attempts executor) Attempting.Fresh (executor.attemptGroup config group)
      fun attempt seen => Tried executor attempt seen ∧ MadeCall config.dryRun attempt seen := by
  have hcontext : (config.groupContext group).isLookup = false :=
    isLookup_groupContext (isLookup_of_isRoot hroot) group
  unfold Executor.attemptGroup
  dsimp only
  refine (tried_confirmReleases hcontext config.dryRun group).bind fun confirmed => ?_
  refine (tried_holdWait config.dryRun _ confirmed).bind fun held => ?_
  refine (tried_checkContext hcontext held).bind fun checked => ?_
  refine (tried_dispatchAction config checked).bind fun dispatched => ?_
  exact tried_checkTimeout hroot config.dryRun dispatched

theorem effective_groupRecord {config : GroupRunConfig} {group : Group} {attempt : GroupAttempt}
    {startedAt completedAt : Time} {groupRecordID : String}
    (h : Effective (config.groupRecord group attempt startedAt completedAt groupRecordID)) :
    config.dryRun = false ∨ attempt.group.action = actionRunHook := by
  refine h.imp_left fun hmem => ?_
  simpa [GroupRunConfig.groupRecord, mergeDetails, durationSeconds, Detail.labels] using hmem

theorem judged_groupRecord {config : GroupRunConfig} {attempt : GroupAttempt}
    (h : Tried executor attempt seen) (hcalled : MadeCall config.dryRun attempt seen)
    (group : Group) (startedAt completedAt : Time) (groupRecordID : String) :
    Judged executor seen
      (config.groupRecord group attempt startedAt completedAt groupRecordID) := by
  have hphase : (config.groupRecord group attempt startedAt completedAt groupRecordID).phase =
      .failed ↔ attempt.actionErr ≠ none := by
    simp [GroupRunConfig.groupRecord]
  refine ⟨fun hfailed => hphase.mpr (h.failed hfailed), fun hfailed => h.cause (hphase.mp hfailed),
    fun hok heffect => hcalled (not_not.mp (mt hphase.mpr hok)) (effective_groupRecord heffect),
    fun action hmem => ?_⟩
  rw [h.named action hmem]
  exact ⟨rfl, rfl⟩

theorem aside_of_clockAsks (request : Request) (h : ClockAsks request) : Aside request := by
  cases request <;> trivial

theorem aside_of_bookkeepingAsks (request : Request) (h : BookkeepingAsks request) :
    Aside request := by
  cases request with
  | record context written => cases written <;> trivial
  | now => trivial
  | newID => trivial
  | _ => exact h.elim

theorem aside_of_ownAsks (hroot : context.isRoot = true) (request : Request)
    (h : OwnAsks context request) : Aside request := by
  cases request with
  | contextErr other =>
    rcases h with rfl | rfl | hlookup
    · exact .inl rfl
    · exact .inl hroot
    · exact .inr hlookup
  | record other written => cases written <;> trivial
  | runAction other called => exact h.elim
  | sleep other duration => exact h.elim
  | refreshNodeRelease other release => exact h.elim
  | _ => trivial

theorem aside_of_loopAsks (request : Request) (h : LoopAsks request) : Aside request := by
  cases request with
  | contextErr context => exact .inl (congrArg Context.isRoot h)
  | record context written => cases written <;> trivial
  | _ => trivial

theorem aside_of_reports {progress : Progress} (request : Request) (h : Reports progress request) :
    Aside request := by
  cases request <;> trivial

theorem triple_record_group {entry : ShutdownFlowExecutionGroup} {pre : Attempting → Prop}
    (h : ∀ seen, pre seen → Judged executor seen entry) (context : Context) :
    Triple (attempts executor) pre (ask (.record context (.group entry)))
      fun _ seen => seen.Fresh := by
  refine triple_request fun seen reply hpre _ =>
    ⟨⟨fun action hc => absurd hc.symm (Option.some_ne_none action), ?_⟩, ⟨rfl, rfl, rfl⟩⟩
  rintro _ ⟨⟩
  exact h seen hpre

theorem triple_executeGroup_attempts {config : GroupRunConfig}
    (hroot : config.actionContext.isRoot = true) (group : Group) :
    Triple (attempts executor) Attempting.Fresh (executor.executeGroup config group)
      fun _ seen => seen.Fresh := by
  have hclock : ∀ (pre : Attempting → Prop) request, ClockAsks request →
      (attempts executor).Keeps pre request := by
    intro pre request hasks seen reply hpre _
    refine ⟨allowed_of_aside (aside_of_clockAsks request hasks) reply, ?_⟩
    cases request with
    | now => exact hpre
    | newID => exact hpre
    | _ => exact hasks.elim
  unfold Executor.executeGroup
  refine ticks_now.triple_bind (hclock _) fun startedAt _ => ?_
  refine (tried_attemptGroup hroot group).bind fun attempt => ?_
  refine ticks_now.triple_bind (hclock _) fun completedAt _ => ?_
  refine ticks_newID.triple_bind (hclock _) fun recordID _ => ?_
  refine Triple.bind (triple_record_group (fun seen h =>
    judged_groupRecord h.1 h.2 group startedAt completedAt recordID) _) fun groupErr => ?_
  exact ((asks_concludeGroup config attempt startedAt completedAt groupErr).triple
    fun request hasks =>
    keeps_fresh request (aside_of_bookkeepingAsks request hasks)).imp fun _ _ h => h.2

theorem waveFolds_attempts {config : WaveRunConfig} (hroot : config.actionContext.isRoot = true)
    (wave : Wave) (state : WaveAdaptiveState) :
    WaveFolds executor (attempts executor) (fun _ seen => seen.Fresh) (fun _ _ seen => seen.Fresh)
      config wave state where
  own := fun _ request h => keeps_fresh request (aside_of_ownAsks hroot request h)
  grouped := fun _ _ _ _ _ => triple_executeGroup_attempts hroot _
  reported := fun _ _ => ((asks_reportProgress executor _).triple fun request h =>
    keeps_fresh request (aside_of_reports request h)).imp fun _ _ h => h.2

theorem isRoot_waveActionContext (policy : TierOverrunPolicy) (lowerTierDue : Bool)
    (window : TierOverrunWindow) :
    (waveActionContext policy lowerTierDue window).isRoot = true := by
  unfold waveActionContext
  split <;> rfl

/-- Every party makes its attempts one after the other, each with its own record. -/
theorem folds_attempts (executor : Executor) (input : Input) :
    Folds executor input (attempts executor) fun _ seen => seen.Fresh where
  quiet := fun _ request h => keeps_fresh request (aside_of_loopAsks request h)
  received := fun _ slot => triple_request (keeps_fresh (.receiveWave slot) trivial)
  selected := fun _ slot dueAfter =>
    triple_request (keeps_fresh (.selectWave slot dueAfter) trivial)
  ran := fun counts _ wave _ _ _ _ state _ =>
    (waveFolds_attempts (isRoot_waveActionContext _ _ _) wave state).runWave counts

theorem attemptsRecorded_of_runs {input : Input} {trace : Trace} {outcome : Result × Option String}
    (h : Runs (executor.execute input) trace outcome) : AttemptsRecorded executor trace := by
  have hend := (folds_attempts executor input).execute {} trace outcome ⟨rfl, rfl, rfl⟩ h
    (Monitor.along_of_forall (fun _ _ => trivial) _ _)
  exact attemptsRecorded_of_accepts hend.1 hend.2

end

end NutOperator.Execution
