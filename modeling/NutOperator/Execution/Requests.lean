import NutOperator.Execution.Execute

/-! What groups and waves may ask of their surroundings, function by function.
Everything said about the requests of an execution starts from these bounds. -/
namespace NutOperator.Execution

open Effects

def AttemptAsks (contexts : Context → Prop) : Request → Prop
  | .contextErr context => contexts context
  | .refreshNodeRelease context _ => contexts context
  | .sleep context _ => contexts context
  | _ => False

def AnyContext (_ : Context) : Prop := True

/-- A whole attempt. The runner is called with the wave's dry-run flag, and a dry
wave only calls hooks. -/
def CallAsks (dryRun : Bool) (waveIndex : Int) : Request → Prop
  | .contextErr _ => True
  | .refreshNodeRelease _ _ => True
  | .sleep _ _ => True
  | .runAction _ action => action.dryRun = dryRun ∧ action.waveIndex = waveIndex ∧
      (dryRun = true → action.group.action = actionRunHook)
  | _ => False

def Context.isRoot : Context → Bool
  | .group _ _ _ => false
  | .lookup _ _ _ => false
  | _ => true

def Context.isLookup : Context → Bool
  | .lookup _ _ _ => true
  | _ => false

def LookupAsks (context : Context) (names : List String) : Request → Prop
  | .contextErr other => other = context ∨ other.isLookup = true
  | .resolveTargets other _ => ∃ name ∈ names, ∃ timeout, other = .lookup context name timeout
  | _ => False

def BookkeepingAsks : Request → Prop
  | .now => True
  | .newID => True
  | .record _ (.actionAttempt _) => True
  | .record _ (.nodeRelease _) => True
  | .record _ (.nodeSignalHandoff _) => True
  | _ => False

def ClockAsks : Request → Prop
  | .now => True
  | .newID => True
  | _ => False

theorem bookkeepingAsks_of_clockAsks (request : Request) (h : ClockAsks request) :
    BookkeepingAsks request := by
  cases request <;> trivial

def WaveAsks (dryRun : Bool) (waveIndex : Int) : Request → Prop
  | .now => True
  | .newID => True
  | .contextErr _ => True
  | .refreshNodeRelease _ _ => True
  | .sleep _ _ => True
  | .resolveTargets _ _ => True
  | .report (.groups _ _ _) => True
  | .runAction _ action => action.dryRun = dryRun ∧ action.waveIndex = waveIndex ∧
      (dryRun = true → action.group.action = actionRunHook)
  | .record _ (.group _) => True
  | .record _ (.actionAttempt _) => True
  | .record _ (.nodeRelease _) => True
  | .record _ (.nodeSignalHandoff _) => True
  | .record _ (.wave entry) => entry.phase ≠ .running
  | _ => False

variable {dryRun : Bool} {waveIndex : Int}

theorem callAsks_of_attemptAsks {contexts : Context → Prop} (request : Request)
    (h : AttemptAsks contexts request) : CallAsks dryRun waveIndex request := by
  cases request <;> trivial

theorem waveAsks_of_callAsks (request : Request) (h : CallAsks dryRun waveIndex request) :
    WaveAsks dryRun waveIndex request := by
  cases request <;> trivial

theorem waveAsks_of_lookupAsks {context : Context} {names : List String} (request : Request)
    (h : LookupAsks context names request) : WaveAsks dryRun waveIndex request := by
  cases request <;> trivial

theorem waveAsks_of_bookkeepingAsks (request : Request) (h : BookkeepingAsks request) :
    WaveAsks dryRun waveIndex request := by
  cases request with
  | now => trivial
  | newID => trivial
  | record context entry =>
    cases entry <;> trivial
  | _ => exact h.elim

/-- The stages of a group may change its releases, never its name or action. -/
def Keeps (group later : Group) : Prop := later.name = group.name ∧ later.action = group.action

structure Confirmed (group later : Group) : Prop where
  keeps : Keeps group later
  releases : List.Forall₂ (fun fresh selected => sameReleaseIdentity fresh selected = true)
    later.nodeReleases group.nodeReleases

theorem sameReleaseIdentity_self (release : NodeRelease) :
    sameReleaseIdentity release release = true := by
  simp [sameReleaseIdentity]

theorem confirmed_self (group : Group) : Confirmed group group :=
  ⟨⟨rfl, rfl⟩, List.forall₂_same.mpr fun release _ => sameReleaseIdentity_self release⟩

section

variable {contexts : Context → Prop} {context : Context} (hcontext : contexts context)
include hcontext

theorem asks_contextErr : Within (AttemptAsks contexts) (contextErr context) fun _ => True :=
  within_asked hcontext

theorem asks_holdWait (dryRun : Bool) (effectiveWait : Data.Duration) (attempt : GroupAttempt) :
    Within (AttemptAsks contexts) (holdWait context dryRun effectiveWait attempt)
      fun held => held.group = attempt.group := by
  unfold holdWait
  split
  · refine Within.bind (within_request hcontext fun _ => trivial) fun reply _ => ?_
    cases reply <;> exact within_pure rfl
  · exact within_pure rfl

theorem asks_refreshReleases (releases : List NodeRelease) :
    Within (AttemptAsks contexts) (refreshReleases context releases) fun result =>
      ∀ refreshed, result = .ok refreshed →
        List.Forall₂ (fun fresh selected => sameReleaseIdentity fresh selected = true)
          refreshed releases := by
  induction releases with
  | nil =>
    apply within_pure
    rintro refreshed ⟨⟩
    exact .nil
  | cons selected rest ih =>
    refine (asks_contextErr hcontext).bind fun error _ => ?_
    cases error with
    | some error => exact within_pure nofun
    | none =>
      refine Within.bind (within_request hcontext fun _ => trivial) fun reply _ => ?_
      cases reply with
      | error error => exact within_pure nofun
      | ok read =>
        dsimp only
        split
        · rename_i hsame
          refine ih.bind fun result hrest => ?_
          cases result with
          | error error => exact within_pure nofun
          | ok refreshed =>
            apply within_pure
            rintro _ ⟨⟩
            exact .cons hsame (hrest refreshed rfl)
        · exact within_pure nofun

theorem asks_refreshReleaseEvidence (executor : Executor) (group : Group) :
    Within (AttemptAsks contexts) (executor.refreshReleaseEvidence context group)
      fun result => Confirmed group result.1 := by
  unfold Executor.refreshReleaseEvidence
  split
  · refine (asks_refreshReleases hcontext group.nodeReleases).bind fun result hr => ?_
    cases result with
    | error error => exact within_pure (confirmed_self group)
    | ok refreshed => exact within_pure ⟨⟨rfl, rfl⟩, hr refreshed rfl⟩
  · exact within_pure (confirmed_self group)

theorem asks_confirmReleases (executor : Executor) (dryRun : Bool) (group : Group) :
    Within (AttemptAsks contexts) (executor.confirmReleases context dryRun group)
      fun attempt => Confirmed group attempt.group := by
  unfold Executor.confirmReleases
  split
  · refine (asks_refreshReleaseEvidence hcontext executor group).bind ?_
    rintro ⟨refreshed, refreshErr⟩ hc
    cases refreshErr with
    | some err => exact within_pure hc
    | none =>
      dsimp only
      split <;> exact within_pure hc
  · exact within_pure (confirmed_self group)

theorem asks_checkContext (attempt : GroupAttempt) :
    Within (AttemptAsks contexts) (checkContext context attempt)
      fun checked => checked.group = attempt.group := by
  unfold checkContext
  split
  · refine (asks_contextErr hcontext).bind fun err _ => ?_
    cases err <;> exact within_pure rfl
  · exact within_pure rfl

theorem asks_checkTimeout {actionContext : Context} (haction : contexts actionContext)
    (effectiveTimeout : Data.Duration) (attempt : GroupAttempt) :
    Within (AttemptAsks contexts) (checkTimeout actionContext context effectiveTimeout attempt)
      fun timed => timed.group = attempt.group := by
  unfold checkTimeout
  split
  · refine (asks_contextErr hcontext).bind fun err _ => ?_
    cases err with
    | none => exact within_pure rfl
    | some err =>
      refine (asks_contextErr haction).bind fun parentError _ => ?_
      cases parentError <;> exact within_pure rfl
  · exact within_pure rfl

end

theorem ticks_now : Within ClockAsks now fun _ => True := within_asked trivial

theorem ticks_newID : Within ClockAsks newID fun _ => True := within_asked trivial

theorem asks_now : Within BookkeepingAsks now fun _ => True :=
  ticks_now.mono bookkeepingAsks_of_clockAsks

theorem asks_newID : Within BookkeepingAsks newID fun _ => True :=
  ticks_newID.mono bookkeepingAsks_of_clockAsks

theorem asks_recordReleases (context : Context) (input : Input) (executionID : String)
    (dryRun : Bool) (group : Group) (out : ActionOutcome) (observedAt : Time)
    (releases : List NodeRelease) (recordErr : Option String) :
    Within BookkeepingAsks (recordReleases context input executionID dryRun group out
      observedAt releases recordErr) fun _ => True := by
  induction releases generalizing recordErr with
  | nil => exact within_pure trivial
  | cons release rest ih =>
    unfold recordReleases
    split
    · exact ih _
    · refine asks_newID.bind fun releaseID _ => ?_
      refine (within_asked trivial).bind fun releaseErr _ => ?_
      refine asks_newID.bind fun handoffID _ => ?_
      exact (within_asked trivial).bind fun handoffErr _ => ih _

theorem asks_recordReleasesOf (config : GroupRunConfig) (attempt : GroupAttempt)
    (completedAt : Time) :
    Within BookkeepingAsks (config.recordReleasesOf attempt completedAt) fun _ => True := by
  unfold GroupRunConfig.recordReleasesOf recordNodeReleases
  split
  · exact Within.bind (asks_recordReleases _ _ _ _ _ _ _ _ _) fun recordErr _ =>
      within_pure trivial
  · exact within_pure trivial

theorem asks_concludeGroup (config : GroupRunConfig) (attempt : GroupAttempt)
    (startedAt completedAt : Time) (groupErr : Option String) :
    Within BookkeepingAsks (config.concludeGroup attempt startedAt completedAt groupErr)
      fun result => ∃ nodeReleases recordErr, result =
        groupVerdict attempt nodeReleases recordErr := by
  unfold GroupRunConfig.concludeGroup
  refine asks_newID.bind fun attemptID _ => ?_
  refine (within_asked trivial).bind fun attemptErr _ => ?_
  refine (asks_recordReleasesOf config attempt completedAt).bind fun releases _ => ?_
  exact within_pure ⟨_, _, rfl⟩

section

variable (executor : Executor) (config : GroupRunConfig)

theorem asks_dispatchAction (context : Context) (attempt : GroupAttempt) :
    Within (CallAsks config.dryRun config.waveIndex)
      (executor.dispatchAction config context attempt)
      fun dispatched => dispatched.group = attempt.group := by
  unfold Executor.dispatchAction
  split
  · rename_i hrun
    split
    · have hhook : config.dryRun = true → attempt.group.action = actionRunHook := by
        intro hdry
        simpa [hdry] using hrun.1
      exact Within.bind (within_request ⟨rfl, rfl, hhook⟩ fun _ => trivial)
        fun reply _ => within_pure rfl
    · exact within_pure rfl
  · exact within_pure rfl

theorem asks_attemptGroup (group : Group) :
    Within (CallAsks config.dryRun config.waveIndex) (executor.attemptGroup config group)
      fun attempt => Confirmed group attempt.group := by
  have hany : ∀ context, AnyContext context := fun _ => trivial
  unfold Executor.attemptGroup
  dsimp only
  refine ((asks_confirmReleases (hany _) executor config.dryRun group).mono
    callAsks_of_attemptAsks).bind fun confirmed hc => ?_
  refine ((asks_holdWait (hany _) config.dryRun (config.effectiveWait group) confirmed).mono
    callAsks_of_attemptAsks).bind fun held hheld => ?_
  refine ((asks_checkContext (hany _) held).mono callAsks_of_attemptAsks).bind
    fun checked hchecked => ?_
  refine (asks_dispatchAction executor config _ checked).bind fun dispatched hd => ?_
  refine ((asks_checkTimeout (hany _) (hany _) _ dispatched).mono callAsks_of_attemptAsks).imp
    fun attempt ha => ?_
  rw [ha, hd, hchecked, hheld]
  exact hc

theorem asks_executeGroup (group : Group) :
    Within (WaveAsks config.dryRun config.waveIndex) (executor.executeGroup config group) fun _ =>
      True := by
  unfold Executor.executeGroup
  refine (asks_now.mono waveAsks_of_bookkeepingAsks).bind fun startedAt _ => ?_
  refine ((asks_attemptGroup executor config group).mono waveAsks_of_callAsks).bind fun attempt _ =>
    ?_
  refine (asks_now.mono waveAsks_of_bookkeepingAsks).bind fun completedAt _ => ?_
  refine (asks_newID.mono waveAsks_of_bookkeepingAsks).bind fun groupRecordID _ => ?_
  refine (within_asked trivial).bind fun groupErr _ => ?_
  exact ((asks_concludeGroup config attempt startedAt completedAt groupErr).mono
    waveAsks_of_bookkeepingAsks).imp fun _ _ => trivial

end

theorem within_tierPreempted {asks : Request → Prop} {parentContext actionContext : Context}
    (hparent : asks (.contextErr parentContext)) (haction : asks (.contextErr actionContext))
    (policy : TierOverrunPolicy) (lowerTierDue : Bool) :
    Within asks (tierPreempted parentContext actionContext policy lowerTierDue) fun _ => True := by
  unfold tierPreempted
  split
  · refine (within_asked hparent).bind fun parentErr _ => ?_
    cases parentErr with
    | some err => exact within_pure trivial
    | none =>
      exact (within_asked haction).bind fun err _ =>
        within_pure trivial
  · exact within_pure trivial

theorem asks_tierPreempted {contexts : Context → Prop} {parentContext actionContext : Context}
    (hparent : contexts parentContext) (haction : contexts actionContext)
    (policy : TierOverrunPolicy) (lowerTierDue : Bool) :
    Within (AttemptAsks contexts) (tierPreempted parentContext actionContext policy lowerTierDue)
      fun _ => True :=
  within_tierPreempted hparent haction policy lowerTierDue

theorem asks_lookupTargets (context : Context) (wave : Wave) (group : Group) {name : String}
    (budget : Adaptive.TimingBudget) {names : List String} (hname : name ∈ names) :
    Within (LookupAsks context names) (lookupTargets context wave group name budget)
      fun _ => True := by
  unfold lookupTargets
  dsimp only
  refine (within_asked ⟨name, hname, _, rfl⟩).bind fun reply _ => ?_
  cases reply with
  | error error => exact within_pure trivial
  | ok targets =>
    refine (within_asked (.inr rfl)).bind fun error _ => ?_
    cases error <;> exact within_pure trivial

/-- Every group looked up is a declared one, with its own targets. -/
def ResolvedFrom (groups : List Group) (resolved : ResolvedGroups) : Prop :=
  ∀ entry ∈ resolved, ∃ targets,
    entry.2 = { groupNamed groups entry.1 with selectedTargets := targets }

section

variable {groups : List Group} {resolved : ResolvedGroups} (h : ResolvedFrom groups resolved)
include h

theorem ResolvedFrom.cons (name : String) (targets : List Target) :
    ResolvedFrom groups
      ((name, { groupNamed groups name with selectedTargets := targets }) :: resolved) := by
  exact List.forall_mem_cons.mpr ⟨⟨targets, rfl⟩, h⟩

theorem ResolvedFrom.declared {name : String} (haction : (resolved.get name).action ≠ "") :
    ∃ declared ∈ groups, declared.name = (resolved.get name).name ∧
      declared.action = (resolved.get name).action ∧
      declared.nodeReleases = (resolved.get name).nodeReleases := by
  unfold ResolvedGroups.get at haction ⊢
  cases hl : resolved.lookup name with
  | none =>
    rw [hl] at haction
    exact absurd rfl haction
  | some group =>
    obtain ⟨front, back, hs, _⟩ := List.lookup_eq_some_iff.mp hl
    obtain ⟨targets, hg⟩ := h (name, group) (by simp [hs])
    simp only at hg
    rw [hl, Option.getD_some, hg] at haction
    rw [Option.getD_some, hg]
    unfold groupNamed at haction ⊢
    cases hfind : groups.find? (·.name = name) with
    | none =>
      rw [hfind] at haction
      exact absurd rfl haction
    | some declared => exact ⟨declared, List.mem_of_find?_eq_some hfind, rfl, rfl, rfl⟩

theorem ResolvedFrom.keeps {name : String} (hname : name ∈ resolved.map Prod.fst) :
    Keeps (groupNamed groups name) (resolved.get name) := by
  unfold ResolvedGroups.get
  cases hl : resolved.lookup name with
  | none =>
    obtain ⟨entry, hmem, rfl⟩ := List.mem_map.mp hname
    exact absurd (List.lookup_eq_none_iff.mp hl entry hmem) (by simp)
  | some group =>
    obtain ⟨front, back, hs, _⟩ := List.lookup_eq_some_iff.mp hl
    obtain ⟨targets, hg⟩ := h (name, group) (by simp [hs])
    simp only at hg
    rw [Option.getD_some, hg]
    exact ⟨rfl, rfl⟩

end

theorem asks_resolveNames (executor : Executor) (context : Context) (groups : List Group)
    (wave : Wave) (budget : Adaptive.TimingBudget) {names : List String} (remaining : List String)
    (hnames : remaining ⊆ names) (resolved : ResolvedGroups) :
    Within (LookupAsks context names)
      (executor.resolveNames context groups wave budget remaining resolved)
      fun result => ResolvedFrom groups resolved → ∀ final, result = .ok final →
        ResolvedFrom groups final ∧
          final.map Prod.fst = remaining.reverse ++ resolved.map Prod.fst := by
  induction remaining generalizing resolved with
  | nil =>
    apply within_pure
    rintro hresolved final ⟨⟩
    exact ⟨hresolved, rfl⟩
  | cons name rest ih =>
    obtain ⟨hname, hrest⟩ := List.cons_subset.mp hnames
    have hlater : ∀ targets, Within (LookupAsks context names)
      (executor.resolveNames context groups wave
        budget rest
          ((name, { groupNamed groups name with selectedTargets := targets }) :: resolved))
        fun result => ResolvedFrom groups resolved → ∀ final, result = .ok final →
          ResolvedFrom groups final ∧
            final.map Prod.fst = (name :: rest).reverse ++ resolved.map Prod.fst := by
      refine fun targets => (ih hrest _).imp fun result h hresolved final hf => ?_
      obtain ⟨hfrom, hall⟩ := h (hresolved.cons name targets) final hf
      exact ⟨hfrom, by simpa using hall⟩
    unfold Executor.resolveNames
    refine (within_asked (.inl rfl)).bind fun error _ => ?_
    cases error with
    | some error => exact within_pure nofun
    | none =>
      dsimp only
      split
      · refine (asks_lookupTargets context wave _ budget hname).bind fun reply _ => ?_
        cases reply with
        | error error => exact within_pure nofun
        | ok targets => exact hlater targets
      · exact hlater _

def Reports (progress : Progress) : Request → Prop
  | .report reported => reported = progress
  | _ => False

theorem asks_reportProgress (executor : Executor) (progress : Progress) :
    Within (Reports progress) (executor.reportProgress progress) fun _ => True := by
  unfold Executor.reportProgress
  split
  · exact within_asked rfl
  · exact within_pure trivial

theorem waveAsks_of_reports {groups actionAttempts nodeReleases : Nat} (request : Request)
    (h : Reports (.groups groups actionAttempts nodeReleases) request) :
    WaveAsks dryRun waveIndex request := by
  cases request with
  | report progress =>
    rw [show progress = _ from h]
    trivial
  | _ => exact h.elim

section

variable (executor : Executor) (config : WaveRunConfig) (wave : Wave) (state : WaveAdaptiveState)

theorem asks_runGroups (resolved : ResolvedGroups) (names : List String)
    (run : WaveExecutionResult) :
    Within (WaveAsks config.dryRun wave.index)
      (executor.runGroups config wave state resolved names run) fun _ => True := by
  have hany : ∀ context, AnyContext context := fun _ => trivial
  induction names generalizing run with
  | nil => exact within_pure trivial
  | cons name rest ih =>
    unfold Executor.runGroups
    dsimp only
    refine (asks_now.mono waveAsks_of_bookkeepingAsks).bind fun time _ => ?_
    refine Within.bind (asks_executeGroup executor _ _) ?_
    rintro ⟨result, groupErr⟩ _
    refine ((asks_reportProgress executor _).mono waveAsks_of_reports).bind fun _ _ => ?_
    refine ((asks_tierPreempted (hany _) (hany _) _ _).mono fun request h =>
      waveAsks_of_callAsks request (callAsks_of_attemptAsks request h)).bind fun preempted _ => ?_
    cases preempted with
    | true => exact within_pure trivial
    | false =>
      cases groupErr with
      | some err => exact within_pure trivial
      | none => exact ih _

theorem asks_runResolved (run : WaveExecutionResult)
    (resolution : Except ResolutionFailure ResolvedGroups) :
    Within (WaveAsks config.dryRun wave.index)
      (executor.runResolved config wave state run resolution) fun _ => True := by
  cases resolution with
  | error failure => exact within_pure trivial
  | ok resolved => exact asks_runGroups executor config wave state resolved _ run

end

def StartsWave : Request → Prop
  | .record _ (.wave entry) => entry.phase = .running
  | _ => False

theorem wavePhase_ne_running (run : WaveExecutionResult) (preempted : Bool) :
    wavePhase run preempted ≠ .running := by
  unfold wavePhase
  split
  · simp
  · split <;> simp

theorem asks_runWave (executor : Executor) (config : WaveRunConfig) (wave : Wave)
    (state : WaveAdaptiveState) :
    Within (fun request => WaveAsks config.dryRun wave.index request ∨ StartsWave request)
      (executor.runWave config wave state) fun _ => True := by
  have hwave : ∀ request, WaveAsks config.dryRun wave.index request →
      WaveAsks config.dryRun wave.index request ∨ StartsWave request := fun _ h => .inl h
  have hbooks : ∀ request, BookkeepingAsks request →
      WaveAsks config.dryRun wave.index request ∨ StartsWave request :=
    fun request h => .inl (waveAsks_of_bookkeepingAsks request h)
  unfold Executor.runWave Executor.resolveWaveTargets
  refine (asks_newID.mono hbooks).bind fun waveRecordID _ => ?_
  refine (within_asked (.inr rfl)).bind fun startErr _ => ?_
  refine ((asks_resolveNames executor _ _ wave state.budget _ (List.Subset.refl _) []).mono
    fun request h =>
    hwave request (waveAsks_of_lookupAsks request h)).bind fun resolution _ => ?_
  refine ((asks_runResolved executor config wave state _ resolution).mono hwave).bind ?_
  rintro ⟨run, preempted⟩ _
  refine (asks_now.mono hbooks).bind fun completedAt _ => ?_
  exact Within.bind (within_request (.inl (wavePhase_ne_running run preempted)) fun _ => trivial)
    fun endErr _ => within_pure trivial

def ClosingAsks : Request → Prop
  | .now => True
  | .contextErr context => context = .execution
  | .record _ (.execution _) => True
  | _ => False

theorem asks_contextErr_execution : Within ClosingAsks (contextErr .execution) fun _ => True :=
  within_asked rfl

def Closes (result : Result) (outcome : Result × Option String) : Prop :=
  ∃ phase recordError, outcome.1 = { result with phase := phase, recordError := recordError }

section

variable (run : ExecutionRun) (result : Result)

theorem asks_recordAborted (error : Option String) (failedGroup : String)
    (recordErr : Option String) :
    Within ClosingAsks (run.recordAborted result error failedGroup recordErr) fun out =>
      Closes result out ∧ out.1.phase = some .aborted ∧ out.2 = error := by
  unfold ExecutionRun.recordAborted
  refine asks_contextErr_execution.bind fun cancelled _ => ?_
  refine (within_asked trivial).bind fun completedAt _ => ?_
  refine (within_asked trivial).bind fun abortErr _ => ?_
  exact within_pure ⟨⟨_, _, rfl⟩, rfl, rfl⟩

theorem asks_recordCompletion : Within ClosingAsks (run.recordCompletion result) fun _ => True := by
  unfold ExecutionRun.recordCompletion
  refine (within_asked trivial).bind fun completedAt _ => ?_
  exact within_asked trivial

theorem asks_recordObservationFailure (cancelled : Bool) (err recordErr : Option String) :
    Within ClosingAsks (run.recordObservationFailure result cancelled err recordErr)
      (Closes result) := by
  unfold ExecutionRun.recordObservationFailure
  split
  · exact (asks_recordAborted run result err "" recordErr).imp fun out h => h.1
  · exact within_pure ⟨_, _, rfl⟩

theorem asks_finishExecution (recordErr : Option String) :
    Within ClosingAsks (run.finishExecution result recordErr) (Closes result) := by
  unfold ExecutionRun.finishExecution
  refine asks_contextErr_execution.bind fun err _ => ?_
  cases err with
  | some err => exact (asks_recordAborted run result _ "" recordErr).imp fun out h => h.1
  | none =>
    refine (asks_recordCompletion run result).bind fun completionErr _ => ?_
    exact within_pure ⟨result.phase, _, rfl⟩

end

structure Prepared (input : Input) (run : ExecutionRun) : Prop where
  groups : run.groups = input.groups
  dryRun : run.dryRun = effectiveDryRun input
  tierPolicy : run.tierPolicy = effectiveTierOverrunPolicy input.tierOverrunPolicy
  input : run.input = input

theorem asks_executionDefaults (input : Input) :
    Within ClockAsks (executionDefaults input input.groups) (Prepared input) := by
  have hid : Within ClockAsks (orNewID input.executionID) fun _ => True := by
    unfold orNewID
    split
    · exact ticks_newID
    · exact within_pure trivial
  have hnow : Within ClockAsks (orNow input.observedAt) fun _ => True := by
    unfold orNow
    split
    · exact ticks_now
    · exact within_pure trivial
  unfold executionDefaults
  refine hid.bind fun executionID _ => ?_
  exact hnow.bind fun observedAt _ => within_pure ⟨rfl, rfl, rfl, rfl⟩

end NutOperator.Execution
