import NutOperator.Effects.Monitor
import NutOperator.Execution.Evidence

/-! The wave loop as its exchanges show it. A ghost state counts the dispatched
waves, knows which launched ones have not been received, whether a finished wave
failed and whether approval was lost. Every dispatch and every receipt of the
loop is checked against it. -/
namespace NutOperator.Execution

open Effects List

structure LoopState where
  dispatched : Nat := 0
  /-- Slots of the launched waves whose results have not been received. -/
  running : List Nat := []
  waveOpen : Bool := false
  dryRun : Bool := false
  /-- A group of that wave failed, and no deadline was found exceeded since. -/
  stopped : Bool := false
  failed : Bool := false
  revoked : Bool := false
deriving Repr, DecidableEq

namespace LoopState

def launch (state : LoopState) (slot : Nat) : LoopState :=
  { state with dispatched := state.dispatched + 1, running := state.running ++ [slot] }

def receive (state : LoopState) (slot : Nat) (run : WaveExecutionResult) : LoopState :=
  { state with
    running := state.running.erase slot, failed := state.failed || run.err.isSome }

def openWave (state : LoopState) (dryRun : Bool) : LoopState :=
  { state with
    dispatched := state.dispatched + 1, waveOpen := true, dryRun := dryRun, stopped := false }

def closeWave (state : LoopState) (failed : Bool) : LoopState :=
  { state with waveOpen := false, failed := state.failed || failed }

end LoopState

def dryRunOf (details : Details) : Bool :=
  match details.lookup "dryRun" with
  | some (.flag dryRun) => dryRun
  | _ => false

def granted : Except String Bool → Bool
  | .ok approved => approved
  | .error _ => false

def WaveSignal.outcome : WaveSignal → Option WaveExecutionResult
  | .finished run => some run
  | _ => none

def loopAdvance (state : LoopState) : Exchange Reply → LoopState
  | ⟨.launchWave slot _ _ _, _⟩ => state.launch slot
  | ⟨.selectWave slot _, (signal : WaveSignal)⟩ =>
    match signal.outcome with
    | some run => state.receive slot run
    | none => state
  | ⟨.receiveWave slot, (run : WaveExecutionResult)⟩ => state.receive slot run
  | ⟨.approve _, (reply : Except String Bool)⟩ =>
    { state with revoked := state.revoked || !granted reply }
  | ⟨.record _ (.wave entry), _⟩ =>
    if entry.phase = .running then state.openWave (dryRunOf entry.details)
    else state.closeWave (decide (entry.phase = .failed))
  | ⟨.record _ (.group entry), _⟩ => { state with stopped := state.stopped || decide (Stops entry) }
  | ⟨.contextErr _, (error : Option ContextError)⟩ =>
    if error = some .deadlineExceeded then { state with stopped := false } else state
  | _ => state

def awaitsPending (groups : List Group) (wave : Wave) (later : List Wave) : Bool :=
  wave.communicationBarrier || terminalHandoffWave groups wave later

structure Dispatching (input : Input) (state : LoopState) (wave : Wave) (later : List Wave)
    (dryRun : Bool) : Prop where
  position : input.waves.drop state.dispatched = wave :: later
  closed : state.waveOpen = false
  unfailed : state.failed = false
  dryRun : dryRun = (effectiveDryRun input || state.revoked)
  drained : awaitsPending input.groups wave later = true → state.running = []

def loopAllowed (input : Input) (state : LoopState) : Exchange Reply → Prop
  | ⟨.launchWave slot config wave _, _⟩ => slot = state.dispatched ∧
      ∃ run later window waveStart, Prepared input run ∧ run.tierPolicy = .overlap ∧
        config = run.waveRun wave later config.dryRun window waveStart ∧
        config.lowerTierDue = true ∧ Dispatching input state wave later config.dryRun
  | ⟨.selectWave slot _, _⟩ => slot ∈ state.running
  | ⟨.receiveWave slot, _⟩ => slot ∈ state.running
  | ⟨.approve _, _⟩ => state.waveOpen = false ∧ effectiveDryRun input = false ∧
      state.revoked = false
  | ⟨.record _ (.wave entry), _⟩ =>
    if entry.phase = .running then
      ∃ wave later, entry.waveIndex = wave.index ∧ entry.groupNames = wave.groups ∧
        Dispatching input state wave later (dryRunOf entry.details)
    else state.waveOpen = true ∧ (state.stopped = true → entry.phase = .failed)
  | ⟨.record _ (.group _), _⟩ => state.waveOpen = true
  | ⟨.runAction _ action, _⟩ => state.waveOpen = true ∧ action.dryRun = state.dryRun ∧
      (state.dryRun = true → action.group.action = actionRunHook)
  | _ => True

def loop (input : Input) : Monitor Reply LoopState where
  advance := loopAdvance
  allowed := loopAllowed input

structure Dispatched where
  waveIndex : Int
  groupNames : List String
  dryRun : Bool
deriving Repr, DecidableEq

def Dispatched.label (dispatched : Dispatched) : Int × List String :=
  (dispatched.waveIndex, dispatched.groupNames)

def Wave.label (wave : Wave) : Int × List String := (wave.index, wave.groups)

def dispatchOf : Exchange Reply → Option Dispatched
  | ⟨.launchWave _ config wave _, _⟩ =>
    some { waveIndex := wave.index, groupNames := wave.groups, dryRun := config.dryRun }
  | ⟨.record _ (.wave entry), _⟩ =>
    if entry.phase = .running then
      some
        { waveIndex := entry.waveIndex, groupNames := entry.groupNames
          dryRun := dryRunOf entry.details }
    else none
  | _ => none

def launchOf : Exchange Reply → Option Nat
  | ⟨.launchWave slot _ _ _, _⟩ => some slot
  | _ => none

def receivedOf : Exchange Reply → Option (Nat × WaveExecutionResult)
  | ⟨.selectWave slot _, (signal : WaveSignal)⟩ => signal.outcome.map fun run => (slot, run)
  | ⟨.receiveWave slot, (run : WaveExecutionResult)⟩ => some (slot, run)
  | _ => none

def refusalOf : Exchange Reply → Bool
  | ⟨.approve _, (reply : Except String Bool)⟩ => !granted reply
  | _ => false

section

variable (state : LoopState) (exchange : Exchange Reply)

def failureOf : Exchange Reply → Option Int
  | ⟨.record _ (.wave entry), _⟩ => if entry.phase = .failed then some entry.waveIndex else none
  | _ => none

theorem loopAdvance_eq :
    (loopAdvance state exchange).dispatched =
    state.dispatched + (dispatchOf exchange).toList.length ∧
      (loopAdvance state exchange).running =
        (receivedOf exchange).elim (state.running ++ (launchOf exchange).toList)
          (fun received => state.running.erase received.1) ∧
      (loopAdvance state exchange).revoked = (state.revoked || refusalOf exchange) ∧
      (loopAdvance state exchange).failed = (state.failed || (failureOf exchange).isSome ||
        (receivedOf exchange).any (·.2.err.isSome)) := by
  obtain ⟨request, reply⟩ := exchange
  cases request with
  | selectWave slot dueAfter =>
    cases reply <;> simp [loopAdvance, dispatchOf, receivedOf, launchOf, refusalOf, failureOf,
      WaveSignal.outcome, LoopState.receive]
  | contextErr context =>
    simp only [loopAdvance]
    split <;> simp [dispatchOf, receivedOf, launchOf, refusalOf, failureOf]
  | record context entry =>
    cases entry with
    | wave entry =>
      by_cases hr : entry.phase = .running
      · simp [loopAdvance, dispatchOf, receivedOf, launchOf, refusalOf, failureOf, hr,
          LoopState.openWave]
      · by_cases hfail : entry.phase = .failed <;> simp [loopAdvance, dispatchOf, receivedOf,
          launchOf, refusalOf, failureOf, hr, hfail, LoopState.closeWave]
    | _ => simp [loopAdvance, dispatchOf, receivedOf, launchOf, refusalOf, failureOf]
  | _ => simp [loopAdvance, dispatchOf, receivedOf, launchOf, refusalOf, failureOf,
      LoopState.launch, LoopState.receive]

theorem failed_loopAdvance (h : (loopAdvance state exchange).failed = false) :
    state.failed = false ∧ failureOf exchange = none ∧
      ∀ received, receivedOf exchange = some received → received.2.err = none := by
  rw [(loopAdvance_eq state exchange).2.2.2, Bool.or_eq_false_iff, Bool.or_eq_false_iff] at h
  refine ⟨h.1.1, by simpa using h.1.2, fun received hr => ?_⟩
  simpa [hr] using h.2

variable {state exchange}

theorem dispatchOf_of_launchOf {slot : Nat} (hlaunch : launchOf exchange = some slot) :
    (∃ dispatched, dispatchOf exchange = some dispatched) ∧ receivedOf exchange = none := by
  obtain ⟨request, reply⟩ := exchange
  cases request with
  | launchWave other config wave waveState => exact ⟨⟨_, rfl⟩, rfl⟩
  | _ => cases hlaunch

variable {input : Input} (h : loopAllowed input state exchange)
include h

theorem dispatching_of_allowed {dispatched : Dispatched}
    (hdispatch : dispatchOf exchange = some dispatched) :
    ∃ wave later, dispatched.waveIndex = wave.index ∧ dispatched.groupNames = wave.groups ∧
      Dispatching input state wave later dispatched.dryRun := by
  obtain ⟨request, reply⟩ := exchange
  cases request with
  | launchWave slot config wave waveState =>
    cases hdispatch
    obtain ⟨_, run, later, _, _, _, _, _, _, hd⟩ := h
    exact ⟨wave, later, rfl, rfl, hd⟩
  | record context entry =>
    cases entry with
    | wave entry =>
      by_cases hp : entry.phase = .running
      · simp only [dispatchOf, hp, if_true] at hdispatch
        simp only [loopAllowed, hp, if_true] at h
        cases hdispatch
        exact h
      · simp [dispatchOf, hp] at hdispatch
    | _ => cases hdispatch
  | _ => cases hdispatch

theorem open_of_advance (hopen : (loopAdvance state exchange).waveOpen = true) :
    refusalOf exchange = false ∧ ((∃ dispatched, dispatchOf exchange = some dispatched ∧
          (loopAdvance state exchange).dryRun = dispatched.dryRun) ∨
        (dispatchOf exchange = none ∧ state.waveOpen = true ∧
          (loopAdvance state exchange).dryRun = state.dryRun)) := by
  obtain ⟨request, reply⟩ := exchange
  cases request with
  | approve context =>
    have hc : state.waveOpen = false := h.1
    exact absurd hopen (by simp [loopAdvance, hc])
  | launchWave slot config wave waveState =>
    obtain ⟨_, run, later, _, _, _, _, _, _, hd⟩ := h
    exact absurd hopen (by simp [loopAdvance, LoopState.launch, hd.closed])
  | selectWave slot dueAfter => cases reply <;> exact ⟨rfl, .inr ⟨rfl, hopen, rfl⟩⟩
  | contextErr context =>
    simp only [loopAdvance] at hopen ⊢
    refine ⟨rfl, .inr ⟨rfl, ?_, ?_⟩⟩
    · split at hopen <;> exact hopen
    · split <;> rfl
  | record context entry =>
    cases entry with
    | wave entry =>
      simp only [loopAdvance] at hopen ⊢
      split at hopen
      · rename_i hr
        refine ⟨rfl, .inl ⟨_, if_pos hr, ?_⟩⟩
        rw [if_pos hr]
        rfl
      · cases hopen
    | _ => exact ⟨rfl, .inr ⟨rfl, hopen, rfl⟩⟩
  | _ => exact ⟨rfl, .inr ⟨rfl, hopen, rfl⟩⟩

theorem slot_eq_of_allowed {slot : Nat} (hlaunch : launchOf exchange = some slot) :
    slot = state.dispatched := by
  obtain ⟨request, reply⟩ := exchange
  cases request with
  | launchWave other config wave waveState =>
    cases hlaunch
    exact h.1
  | _ => cases hlaunch

theorem mem_running_of_allowed {received : Nat × WaveExecutionResult}
    (hreceived : receivedOf exchange = some received) : received.1 ∈ state.running := by
  obtain ⟨request, reply⟩ := exchange
  cases request with
  | selectWave slot dueAfter =>
    cases reply with
    | finished run =>
      cases hreceived
      exact h
    | _ => cases hreceived
  | receiveWave slot =>
    cases hreceived
    exact h
  | _ => cases hreceived

end

def Unwatched : Request → Prop
  | .now => True
  | .newID => True
  | .observe _ => True
  | .resolveTargets _ _ => True
  | .refreshNodeRelease _ _ => True
  | .sleep _ _ => True
  | .report _ => True
  | .cancelExecution => True
  | .record _ (.execution _) => True
  | .record _ (.actionAttempt _) => True
  | .record _ (.nodeRelease _) => True
  | .record _ (.nodeSignalHandoff _) => True
  | _ => False

theorem keeps_unwatched (input : Input) (pre : LoopState → Prop) (request : Request)
    (h : Unwatched request) : (loop input).Keeps pre request := by
  intro state reply hpre _
  cases request with
  | contextErr context => exact h.elim
  | approve context => exact h.elim
  | runAction context action => exact h.elim
  | launchWave slot config wave waveState => exact h.elim
  | selectWave slot dueAfter => exact h.elim
  | receiveWave slot => exact h.elim
  | record context entry =>
    cases entry with
    | wave entry => exact h.elim
    | group entry => exact h.elim
    | _ => exact ⟨trivial, hpre⟩
  | _ => exact ⟨trivial, hpre⟩

theorem keeps_contextErr (input : Input) {pre : LoopState → Prop}
    (hforgets : ∀ state, pre state → pre { state with stopped := false }) (context : Context) :
    (loop input).Keeps pre (.contextErr context) := by
  intro state reply hpre _
  refine ⟨trivial, ?_⟩
  change pre (loopAdvance state ⟨.contextErr context, reply⟩)
  unfold loopAdvance
  dsimp only
  split
  · exact hforgets state hpre
  · exact hpre

theorem forget_of_unstopped {known : LoopState} (h : known.stopped = false) :
    ∀ state, state = known → { state with stopped := false } = known := by
  rintro state rfl
  rw [← h]

section

variable {input : Input} {known : LoopState}

theorem keeps_bookkeeping (pre : LoopState → Prop) (request : Request)
    (h : BookkeepingAsks request) : (loop input).Keeps pre request := by
  apply keeps_unwatched
  cases request with
  | now => trivial
  | newID => trivial
  | record context entry => cases entry <;> trivial
  | _ => exact h.elim

theorem keeps_lookup {context : Context} {names : List String} (hstopped : known.stopped = false)
    (request : Request) (h : LookupAsks context names request) : (loop input).Keeps (· = known)
    request := by
  cases request with
  | contextErr ctx => exact keeps_contextErr input (forget_of_unstopped hstopped) ctx
  | resolveTargets ctx group => exact keeps_unwatched input _ _ trivial
  | _ => exact h.elim

theorem keeps_call {waveIndex : Int} (hopen : known.waveOpen = true)
    (hstopped : known.stopped = false) (request : Request)
    (h : CallAsks known.dryRun waveIndex request) : (loop input).Keeps (· = known) request := by
  cases request with
  | contextErr context => exact keeps_contextErr input (forget_of_unstopped hstopped) context
  | refreshNodeRelease context release => exact keeps_unwatched input _ _ trivial
  | sleep context dur => exact keeps_unwatched input _ _ trivial
  | runAction context action =>
    rintro state reply rfl _
    exact ⟨⟨hopen, h.1, h.2.2⟩, rfl⟩
  | _ => exact h.elim

theorem keeps_reports {progress : Progress} (pre : LoopState → Prop) (request : Request)
    (h : Reports progress request) : (loop input).Keeps pre request := by
  apply keeps_unwatched
  cases request <;> trivial

theorem triple_contextErr (context : Context) :
    Triple (loop input) (· = known) (contextErr context) fun err state =>
      ∃ stopped, state = { known with stopped := stopped } ∧
        (stopped = true → known.stopped = true ∧ err ≠ some .deadlineExceeded) := by
  apply triple_request
  rintro state err rfl _
  refine ⟨trivial, ?_⟩
  by_cases he : err = some .deadlineExceeded
  · exact ⟨false, by simp [loop, loopAdvance, he], by simp⟩
  · exact ⟨state.stopped, by simp [loop, loopAdvance, he], fun h => ⟨h, he⟩⟩

theorem triple_groupRecord {context : Context} {entry : ShutdownFlowExecutionGroup}
    (hopen : known.waveOpen = true) (hstopped : known.stopped = false) :
    Triple (loop input) (· = known) (record context (.group entry)) fun _ state =>
      state = { known with stopped := decide (Stops entry) } := by
  apply triple_request
  rintro state reply rfl _
  refine ⟨hopen, ?_⟩
  simp [loop, loopAdvance, hstopped]

theorem triple_executeGroup (executor : Executor) (config : GroupRunConfig) (group : Group)
    (hopen : known.waveOpen = true) (hstopped : known.stopped = false)
    (hdry : known.dryRun = config.dryRun) :
    Triple (loop input) (· = known) (executor.executeGroup config group)
      fun result state => state = { known with stopped := result.2.isSome } := by
  unfold Executor.executeGroup
  refine asks_now.triple_bind (keeps_bookkeeping _) fun startedAt _ => ?_
  have ha := asks_attemptGroup executor config group
  rw [← hdry] at ha
  refine ha.triple_bind (keeps_call hopen hstopped) fun attempt _ => ?_
  refine asks_now.triple_bind (keeps_bookkeeping _) fun completedAt _ => ?_
  refine asks_newID.triple_bind (keeps_bookkeeping _) fun recordID _ => ?_
  refine (triple_groupRecord hopen hstopped).bind fun groupErr => ?_
  refine ((asks_concludeGroup config attempt startedAt completedAt groupErr).triple
    (keeps_bookkeeping _)).imp ?_
  rintro result state ⟨⟨nodeReleases, recordErr, rfl⟩, rfl⟩
  have hv := groupVerdict_eq_none_iff config group attempt startedAt completedAt recordID
    nodeReleases recordErr
  congr 1
  rw [Bool.eq_iff_iff, decide_eq_true_iff, Option.isSome_iff_ne_none, Ne, hv, not_not]

/-- A stopped group is forgotten exactly when its tier is taken as preempted, or
when the execution's own deadline is. -/
theorem triple_tierPreempted (actionContext : Context) (policy : TierOverrunPolicy)
    (lowerTierDue : Bool) :
    Triple (loop input) (· = known)
      (tierPreempted .execution actionContext policy lowerTierDue) fun preempted state =>
        ∃ stopped, state = { known with stopped := stopped } ∧
          (stopped = true → known.stopped = true ∧ preempted = false) := by
  have hsame : ∃ stopped, known = { known with stopped := stopped } ∧
      (stopped = true → known.stopped = true ∧ false = false) :=
    ⟨known.stopped, rfl, fun h => ⟨h, rfl⟩⟩
  unfold tierPreempted
  split
  · refine (triple_contextErr .execution).bind fun parentErr => ?_
    cases parentErr with
    | some err =>
      apply triple_pure
      rintro state ⟨stopped, rfl, hs⟩
      exact ⟨stopped, rfl, fun h => ⟨(hs h).1, rfl⟩⟩
    | none =>
      apply triple_of_forall
      rintro state ⟨stopped, rfl, hs⟩
      refine (triple_contextErr actionContext).bind fun err => ?_
      apply triple_pure
      rintro state ⟨later, rfl, hl⟩
      refine ⟨later, rfl, fun h => ⟨(hs (hl h).1).1, ?_⟩⟩
      simpa using (hl h).2
  · exact triple_pure fun state h => h ▸ hsame

/-- What a wave's result says about the groups that failed in it. -/
def Reflects (known : LoopState) (run : WaveExecutionResult) (preempted : Bool)
    (state : LoopState) : Prop :=
  (preempted = true → run.err = none) ∧
    ∃ stopped, state = { known with stopped := stopped } ∧ (stopped = true → run.err.isSome)

variable {run : WaveExecutionResult}

theorem triple_runGroups (executor : Executor) (config : WaveRunConfig) (wave : Wave)
    (waveState : WaveAdaptiveState) (resolved : ResolvedGroups) (names : List String)
    (hrun : run.err = none) (hopen : known.waveOpen = true) (hstopped : known.stopped = false)
    (hdry : known.dryRun = config.dryRun) :
    Triple (loop input) (· = known) (executor.runGroups config wave waveState resolved names run)
      fun result state => Reflects known result.1 result.2 state := by
  induction names generalizing run with
  | nil =>
    exact triple_return ⟨fun h => by simp at h, known.stopped, rfl, fun h =>
      by simp [hstopped] at h⟩
  | cons name rest ih =>
    unfold Executor.runGroups
    dsimp only
    refine asks_now.triple_bind (keeps_bookkeeping _) fun time _ => ?_
    refine (triple_executeGroup executor (config.groupRun wave waveState _) _ hopen hstopped
      hdry).bind ?_
    rintro ⟨result, groupErr⟩
    dsimp only
    refine (asks_reportProgress executor _).triple_bind (keeps_reports _) fun _ _ => ?_
    refine (triple_tierPreempted _ _ _).bind fun preempted => ?_
    apply triple_of_forall
    rintro state ⟨stopped, rfl, hlater⟩
    cases preempted with
    | true =>
      exact triple_return ⟨fun _ => hrun, stopped, rfl, fun h =>
        by simp at hlater; simp [hlater] at h⟩
    | false =>
      cases groupErr with
      | some err =>
        exact triple_return ⟨fun h => by simp at h, stopped, rfl, fun _ => rfl⟩
      | none =>
        have hc : stopped = false := by
          by_contra h
          simpa using (hlater (by simpa using h)).1
        subst hc
        refine Triple.of_pre (ih hrun) ?_
        rintro state rfl
        rw [← hstopped]

theorem lookup_mergeDetails {base extra : Details} {key : String} {value : Detail}
    (h : extra.lookup key = some value) : (mergeDetails base extra).lookup key = some value := by
  have hmem : (key, value) ∈ extra := by
    obtain ⟨front, back, hs, _⟩ := lookup_eq_some_iff.mp h
    rw [hs]
    exact mem_append_right _ mem_cons_self
  have hnone : (base.filter fun entry => !extra.any fun other => other.1 == entry.1).lookup key
      = none := by
    rw [lookup_eq_none_iff]
    intro entry he
    have hkept := (mem_filter.mp he).2
    simp only [Bool.not_eq_true', any_eq_false] at hkept
    simpa using hkept (key, value) hmem
  rw [mergeDetails, lookup_append, hnone, Option.none_or, h]

theorem wavePhase_eq_failed_iff {preempted : Bool} (h : preempted = true → run.err = none) :
    wavePhase run preempted = .failed ↔ run.err.isSome = true := by
  unfold wavePhase
  cases preempted with
  | true => simp [h rfl]
  | false => cases hrun : run.err <;> simp

theorem triple_runResolved (executor : Executor) (config : WaveRunConfig) (wave : Wave)
    (waveState : WaveAdaptiveState) (hrun : run.err = none)
    (resolution : Except ResolutionFailure ResolvedGroups) (hopen : known.waveOpen = true)
    (hstopped : known.stopped = false) (hdry : known.dryRun = config.dryRun) :
    Triple (loop input) (· = known) (executor.runResolved config wave waveState run resolution)
      fun result state => Reflects known result.1 result.2 state := by
  cases resolution with
  | error failure =>
    exact triple_return ⟨fun h => by simp at h, known.stopped, rfl, fun _ => rfl⟩
  | ok resolved =>
    exact triple_runGroups executor config wave waveState resolved wave.groups hrun hopen
      hstopped hdry

variable {config : WaveRunConfig} {wave : Wave}

theorem triple_endWave {context : Context} {recordID : String} {observedAt : Time}
    {preempted : Bool} {completedAt : Option Time} {details : Details}
    (hopen : known.waveOpen = true)
    (hstopped : known.stopped = true → wavePhase run preempted = .failed) :
    Triple (loop input) (· = known) (record context (.wave
      (waveRecord config wave recordID observedAt (wavePhase run preempted) completedAt details)))
      fun _ state => state = known.closeWave (decide (wavePhase run preempted = .failed)) := by
  apply triple_request
  rintro state reply rfl _
  simp only [loop, loopAllowed, loopAdvance, waveRecord, wavePhase_ne_running, if_false]
  exact ⟨⟨hopen, hstopped⟩, trivial⟩

theorem triple_startWave {later : List Wave} {waveState : WaveAdaptiveState} {recordID : String}
    (hdispatch : Dispatching input known wave later config.dryRun) :
    Triple (loop input) (· = known) (record .execution (.wave
      (waveRecord config wave recordID config.waveStart .running none
        (mergeDetails (adaptiveStateRecord waveState)
          [("dryRun", .flag config.dryRun), ("events", .texts waveState.events)]))))
      fun _ state => state = known.openWave config.dryRun := by
  have hdry : dryRunOf (mergeDetails (adaptiveStateRecord waveState)
      [("dryRun", .flag config.dryRun), ("events", .texts waveState.events)]) =
      config.dryRun := by
    rw [dryRunOf, lookup_mergeDetails rfl]
  apply triple_request
  rintro state reply rfl _
  simp only [loop, loopAllowed, loopAdvance, waveRecord, if_true, hdry]
  exact ⟨⟨wave, later, rfl, rfl, hdispatch⟩, trivial⟩

def LoopState.ranWave (state : LoopState) (dryRun stopped failed : Bool) : LoopState :=
  { state with
    dispatched := state.dispatched + 1, dryRun := dryRun, stopped := stopped
    failed := state.failed || failed }

theorem triple_runWave (executor : Executor) {later : List Wave} (waveState : WaveAdaptiveState)
    (hdispatch : Dispatching input known wave later config.dryRun) :
    Triple (loop input) (· = known) (executor.runWave config wave waveState)
      fun run state => ∃ stopped, state = known.ranWave config.dryRun stopped run.err.isSome := by
  unfold Executor.runWave Executor.resolveWaveTargets
  refine asks_newID.triple_bind (keeps_bookkeeping _) fun recordID _ => ?_
  refine (triple_startWave hdispatch).bind fun startErr => ?_
  refine (asks_resolveNames executor _ _ wave waveState.budget _ (List.Subset.refl _)
    []).triple_bind
    (keeps_lookup rfl) fun resolution _ => ?_
  refine (triple_runResolved executor config wave waveState rfl resolution rfl rfl rfl).bind ?_
  rintro ⟨run, preempted⟩
  dsimp only
  apply triple_of_forall
  rintro state ⟨hp, stopped, rfl, hs⟩
  refine asks_now.triple_bind (keeps_bookkeeping _) fun completedAt _ => ?_
  refine (triple_endWave rfl fun h => (wavePhase_eq_failed_iff hp).mpr (hs h)).bind
    fun endErr => ?_
  apply triple_return
  refine ⟨stopped, ?_⟩
  simp [LoopState.ranWave, LoopState.openWave, LoopState.closeWave,
    wavePhase_eq_failed_iff hp, hdispatch.closed]

end

end NutOperator.Execution
