import NutOperator.Execution.Folding
import NutOperator.Execution.Sequential

/-! Executions under the `Preempt` policy. A tier's deadline ends the groups of its
last wave, and the flow goes on with the next tier. The same deadline also covers
the lookup of that wave's targets, where it is an error. -/
namespace NutOperator.Execution

open Adaptive Effects

structure TierState where
  /-- Index and groups of every wave that was started. -/
  reached : List (Int × List String) := []
  resolving : Bool := false
  timed : Bool := false
  stopped : Bool := false
  cut : Bool := false
deriving Repr, DecidableEq

namespace TierState

def start (state : TierState) (wave : Int × List String) : TierState :=
  { state with
    reached := state.reached ++ [wave], resolving := true, timed := false, stopped := false }

def check (state : TierState) (context : Context) (error : Option ContextError) : TierState :=
  { state with
    timed := state.timed || context matches .tier _
    cut := state.cut || error.isSome }

end TierState

def tierAdvance (state : TierState) : Exchange Reply → TierState
  | ⟨.record _ (.wave entry), _⟩ =>
    if entry.phase = .running then state.start (entry.waveIndex, entry.groupNames) else state
  | ⟨.resolveTargets _ _, (reply : Except String (List Target))⟩ =>
    { state with cut := state.cut || !reply.isOk }
  | ⟨.contextErr context, (error : Option ContextError)⟩ =>
    if state.resolving then state.check context error else state
  | ⟨.now, _⟩ => { state with resolving := false }
  | ⟨.record _ (.group entry), _⟩ => { state with stopped := decide (Stops entry) }
  | _ => state

/-- Power reads succeed, the execution is never cancelled, and a group only fails
under a deadline of its tier that has passed. -/
def tierAssumed (state : TierState) : Exchange Reply → Bool
  | ⟨.observe _, (reply : Except String PowerObservation)⟩ => reply.isOk
  | ⟨.contextErr .execution, (error : Option ContextError)⟩ => error.isNone
  | ⟨.contextErr (.tier _), (error : Option ContextError)⟩ =>
    !state.stopped || decide (error = some .deadlineExceeded)
  | ⟨.record _ (.group entry), _⟩ => !decide (Stops entry) || state.timed
  | _ => true

def tiers : Monitor Reply TierState where
  advance := tierAdvance
  assumed := fun state exchange => tierAssumed state exchange = true
  allowed := fun _ _ => True

def Untimed : Request → Prop
  | .resolveTargets _ _ => False
  | .record _ (.wave _) => False
  | .record _ (.group _) => False
  | _ => True

theorem untimed_of_loopAsks (request : Request) (h : LoopAsks request) : Untimed request := by
  cases request with
  | resolveTargets context group => exact h
  | record context entry => cases entry <;> trivial
  | _ => trivial

theorem untimed_of_bookkeepingAsks (request : Request) (h : BookkeepingAsks request) :
    Untimed request := by
  cases request with
  | resolveTargets context group => exact h
  | record context entry => cases entry <;> trivial
  | _ => trivial

theorem untimed_of_callAsks {dryRun : Bool} {waveIndex : Int} (request : Request)
    (h : CallAsks dryRun waveIndex request) : Untimed request := by
  cases request <;> trivial

theorem untimed_of_reports {progress : Progress} (request : Request)
    (h : Reports progress request) : Untimed request := by
  cases request <;> trivial

theorem keeps_untimed {pre : TierState → Prop}
    (hpre : ∀ state, pre state → state.resolving = false) (request : Request)
    (h : Untimed request) : tiers.Keeps pre request := by
  intro state reply hstate _
  refine ⟨trivial, ?_⟩
  have hr := hpre state hstate
  cases request with
  | now =>
    change pre { state with resolving := false }
    rwa [← hr]
  | contextErr context =>
    change pre (if state.resolving then state.check context reply else state)
    rwa [hr]
  | resolveTargets context group => exact h.elim
  | record context entry =>
    cases entry with
    | wave entry => exact h.elim
    | group entry => exact h.elim
    | _ => exact hstate
  | _ => exact hstate

section

variable {known : TierState}

theorem keeps_known (hresolving : known.resolving = false) (request : Request)
    (h : Untimed request) : tiers.Keeps (· = known) request := by
  refine keeps_untimed ?_ request h
  rintro state rfl
  exact hresolving

theorem triple_settle : Triple tiers (· = known) now fun _ state =>
    state = { known with resolving := false } := by
  apply triple_request
  rintro state time rfl _
  exact ⟨trivial, rfl⟩

theorem triple_executeGroup_tiers (executor : Executor) (config : GroupRunConfig) (group : Group)
    (hresolving : known.resolving = false) :
    Triple tiers (· = known) (executor.executeGroup config group) fun result state =>
      state = { known with stopped := result.2.isSome } ∧
        (result.2.isSome → known.timed = true) := by
  have hk := fun request hasks =>
    keeps_known hresolving request (untimed_of_bookkeepingAsks _ hasks)
  unfold Executor.executeGroup
  refine asks_now.triple_bind hk fun startedAt _ => ?_
  refine ((asks_attemptGroup executor config group).mono untimed_of_callAsks).triple_bind
    (keeps_known hresolving) fun attempt _ => ?_
  refine asks_now.triple_bind hk fun completedAt _ => ?_
  refine asks_newID.triple_bind hk fun recordID _ => ?_
  have hr : Triple tiers (· = known) (record config.recordContext
      (.group (config.groupRecord group attempt startedAt completedAt recordID)))
      fun _ state => state = { known with stopped := decide (Stops
          (config.groupRecord group attempt startedAt completedAt recordID)) } ∧
        (Stops (config.groupRecord group attempt startedAt completedAt recordID) → known.timed =
          true) := by
    apply triple_request
    rintro state reply rfl ha
    exact ⟨trivial, rfl, by simpa [tiers, tierAssumed, or_iff_not_imp_left] using ha⟩
  refine hr.bind fun groupErr => ?_
  apply triple_of_forall
  rintro state ⟨rfl, ht⟩
  refine Triple.imp (((asks_concludeGroup config attempt startedAt completedAt groupErr).mono
    untimed_of_bookkeepingAsks).triple (keeps_known (by exact hresolving))) ?_
  rintro result state ⟨⟨nodeReleases, recordErr, rfl⟩, rfl⟩
  have hv := groupVerdict_eq_none_iff config group attempt startedAt completedAt recordID
    nodeReleases recordErr
  have hs : (groupVerdict attempt nodeReleases recordErr).2.isSome ↔
      Stops (config.groupRecord group attempt startedAt completedAt recordID) := by
    rw [Option.isSome_iff_ne_none, Ne, hv, not_not]
  refine ⟨?_, fun hfail => ht (hs.mp hfail)⟩
  congr 1
  rw [Bool.eq_iff_iff, decide_eq_true_iff, hs]

def Preemptible (actionContext : Context) (policy : TierOverrunPolicy) (lowerTierDue : Bool) :
    Prop :=
  policy = .preempt ∧ lowerTierDue = true ∧ ∃ deadline, actionContext = .tier deadline

theorem triple_tierPreempted_tiers {actionContext : Context} {policy : TierOverrunPolicy}
    {lowerTierDue : Bool} (hresolving : known.resolving = false)
    (htimed : known.stopped = true → Preemptible actionContext policy lowerTierDue) :
    Triple tiers (· = known) (tierPreempted .execution actionContext policy lowerTierDue)
      fun preempted state => state = known ∧ (known.stopped = true → preempted = true) := by
  cases hstopped : known.stopped with
  | false =>
    have hw : Within Untimed (tierPreempted .execution actionContext policy lowerTierDue)
        fun _ => True := within_tierPreempted trivial trivial policy lowerTierDue
    refine (hw.triple (keeps_known hresolving)).imp ?_
    rintro preempted state ⟨_, rfl⟩
    exact ⟨rfl, nofun⟩
  | true =>
    obtain ⟨hpolicy, hlower, deadline, rfl⟩ := htimed hstopped
    have hexecutes : Triple tiers (· = known) (contextErr .execution)
        fun err state => err = none ∧ state = known := by
      apply triple_request
      rintro state err rfl ha
      exact ⟨trivial, Option.isNone_iff_eq_none.mp ha, if_neg (by simp [hresolving])⟩
    have htier : Triple tiers (· = known) (contextErr (.tier deadline))
        fun err state => err = some .deadlineExceeded ∧ state = known := by
      apply triple_request
      rintro state err rfl ha
      refine ⟨trivial, ?_, if_neg (by simp [hresolving])⟩
      simpa [tiers, tierAssumed, hstopped] using ha
    unfold tierPreempted
    rw [if_pos ⟨hpolicy, hlower⟩]
    refine hexecutes.bind fun err => triple_of_fact ?_
    rintro rfl
    refine htier.bind fun err => triple_of_fact ?_
    rintro rfl
    exact triple_pure fun state hs => ⟨hs, by simp⟩

variable {config : WaveRunConfig}

theorem triple_runGroups_tiers (executor : Executor) (wave : Wave) (waveState : WaveAdaptiveState)
    (resolved : ResolvedGroups) (names : List String) {run : WaveExecutionResult}
    (hrun : run.err = none) (hstopped : known.stopped = false) (htimed : known.timed = true →
      Preemptible config.actionContext config.tierPolicy config.lowerTierDue) :
    Triple tiers (· = known) (executor.runGroups config wave waveState resolved names run)
      fun result state => result.1.err = none ∧
        ∃ resolving stopped, state = { known with resolving := resolving, stopped := stopped } := by
  induction names generalizing run known with
  | nil =>
    exact triple_return ⟨hrun, known.resolving, known.stopped, rfl⟩
  | cons name rest ih =>
    unfold Executor.runGroups
    dsimp only
    refine triple_settle.bind fun time => ?_
    refine Triple.bind (triple_executeGroup_tiers executor _ _ rfl) ?_
    rintro ⟨result, groupErr⟩
    dsimp only
    apply triple_of_forall
    rintro state ⟨rfl, hfail⟩
    refine Triple.bind (((asks_reportProgress executor _).mono untimed_of_reports).triple
      (keeps_known rfl)) fun _ => triple_of_fact fun _ => ?_
    refine (triple_tierPreempted_tiers rfl fun hsome => htimed (hfail hsome)).bind fun preempted =>
      ?_
    apply triple_of_forall
    rintro state ⟨rfl, hp⟩
    cases preempted with
    | true =>
      exact triple_return ⟨hrun, _, _, rfl⟩
    | false =>
      cases groupErr with
      | some err => exact absurd (hp rfl) (by simp)
      | none => exact ih hrun rfl htimed

/-- A lookup that is cut short is an error, and nothing else is. -/
def Searched (known : TierState) (context : Context) {ε α : Type} (result : Except ε α)
    (state : TierState) : Prop :=
  ∃ timed, state = { known with timed := timed, cut := known.cut || !result.isOk } ∧
    (timed = true → known.timed = true ∨ ∃ deadline, context = .tier deadline)

theorem triple_check (hresolving : known.resolving = true) (context : Context) :
    Triple tiers (· = known) (contextErr context) fun error state =>
      state = known.check context error := by
  apply triple_request
  rintro state error rfl _
  exact ⟨trivial, if_pos hresolving⟩

theorem timed_of_check {context : Context} {err : Option ContextError}
    (h : (known.check context err).timed = true) :
    known.timed = true ∨ ∃ deadline, context = .tier deadline := by
  rcases Bool.or_eq_true_iff.mp h with ht | hc
  · exact .inl ht
  · cases context with
    | tier deadline => exact .inr ⟨deadline, rfl⟩
    | _ => cases hc

theorem triple_lookupTargets_tiers (hresolving : known.resolving = true) (context : Context)
    (wave : Wave) (group : Group) (name : String) (budget : TimingBudget) :
    Triple tiers (· = known) (lookupTargets context wave group name budget)
      fun result state => state = { known with cut := known.cut || !result.isOk } := by
  have hr : Triple tiers (· = known) (ask (.resolveTargets
      (.lookup context name (lookupTimeout group budget)) group))
      fun (reply : Except String (List Target)) state =>
        state = { known with cut := known.cut || !reply.isOk } := by
    apply triple_request
    rintro state reply rfl _
    exact ⟨trivial, rfl⟩
  unfold lookupTargets
  refine hr.bind fun reply => ?_
  cases reply with
  | error error => exact triple_pure fun _ h => h
  | ok targets =>
    refine Triple.bind (triple_check (by exact hresolving) _) fun error => ?_
    cases error with
    | _ =>
      apply triple_return
      simp [TierState.check, Except.isOk, Except.toBool]

theorem Searched.of_check {context : Context} {ε α : Type} {result : Except ε α}
    {state : TierState} (h : Searched (known.check context none) context result state) :
    Searched known context result state := by
  obtain ⟨timed, rfl, ht⟩ := h
  refine ⟨timed, by simp [TierState.check], fun h => ?_⟩
  exact (ht h).elim timed_of_check .inr

theorem triple_resolveNames_tiers (executor : Executor) (hresolving : known.resolving = true)
    (context : Context) (groups : List Group) (wave : Wave) (budget : TimingBudget)
    (names : List String) (resolved : ResolvedGroups) :
    Triple tiers (· = known) (executor.resolveNames context groups wave budget names resolved)
      (Searched known context) := by
  induction names generalizing resolved known with
  | nil =>
    exact triple_return ⟨known.timed, by simp [Except.isOk, Except.toBool], .inl⟩
  | cons name rest ih =>
    unfold Executor.resolveNames
    refine (triple_check hresolving context).bind fun error => ?_
    cases error with
    | some error =>
      apply triple_return
      exact ⟨(known.check context (some error)).timed,
        by simp [TierState.check, Except.isOk, Except.toBool], timed_of_check⟩
    | none =>
      have hc : (known.check context none).resolving = true := hresolving
      have hrest := fun found => (ih hc found).imp fun _ _ => Searched.of_check
      dsimp only
      split
      · refine (triple_lookupTargets_tiers hc context wave _ name budget).bind fun reply => ?_
        cases reply with
        | error error =>
          exact triple_return (Searched.of_check ⟨_, rfl, .inl⟩)
        | ok targets =>
          refine (hrest _).of_pre ?_
          rintro state rfl
          simp [Except.isOk, Except.toBool]
      · exact hrest _

theorem triple_startRecord {entry : ShutdownFlowExecutionWave} (hphase : entry.phase = .running) :
    Triple tiers (· = known) (record .execution (.wave entry)) fun _ state =>
      state = known.start (entry.waveIndex, entry.groupNames) := by
  apply triple_request
  rintro state reply rfl _
  exact ⟨trivial, if_pos hphase⟩

theorem triple_endRecord {entry : ShutdownFlowExecutionWave} (hphase : entry.phase ≠ .running) :
    Triple tiers (· = known) (record .execution (.wave entry)) fun _ state => state = known := by
  apply triple_request
  rintro state reply rfl _
  exact ⟨trivial, if_neg hphase⟩

theorem triple_runResolved_tiers (executor : Executor) (wave : Wave) (waveState : WaveAdaptiveState)
    {run : WaveExecutionResult} (hrun : run.err = none)
    (resolution : Except ResolutionFailure ResolvedGroups) {cut : Bool}
    (hcut : known.cut = (cut || !resolution.isOk)) (hstopped : known.stopped = false)
    (htimed : known.timed = true → Preemptible config.actionContext config.tierPolicy
      config.lowerTierDue) :
    Triple tiers (· = known) (executor.runResolved config wave waveState run resolution)
      fun result state => state.reached = known.reached ∧ state.cut =
        (cut || result.1.err.isSome) := by
  cases resolution with
  | error failure =>
    exact triple_return ⟨rfl, hcut⟩
  | ok resolved =>
    refine (triple_runGroups_tiers executor wave waveState resolved wave.groups hrun hstopped
      htimed).imp ?_
    rintro result state ⟨herr, resolving, stopped, rfl⟩
    exact ⟨rfl, hcut.trans (by simp [herr, Except.isOk, Except.toBool])⟩

/-- A wave fails exactly when the lookup of its targets is cut short. -/
theorem triple_runWave_tiers (executor : Executor) (wave : Wave) (waveState : WaveAdaptiveState)
    (hresolving : known.resolving = false)
    (hpreempted : ∀ deadline, config.actionContext = .tier deadline →
      Preemptible config.actionContext config.tierPolicy config.lowerTierDue) :
    Triple tiers (· = known) (executor.runWave config wave waveState) fun run state =>
      state.resolving = false ∧ state.reached = known.reached ++ [(wave.index, wave.groups)] ∧
        state.cut = (known.cut || run.err.isSome) := by
  unfold Executor.runWave Executor.resolveWaveTargets
  refine (asks_newID.mono untimed_of_bookkeepingAsks).triple_bind (keeps_known hresolving)
    fun recordID _ => ?_
  refine Triple.bind (triple_startRecord rfl) fun startErr => ?_
  refine Triple.bind (triple_resolveNames_tiers executor rfl _ _ wave _ wave.groups [])
    fun resolution => ?_
  apply triple_of_forall
  rintro state ⟨timed, rfl, ht⟩
  have hc : timed = true → Preemptible config.actionContext config.tierPolicy
    config.lowerTierDue := by
    intro h
    obtain ⟨deadline, hc⟩ := (ht h).resolve_left (by simp [TierState.start])
    exact hpreempted deadline hc
  refine (triple_runResolved_tiers executor wave waveState rfl resolution rfl rfl hc).bind ?_
  rintro ⟨run, preempted⟩
  dsimp only
  apply triple_of_forall
  rintro state ⟨hr, hcut⟩
  refine triple_settle.bind fun completedAt => ?_
  refine Triple.bind (triple_endRecord (wavePhase_ne_running run preempted)) fun endErr => ?_
  exact triple_return ⟨rfl, hr, hcut⟩

end

structure Between (reached : List (Int × List String)) (state : TierState) : Prop where
  resolving : state.resolving = false
  cut : state.cut = false
  reached : state.reached = reached

/-- A wave that was cut short ends the execution; any other leads to the next. -/
def Moves (reached : List (Int × List String)) : Step → TierState → Prop
  | .ended outcome, state => state.cut = true ∧ outcome.1.phase = some .aborted
  | .next dispatch, state => Between reached state ∧ Idle dispatch

section

variable {reached : List (Int × List String)}

theorem keeps_between (request : Request) (h : Untimed request) :
    tiers.Keeps (Between reached) request :=
  keeps_untimed (fun _ hs => hs.resolving) request h

theorem between_bind {α β : Type} {program : Run α} {post : α → Prop} {cont : α → Run β}
    {ends : β → TierState → Prop} (h : Within LoopAsks program post)
    (hrest : ∀ value, post value → Triple tiers (Between reached) (cont value) ends) :
    Triple tiers (Between reached) (program >>= cont) ends :=
  (h.mono untimed_of_loopAsks).triple_bind keeps_between hrest

theorem triple_evaluateWave_tiers (executor : Executor) (input : AdaptiveInput) (wave : Wave)
    (remainingPlan : Data.Duration) :
    Triple tiers (Between reached) (executor.evaluateWave .execution input wave remainingPlan)
      fun result state => (∃ waveState, result = .ok waveState) ∧ Between reached state := by
  unfold Executor.evaluateWave
  split
  · have ho : Triple tiers (Between reached) (ask (.observe .execution))
        fun (reply : Except String PowerObservation) state =>
          reply.isOk ∧ Between reached state :=
      triple_request fun state reply hs ha => ⟨trivial, ha, hs⟩
    refine ho.bind fun reply => triple_of_fact fun hok => ?_
    cases reply with
    | error error => cases hok
    | ok observation => exact triple_pure fun state hs => ⟨⟨_, rfl⟩, hs⟩
  · exact triple_pure fun state hs => ⟨⟨_, rfl⟩, hs⟩

theorem moves_of_settled {err : Option String} {step : Step} {state : TierState}
    (h : Settled err step) (hresolving : state.resolving = false)
    (hreaches : state.reached = reached) (hcut : state.cut = err.isSome) :
    Moves reached step state := by
  cases step with
  | ended out => exact ⟨hcut.trans h.1, h.2⟩
  | next next =>
    rw [h.1] at hcut
    exact ⟨⟨hresolving, hcut, hreaches⟩, h.2⟩

variable {run : ExecutionRun} {dispatch : Dispatch}

section

variable (executor : Executor) (hpolicy : run.tierPolicy = .preempt)
include hpolicy

theorem triple_awaitWave_tiers (wave : Wave) (later : List Wave) (hidle : Idle dispatch)
    (dryRun : Bool) (window : TierOverrunWindow) (waveStart : Time)
    (waveState : WaveAdaptiveState) :
    Triple tiers (Between reached) (executor.awaitWave run dispatch
        (run.waveRun wave later dryRun window waveStart) wave waveState)
      (Moves (reached ++ [wave.label])) := by
  have hpreempted : ∀ deadline,
      (run.waveRun wave later dryRun window waveStart).actionContext = .tier deadline →
      Preemptible (run.waveRun wave later dryRun window waveStart).actionContext run.tierPolicy
        (lowerTierDueAfter wave later) := by
    intro deadline hc
    refine ⟨hpolicy, ?_, deadline, hc⟩
    by_contra hl
    simp [ExecutionRun.waveRun, waveActionContext, hl] at hc
  apply triple_of_forall
  intro known hknown
  unfold Executor.awaitWave
  refine (triple_runWave_tiers executor wave waveState hknown.resolving hpreempted).bind
    fun finished => ?_
  apply triple_of_forall
  rintro state ⟨hr, hreaches, hcut⟩
  rw [hknown.cut, Bool.false_or] at hcut
  refine Triple.bind (((within_handleWaveResult hidle finished).mono fun request h =>
    untimed_of_loopAsks request (loopAsks_of_closingAsks request h)).triple
    (keeps_known hr)) fun step => triple_of_fact fun hs => ?_
  apply triple_return
  exact moves_of_settled (hs.closeWindow _) hr (by rw [hreaches, hknown.reached]; rfl) hcut

theorem triple_launch_tiers (slot : Nat) (wave : Wave) (later : List Wave) (hidle : Idle dispatch)
    (waveState : WaveAdaptiveState) :
    Triple tiers (Between reached) (executor.launch run slot wave later dispatch waveState)
      (Moves (reached ++ [wave.label])) := by
  unfold Executor.launch
  dsimp only
  refine between_bind (asks_approvalRevokedAt executor _ _) fun revoked _ => ?_
  refine between_bind ((asks_reportProgress executor _).mono loopAsks_of_reports) fun _ _ => ?_
  refine between_bind (ticks_now.mono loopAsks_of_clockAsks) fun waveStart _ => ?_
  rw [if_neg (by simp [hpolicy])]
  refine triple_awaitWave_tiers executor hpolicy wave later ?_ _ _ _ _
  exact ⟨hidle.pending, hidle.phase⟩

theorem triple_dispatchWave_tiers (slot : Nat) (wave : Wave) (later : List Wave)
    (hidle : Idle dispatch) :
    Triple tiers (Between reached) (executor.dispatchWave run slot wave later dispatch)
      (Moves (reached ++ [wave.label])) := by
  unfold Executor.dispatchWave
  refine between_bind ((within_drainBefore wave later hidle).mono loopAsks_of_closingAsks) ?_
  rintro _ ⟨drained, rfl, hd⟩
  refine (triple_evaluateWave_tiers executor _ wave _).bind fun evaluated => triple_of_fact ?_
  rintro ⟨waveState, rfl⟩
  exact triple_launch_tiers executor hpolicy slot wave later hd waveState

end

/-- How an execution under the `Preempt` policy ends: completed once every wave was
reached, or aborted because a lookup was cut short. -/
def Concludes (waves : List (Int × List String)) (outcome : Result × Option String)
    (state : TierState) : Prop :=
  if state.cut then outcome.1.phase = some .aborted
  else outcome.1.phase = some .completed ∧ outcome.2 = none ∧ state.reached = waves

theorem triple_finish_tiers (run : ExecutionRun) (hidle : Idle dispatch) :
    Triple tiers (Between reached) (run.finish dispatch) (Concludes reached) := by
  have he : Triple tiers (Between reached) (contextErr .execution)
      fun err state => err = none ∧ Between reached state := by
    apply triple_request
    intro state err hstate ha
    have hkept := keeps_between (.contextErr .execution) trivial state err hstate ha
    exact ⟨trivial, Option.isNone_iff_eq_none.mp ha, hkept.2⟩
  unfold ExecutionRun.finish ExecutionRun.finishExecution
  refine between_bind (hidle.within_waitForPending.mono loopAsks_of_closingAsks) ?_
  rintro drained rfl
  refine he.bind fun err => triple_of_fact ?_
  rintro rfl
  refine between_bind ((asks_recordCompletion run _).mono loopAsks_of_closingAsks)
    fun completionErr _ => ?_
  apply triple_pure
  intro state hstate
  rw [Concludes, if_neg (by simp [hstate.cut])]
  exact ⟨hidle.phase, rfl, hstate.reached⟩

theorem triple_dispatchWaves_tiers (executor : Executor) (hpolicy : run.tierPolicy = .preempt)
    (slot : Nat) (waves : List Wave) (hidle : Idle dispatch) :
    Triple tiers (Between reached) (executor.dispatchWaves run slot waves dispatch)
      (Concludes (reached ++ waves.map Wave.label)) := by
  induction waves generalizing slot dispatch reached with
  | nil =>
    rw [List.map_nil, List.append_nil]
    exact triple_finish_tiers run hidle
  | cons wave later ih =>
    unfold Executor.dispatchWaves
    refine (triple_dispatchWave_tiers executor hpolicy slot wave later hidle).bind fun step => ?_
    cases step with
    | ended out =>
      apply triple_pure
      rintro state ⟨hcut, hp⟩
      rwa [Concludes, if_pos hcut]
    | next next =>
      apply triple_of_forall
      rintro state ⟨hb, hnext⟩
      rw [List.map_cons, List.append_cons]
      refine (ih (slot + 1) hnext).of_pre ?_
      rintro state rfl
      exact hb

end

theorem triple_execute_tiers (executor : Executor) {input : Input} {groups : List Group}
    (hvalue : validateExecuteInput input = .ok groups)
    (hpolicy : effectiveTierOverrunPolicy input.tierOverrunPolicy = .preempt) :
    Triple tiers (Between []) (executor.execute input)
      (Concludes (input.waves.map Wave.label)) := by
  obtain ⟨rfl, _⟩ := declared_of_validate hvalue
  unfold Executor.execute
  rw [hvalue]
  refine between_bind ((asks_executionDefaults input).mono loopAsks_of_clockAsks)
    fun run hp => ?_
  have hs : ∀ entry, Within LoopAsks (record .execution (.execution entry)) fun _ => True :=
    fun entry => within_asked trivial
  refine between_bind (hs _) fun startErr _ => ?_
  exact triple_dispatchWaves_tiers executor (hp.tierPolicy.trans hpolicy) 0 input.waves ⟨rfl, rfl⟩

/-- Groups fail only because the deadline of their tier has passed, and nothing
cancels the execution. -/
def OnlyDeadlinesFail (trace : Trace) : Prop := tiers.Assumes {} trace

instance : DecidablePred OnlyDeadlinesFail := fun trace =>
  inferInstanceAs (Decidable (tiers.Along (fun state exchange => tierAssumed state exchange = true)
    {} trace))

/-- A wave's target lookup failed or found its context ended. -/
def lookupCut (trace : Trace) : Bool := (tiers.after {} trace).cut

def reachedWaves (trace : Trace) : List (Int × List String) := (tiers.after {} trace).reached

/-- Under the `Preempt` policy a tier that runs out of time does not stop the flow,
unless its time is up before the targets of its last wave are known. -/
theorem preempted_tiers_complete (executor : Executor) (input : Input)
    (hvalid : (validateExecuteInput input).isOk)
    (hpolicy : effectiveTierOverrunPolicy input.tierOverrunPolicy = .preempt)
    {trace : Trace} {outcome : Result × Option String}
    (hrun : Runs (executor.execute input) trace outcome) (honly : OnlyDeadlinesFail trace) :
    (reachedWaves trace = input.waves.map Wave.label ∧ outcome.1.phase = some .completed ∧
      outcome.2 = none) ↔ lookupCut trace = false := by
  cases ha : validateExecuteInput input with
  | error error =>
    rw [ha] at hvalid
    cases hvalid
  | ok groups =>
    have hend := (triple_execute_tiers executor ha hpolicy {} trace outcome
      ⟨rfl, rfl, rfl⟩ hrun honly).2
    unfold Concludes at hend
    unfold reachedWaves lookupCut
    split at hend
    · rename_i hcut
      simp [hcut, hend]
    · rename_i hcut
      exact ⟨fun _ => by simpa using hcut, fun _ => ⟨hend.2.2, hend.1, hend.2.1⟩⟩

def clock (takes : String → Data.Duration) (history : Trace) : Time :=
  history.foldl (fun time exchange =>
    match exchange with
    | ⟨.runAction _ action, _⟩ => time + takes action.group.name
    | _ => time) 1

def Context.tierDeadline : Context → Option Time
  | .execution => none
  | .tier deadline => some deadline
  | .group parent _ _ => parent.tierDeadline
  | .lookup parent _ _ => parent.tierDeadline
  | .detached _ _ => none

def Context.expired (context : Context) (time : Time) : Bool := context.tierDeadline.any (· ≤ time)

def timedReply (takes : String → Data.Duration) (history : Trace) :
    (request : Request) → Reply request
  | .now => clock takes history
  | .contextErr context =>
    if context.expired (clock takes history) then some .deadlineExceeded else none
  | .runAction context action =>
    if context.expired (clock takes history + takes action.group.name) then
      ({}, some ContextError.deadlineExceeded.text)
    else ({}, none)
  | request => failingReply [] request

def twoWaveTierInput : Input :=
  { executionID := "run", observedAt := 1, shutdownFlow := "rack", planConfigHash := "hash"
    mode := "Enforce", approved := true, tierOverrunPolicy := some .preempt
    waves :=
      [{ index := 0, shutdownTier := some 2, duration := 60 * Data.nanosPerSecond,
          groups := ["migrate"] },
        { index := 1, shutdownTier := some 2, duration := 60 * Data.nanosPerSecond,
          groups := ["drain"] },
        { index := 2, shutdownTier := some 1, groups := ["scale"] }]
    groups :=
      [{ name := "migrate", action := "RunJob" }, { name := "drain", action := "DrainNodes" },
        { name := "scale", action := "ScaleWorkload" }] }

def slowGroup (slow : String) (name : String) : Data.Duration :=
  if name = slow then 200 * Data.nanosPerSecond else 10 * Data.nanosPerSecond

/-- The drain outlives its tier and is preempted; the lower tier runs. -/
theorem twoWaveTierInput_completes_past_drain :
    let run := perform (timedReply (slowGroup "drain")) []
      (({ runner := true, resolveTargets := true } : Executor).execute twoWaveTierInput)
    OnlyDeadlinesFail run.1 ∧
      reachedWaves run.1 = [(0, ["migrate"]), (1, ["drain"]), (2, ["scale"])] ∧
      run.2.1.phase = some .completed ∧ run.2.2 = none :=
  ⟨by decide, (preempted_tiers_complete _ twoWaveTierInput (by decide) rfl
    (runs_perform _ _ _) (by decide)).mpr (by decide)⟩

/-- The tier's first wave uses up its time, the lookup of the second finds the
deadline passed, and the flow is aborted before the lower tier. -/
theorem spent_tier_aborts :
    let run := perform (timedReply (slowGroup "migrate")) []
      (({ runner := true, resolveTargets := true } : Executor).execute twoWaveTierInput)
    (validateExecuteInput twoWaveTierInput).isOk ∧
      effectiveTierOverrunPolicy twoWaveTierInput.tierOverrunPolicy = .preempt ∧
      OnlyDeadlinesFail run.1 ∧ (∀ entry ∈ groupRecords run.1, ¬ Stops entry) ∧
      reachedWaves run.1 = [(0, ["migrate"]), (1, ["drain"])] ∧
      run.2.1.phase = some .aborted ∧ run.2.2 = some "context deadline exceeded" :=
  ⟨by decide, rfl, by decide, by decide, by decide, by decide, by decide⟩

end NutOperator.Execution
