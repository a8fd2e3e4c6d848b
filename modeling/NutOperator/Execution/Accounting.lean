import NutOperator.Effects.Ledger
import NutOperator.Execution.Sequential

/-! Accounting: what an execution returns, what its records show and what it
reported come to the same, and every launched wave is received once. -/
namespace NutOperator.Execution

open Effects List

/-- A write is counted when it is requested, whatever the writer answers. -/
def recordedBy : Exchange Reply → Tally
  | ⟨.record _ (.group _), _⟩ => (1, 0, 0)
  | ⟨.record _ (.actionAttempt _), _⟩ => (0, 1, 0)
  | ⟨.record _ (.nodeRelease _), _⟩ => (0, 0, 1)
  | _ => 0

def reportedBy : Exchange Reply → Tally
  | ⟨.report (.groups groups actionAttempts nodeReleases), _⟩ =>
    (groups, actionAttempts, nodeReleases)
  | _ => 0

def receivedBy (exchange : Exchange Reply) : Tally :=
  (receivedOf exchange).elim 0 fun received => received.2.tally

abbrev Books := Tally × Tally × Tally

def booked (exchange : Exchange Reply) : Books :=
  (recordedBy exchange, reportedBy exchange, receivedBy exchange)

/-- The books of a wave: what was recorded was reported, if anybody listens. -/
def Executor.books (executor : Executor) (counts : Tally) : Books :=
  (counts, if executor.progress then counts else 0, 0)

theorem books_add (executor : Executor) (first second : Tally) :
    executor.books (first + second) = executor.books first + executor.books second := by
  unfold Executor.books
  split <;> rfl

theorem books_zero (executor : Executor) : executor.books 0 = 0 := by
  unfold Executor.books
  split <;> rfl

theorem books_reported {executor : Executor} (h : executor.progress = true) (counts : Tally) :
    (executor.books counts).2.1 = counts :=
  if_pos h

def NamesNodes (group : Group) : Prop :=
  group.action = actionAgentShutdown → ∀ release ∈ group.nodeReleases, release.nodeName ≠ ""

instance : DecidablePred NamesNodes := fun _ => inferInstanceAs (Decidable (_ → _))

theorem nodeNames_of_sameIdentity {fresh selected : List NodeRelease}
    (h : List.Forall₂ (fun fresh selected => sameReleaseIdentity fresh selected = true)
      fresh selected) : fresh.map (·.nodeName) = selected.map (·.nodeName) := by
  induction h with
  | nil => rfl
  | cons hsame _ ih =>
    simp only [sameReleaseIdentity, Bool.and_eq_true, decide_eq_true_iff] at hsame
    rw [map_cons, map_cons, ih, hsame.1.1.1.1.1.1.1.1]

theorem NamesNodes.of_confirmed {group later : Group} (h : NamesNodes group)
    (hconfirmed : Confirmed group later) : NamesNodes later := by
  intro ha release hmem
  have hname : release.nodeName ∈ later.nodeReleases.map (·.nodeName) := mem_map_of_mem hmem
  rw [nodeNames_of_sameIdentity hconfirmed.releases] at hname
  obtain ⟨selected, hs, hsame⟩ := mem_map.mp hname
  rw [← hsame]
  exact h (hconfirmed.keeps.2 ▸ ha) selected hs

section

variable {known : Books}

theorem keeps_booked {asks : Request → Prop} (h : ∀ request, asks request → ∀ reply,
    booked ⟨request, reply⟩ = 0) (pre : Books → Prop) (request : Request) (hasks : asks request) :
    (ledger booked).Keeps pre request :=
  keeps_of_free (h request hasks) pre

theorem booked_clock (request : Request) (h : ClockAsks request) (reply : Reply request) :
    booked ⟨request, reply⟩ = 0 := by
  cases request <;> first | rfl | exact h.elim

theorem booked_call {dryRun : Bool} {waveIndex : Int} (request : Request)
    (h : CallAsks dryRun waveIndex request) (reply : Reply request) :
    booked ⟨request, reply⟩ = 0 := by
  cases request <;> first | rfl | exact h.elim

theorem triple_booked (request : Request) :
    Triple (ledger booked) (· = known) (ask request) fun reply books =>
      books = known + booked ⟨request, reply⟩ := by
  apply triple_request
  rintro books reply rfl _
  exact ⟨trivial, rfl⟩

theorem triple_recordReleases (context : Context) (input : Input) (executionID : String)
    (dryRun : Bool) (group : Group) (out : ActionOutcome) (observedAt : Time)
    {releases : List NodeRelease} (hnames : ∀ release ∈ releases, release.nodeName ≠ "")
    (recordErr : Option String) :
    Triple (ledger booked) (· = known) (recordReleases context input executionID dryRun group
      out observedAt releases recordErr) fun _ books =>
        books = known + ((0, 0, releases.length), 0, 0) := by
  induction releases generalizing known recordErr with
  | nil =>
    exact triple_return ((add_zero known).symm)
  | cons release rest ih =>
    unfold recordReleases
    rw [if_neg (hnames release mem_cons_self)]
    dsimp only
    refine ticks_newID.triple_bind (keeps_booked booked_clock _) fun releaseID _ => ?_
    refine (triple_booked _).bind fun releaseErr => ?_
    refine ticks_newID.triple_bind (keeps_booked booked_clock _) fun handoffID _ => ?_
    refine (triple_booked _).bind fun handoffErr => ?_
    refine (ih (fun other hmem => hnames other (mem_cons_of_mem _ hmem)) _).imp ?_
    rintro _ books rfl
    change known + ((0, 0, 1), 0, 0) + 0 + ((0, 0, rest.length), 0, 0) = _
    rw [add_zero, add_assoc]
    simp [Nat.add_comm]

theorem triple_recordReleasesOf (config : GroupRunConfig) {attempt : GroupAttempt}
    (hnames : NamesNodes attempt.group) (completedAt : Time) :
    Triple (ledger booked) (· = known) (config.recordReleasesOf attempt completedAt)
      fun releases books => books = known + ((0, 0, releases.1), 0, 0) := by
  unfold GroupRunConfig.recordReleasesOf
  split
  · rename_i ha
    unfold recordNodeReleases
    refine (triple_recordReleases _ _ _ _ _ _ _ (hnames ha) _).bind fun recordErr => ?_
    exact triple_pure fun _ h => h
  · exact triple_return ((add_zero known).symm)

theorem tally_groupVerdict (attempt : GroupAttempt) (nodeReleases : Nat)
    (recordErr : Option String) :
    (groupVerdict attempt nodeReleases recordErr).1.actionAttempts = 1 ∧
      (groupVerdict attempt nodeReleases recordErr).1.nodeReleases = nodeReleases := by
  unfold groupVerdict
  dsimp only
  split
  · exact ⟨rfl, rfl⟩
  · split <;> exact ⟨rfl, rfl⟩

theorem triple_executeGroup_books (executor : Executor) (config : GroupRunConfig) {group : Group}
    (hnames : NamesNodes group) :
    Triple (ledger booked) (· = known) (executor.executeGroup config group)
      fun result books => books = known + (result.1.tally, 0, 0) := by
  unfold Executor.executeGroup
  refine ticks_now.triple_bind (keeps_booked booked_clock _) fun startedAt _ => ?_
  refine (asks_attemptGroup executor config group).triple_bind (keeps_booked booked_call _)
    fun attempt hc => ?_
  refine ticks_now.triple_bind (keeps_booked booked_clock _) fun completedAt _ => ?_
  refine ticks_newID.triple_bind (keeps_booked booked_clock _) fun recordID _ => ?_
  refine (triple_booked _).bind fun groupErr => ?_
  unfold GroupRunConfig.concludeGroup
  refine ticks_newID.triple_bind (keeps_booked booked_clock _) fun attemptID _ => ?_
  refine (triple_booked _).bind fun attemptErr => ?_
  refine (triple_recordReleasesOf config (hnames.of_confirmed hc) completedAt).bind fun releases =>
    ?_
  apply triple_return
  obtain ⟨ha, hr⟩ := tally_groupVerdict attempt releases.1
    (joinErrors (joinErrors groupErr attemptErr) releases.2)
  rw [GroupExecutionResult.tally, ha, hr]
  change known + ((1, 0, 0), 0, 0) + ((0, 1, 0), 0, 0) + ((0, 0, releases.1), 0, 0) = _
  simp [add_assoc]

theorem triple_reportProgress_books (executor : Executor)
    (groups actionAttempts nodeReleases : Nat) :
    Triple (ledger booked) (· = known)
      (executor.reportProgress (.groups groups actionAttempts nodeReleases)) fun _ books =>
        books = known +
          (0, if executor.progress then (groups, actionAttempts, nodeReleases) else 0, 0) := by
  unfold Executor.reportProgress
  split
  · exact triple_booked _
  · exact triple_return ((add_zero known).symm)

theorem NamesNodes.dispatchedGroup {group : Group} (h : NamesNodes group) (config : WaveRunConfig)
    (wave : Wave) : NamesNodes (dispatchedGroup config wave group) := by
  unfold Execution.dispatchedGroup
  split
  · rename_i ha
    intro _ release hmem
    obtain ⟨selected, hs, rfl⟩ := mem_map.mp hmem
    exact h ha selected hs
  · exact h

theorem namesNodes_get {groups : List Group} {resolved : ResolvedGroups}
    (hgroups : ∀ group ∈ groups, NamesNodes group) (hresolved : ResolvedFrom groups resolved)
    (name : String) : NamesNodes (resolved.get name) := by
  intro ha
  have hsome : (resolved.get name).action ≠ "" := by
    rw [ha]
    decide
  obtain ⟨declared, hmem, _, hsame, hr⟩ := hresolved.declared hsome
  rw [← hr]
  exact hgroups declared hmem (hsame.trans ha)

theorem booked_own {context : Context} (request : Request) (h : OwnAsks context request)
    (reply : Reply request) : booked ⟨request, reply⟩ = 0 := by
  cases request with
  | report progress => exact h.elim
  | record ctx entry => cases entry <;> first | rfl | exact h.elim
  | selectWave slot dueAfter => exact h.elim
  | receiveWave slot => exact h.elim
  | _ => rfl

theorem waveFolds_books (known : Books) (executor : Executor) {config : WaveRunConfig}
    (hgroups : ∀ group ∈ config.groups, NamesNodes group) (wave : Wave)
    (state : WaveAdaptiveState) :
    WaveFolds executor (ledger booked) (fun counts books => books = known + executor.books counts)
      (fun counts result books =>
        books = known + executor.books counts + (result.tally, 0, 0)) config wave state where
  own := fun _ => keeps_booked booked_own _
  grouped := fun _ _ _ name hr => triple_executeGroup_books executor _
    ((namesNodes_get hgroups hr name).dispatchedGroup config wave)
  reported := by
    intro counts result
    refine (triple_reportProgress_books executor _ _ _).imp ?_
    rintro _ _ rfl
    rw [books_add, add_assoc, add_assoc]
    simp [Executor.books, GroupExecutionResult.tally]

theorem triple_runWave_books (executor : Executor) (config : WaveRunConfig) (wave : Wave)
    (state : WaveAdaptiveState) (hgroups : ∀ group ∈ config.groups, NamesNodes group) :
    Triple (ledger booked) (· = known) (executor.runWave config wave state)
      fun run books => books = known + executor.books run.tally := by
  refine (((waveFolds_books known executor hgroups wave state).runWave 0).of_pre ?_).imp ?_
  · rintro _ rfl
    rw [books_zero, add_zero]
  · rintro run _ rfl
    rw [zero_add]

end

/-- The counts match the records and the receipts, and the reports and the receipts. -/
def Balances (executor : Executor) (counts : Tally) (books : Books) : Prop :=
  books.1 + books.2.2 = counts ∧ (executor.progress = true → books.2.1 + books.2.2 = counts)

section

variable {executor : Executor} {counts more : Tally} {books : Books}
  (h : Balances executor counts books)
include h

theorem Balances.add_books : Balances executor (counts + more) (books + executor.books more) := by
  constructor
  · rw [← h.1]
    simp [Executor.books, add_right_comm]
  · intro hp
    rw [← h.2 hp]
    simp [Executor.books, hp, add_right_comm]

theorem Balances.add_received : Balances executor (counts + more) (books + (0, 0, more)) := by
  constructor
  · rw [← h.1]
    simp [add_assoc]
  · intro hp
    rw [← h.2 hp]
    simp [add_assoc]

end

theorem booked_loop (request : Request) (h : LoopAsks request) (reply : Reply request) :
    booked ⟨request, reply⟩ = 0 := by
  cases request with
  | report progress => cases progress <;> first | rfl | exact h.elim
  | record context entry => cases entry <;> first | rfl | exact h.elim
  | selectWave slot dueAfter => exact h.elim
  | receiveWave slot => exact h.elim
  | _ => rfl

theorem folds_books (executor : Executor) {input : Input}
    (hgroups : ∀ group ∈ input.groups, NamesNodes group) :
    Folds executor input (ledger booked) (Balances executor) where
  quiet := fun _ => keeps_booked booked_loop _
  received := by
    intro counts slot
    apply triple_request
    intro books run hbooks _
    exact ⟨trivial, hbooks.add_received⟩
  selected := by
    intro counts slot dueAfter
    apply triple_request
    intro books signal hbooks _
    refine ⟨trivial, ?_⟩
    cases signal <;> exact hbooks.add_received
  ran := by
    intro counts run wave later dryRun window waveStart state hp
    apply triple_of_forall
    intro books hbooks
    refine (triple_runWave_books executor _ wave state ?_).imp ?_
    · change ∀ group ∈ run.groups, NamesNodes group
      rw [hp.groups]
      exact hgroups
    · rintro finished _ rfl
      exact hbooks.add_books

def returned (execution : ExecutionMachine) : Option (Result × Option String) :=
  match execution.main with
  | .done outcome => some outcome
  | .ask _ _ => none

theorem main_of_returned {execution : ExecutionMachine} {outcome : Result × Option String}
    (h : returned execution = some outcome) : execution.main = .done outcome := by
  unfold returned at h
  cases hm : execution.main with
  | done value =>
    rw [hm] at h
    cases h
    rfl
  | ask request next =>
    rw [hm] at h
    cases h

structure Accounted (executor : Executor) (history : History) (execution : ExecutionMachine)
    (result : Result) : Prop where
  idle : ∀ slot, execution.threads slot = none
  /-- Every launched wave was received once, when it had run to its end. -/
  distinct : (launches history).Nodup
  once : (launches history).Perm ((received history).map Prod.fst)
  outcomes : ∀ slot config wave state, ⟨none, .launchWave slot config wave state, ()⟩ ∈ history →
    ∃ run, (slot, run) ∈ received history ∧
      Runs (executor.runWave config wave state) (view (some slot) history) run
  /-- The result is made of the loop's own waves and of those received. -/
  folded : result.tally = total recordedBy (view none history) +
    ((received history).map fun outcome => outcome.2.tally).sum
  executed : result.tally = total recordedBy (history.map Event.exchange)
  /-- Behind every group that is counted is one attempt to run it. -/
  attempted : ∀ actor, AttemptsRecorded executor (view actor history)
  reported : executor.progress = true → result.tally = total reportedBy (history.map Event.exchange)

section

variable {executor : Executor} {input : Input} {execution : ExecutionMachine} {history : History}
  {result : Result} {error : Option String}

theorem total_booked (trace : Trace) : total booked trace =
    (total recordedBy trace, total reportedBy trace, total receivedBy trace) := by
  refine (total_prod (fun exchange => (reportedBy exchange, receivedBy exchange)) trace).trans ?_
  exact congrArg (Prod.mk _) (total_prod receivedBy trace)

section

variable (h : Executes executor input history execution)

include h

theorem Executes.runs (hdone : returned execution = some (result, error)) :
    Runs (executor.execute input) (view none history) (result, error) :=
  Follows.runs (main_of_returned hdone ▸ Reaches.follows_main h)

theorem Executes.received_all (hdone : returned execution = some (result, error)) :
    (launches history).Perm ((received history).map Prod.fst) := by
  have hend := triple_execute executor input {} _ _ rfl (h.runs hdone)
    (Monitor.along_of_forall (fun _ _ => trivial) _ _)
  have hr : (loopState history).running = [] := hend.2
  have houts := h.tracks.outstanding
  rw [hr, nil_append] at houts
  exact houts

theorem Executes.thread_eq_none {slot : Nat}
    (hreceived : slot ∈ launches history → slot ∈ (received history).map Prod.fst) :
    execution.threads slot = none := by
  by_cases hlaunched : slot ∈ launches history
  · obtain ⟨config, wave, state, hl⟩ := mem_launches.mp hlaunched
    obtain ⟨front, back, rfl, _, hfront, hlived⟩ := h.lived hl
    have hr := hreceived hlaunched
    rw [← h.receipts_eq, receipts_append] at hr
    generalize execution.threads slot = current at hlived ⊢
    cases hlived with
    | received => rfl
    | running hf hreceipts =>
      obtain ⟨receipt, hmem, hslot⟩ := mem_map.mp hr
      cases mem_append.mp hmem with
      | inl he => exact absurd hslot (hfront receipt he)
      | inr hrest => exact absurd hslot (hreceipts receipt hrest)
  · exact (h.idle hlaunched).2

theorem Executes.books_of_received
    (hgroups : ∀ group ∈ input.groups, NamesNodes group) {slot : Nat} {run : WaveExecutionResult}
    (hmem : (slot, run) ∈ received history) :
    total booked (view (some slot) history) = executor.books run.tally := by
  have hr : slot ∈ (received history).map Prod.fst := mem_map_of_mem hmem
  have hl : slot ∈ launches history := h.tracks.outstanding.mem_iff.mpr (mem_append_right _ hr)
  obtain ⟨config, wave, state, hlaunch⟩ := mem_launches.mp hl
  obtain ⟨other, ho, hruns, _⟩ := Executes.settled ((append_nil history).symm ▸ h) hlaunch hr
  obtain rfl := h.received_unique hmem ho
  obtain ⟨prepared, later, window, waveStart, hp, _, hc⟩ := h.prepared_of_launch hlaunch
  have hn : ∀ group ∈ config.groups, NamesNodes group := by
    rw [show config.groups = input.groups by rw [hc]; exact hp.groups]
    exact hgroups
  have hend := (triple_runWave_books executor config wave state hn 0 _ run rfl hruns
    (Monitor.along_of_forall (fun _ _ => trivial) _ _)).2
  simpa [after_ledger] using hend

theorem Executes.attemptsRecorded (hdone : returned execution = some (result, error))
    (actor : Option Nat) : AttemptsRecorded executor (view actor history) := by
  cases actor with
  | none => exact attemptsRecorded_of_runs (h.runs hdone)
  | some slot =>
    by_cases hlaunched : slot ∈ launches history
    · obtain ⟨config, wave, state, hlaunch⟩ := mem_launches.mp hlaunched
      obtain ⟨run, _, hruns, _⟩ := Executes.settled ((append_nil history).symm ▸ h) hlaunch
        ((h.received_all hdone).mem_iff.mp hlaunched)
      obtain ⟨prepared, later, window, waveStart, hprepared, _, hconfig⟩ :=
        h.prepared_of_launch hlaunch
      rw [hconfig] at hruns
      have hend := (folds_attempts executor input).ran 0 prepared wave later _ window waveStart
        state hprepared {} _ run ⟨rfl, rfl, rfl⟩ hruns
        (Monitor.along_of_forall (fun _ _ => trivial) _ _)
      exact attemptsRecorded_of_accepts hend.1 hend.2
    · rw [(h.idle hlaunched).1]
      exact ⟨atEach_nil, atEach_nil, rfl⟩

theorem Executes.total_books (hdone : returned execution = some (result, error))
    (hgroups : ∀ group ∈ input.groups, NamesNodes group) :
    total booked (history.map Event.exchange) = total booked (view none history) +
      executor.books ((received history).map fun out => out.2.tally).sum := by
  have hall := h.received_all hdone
  have hdistinct : (none :: (launches history).map some).Nodup := by
    refine nodup_cons.mpr ⟨by simp, ?_⟩
    exact h.tracks.distinct.map (Option.some_injective _)
  have hactors : ∀ event ∈ history, event.actor ∈ none :: (launches history).map some := by
    rintro ⟨actor, exchange⟩ hmem
    cases actor with
    | none => exact mem_cons_self
    | some slot =>
      obtain ⟨before, after, rfl⟩ := append_of_mem hmem
      obtain ⟨front, config, wave, state, back, rfl, _⟩ := h.launched
      exact mem_cons_of_mem _ (mem_map_of_mem (mem_launches.mpr ⟨config, wave, state, by simp⟩))
  have hsum : ((received history).map fun out =>
      total booked (view (some out.1) history)) =
      (received history).map fun out => executor.books out.2.tally :=
    map_congr_left fun out hmem => h.books_of_received hgroups hmem
  rw [total_history hdistinct hactors, map_cons, sum_cons, map_map, (hall.map _).sum_eq, map_map]
  congr 1
  refine (congrArg List.sum hsum).trans ?_
  generalize received history = outcomes
  induction outcomes with
  | nil => exact (books_zero executor).symm
  | cons out rest ih => simp [ih, books_add]

end

/-- Whatever the policy, the order of steps and the way out, an execution that
returns has received every wave it launched, and its counts are those of the
records and of the reports. -/
theorem counts_match_records_and_reports (h : Executes executor input history execution)
    (hdone : returned execution = some (result, error))
    (hgroups : ∀ group ∈ input.groups, NamesNodes group) :
    Accounted executor history execution result := by
  have hall := h.received_all hdone
  have hbalanced := ((folds_books executor hgroups).execute 0 _ _ ⟨rfl, fun _ => rfl⟩ (h.runs hdone)
    (Monitor.along_of_forall (fun _ _ => trivial) _ _)).2
  have hbooks := h.total_books hdone hgroups
  rw [after_ledger, zero_add, total_booked] at hbalanced
  rw [total_booked, total_booked] at hbooks
  have hreceived : total receivedBy (view none history) =
      ((received history).map fun outcome => outcome.2.tally).sum := total_filterMap _ _
  obtain ⟨hrecords, hrest⟩ := Prod.mk.inj hbooks
  obtain ⟨hreport, _⟩ := Prod.mk.inj hrest
  refine ⟨fun slot => h.thread_eq_none hall.mem_iff.mp, h.tracks.distinct, hall, ?_, ?_, ?_,
    h.attemptsRecorded hdone, ?_⟩
  · intro slot config wave state hl
    have hslot := hall.mem_iff.mp (mem_launches.mpr ⟨config, wave, state, hl⟩)
    obtain ⟨run, hrun, hwave, _⟩ := Executes.settled ((List.append_nil history).symm ▸ h) hl hslot
    exact ⟨run, hrun, hwave⟩
  · rw [← hreceived]
    exact hbalanced.1.symm
  · rw [hrecords, ← hreceived]
    exact hbalanced.1.symm
  · intro hp
    rw [hreport, books_reported hp, ← hreceived]
    exact (hbalanced.2 hp).symm

end

def handoffInput (nodeName : String) : Input :=
  { hookedInput with
    tierOverrunPolicy := some .overlap
    waves :=
      [{ index := 0, shutdownTier := some 2, duration := 60 * Data.nanosPerSecond,
         groups := ["drain"] },
        { index := 1, shutdownTier := some 1, groups := ["notify", "release"] }]
    groups := hookedInput.groups ++
      [{ name := "release", action := actionAgentShutdown
         nodeReleases :=
           [{ nodeName := nodeName, agentReady := true, telemetryFresh := true, cleared := true }]
             }] }

theorem handoffInput_is_accounted :
    let run := simulate { runner := true, progress := true } (handoffInput "node-a")
      (fun _ => failingReply [])
      (List.replicate 20 none ++ List.replicate 20 (some 0) ++ List.replicate 60 none)
    ∃ result error, returned run.2 = some (result, error) ∧
      Accounted { runner := true, progress := true } run.1 run.2 result ∧
      launches run.1 = [0] ∧ result.tally = (3, 3, 1) := by
  intro run
  have hr : (returned run.2).map (·.1.tally) = some (3, 3, 1) := by decide
  obtain ⟨⟨result, error⟩, hresult, htally⟩ := Option.map_eq_some_iff.mp hr
  refine ⟨result, error, hresult, ?_, by decide, htally⟩
  exact counts_match_records_and_reports (executes_simulate _ _ _ _) hresult (by decide)

/-- A release without a node name is counted and reported, but nothing is
recorded for it. -/
theorem nameless_release_is_counted :
    let run := simulate { runner := true, progress := true } (handoffInput "")
      (fun _ => failingReply [])
      (List.replicate 20 none ++ List.replicate 20 (some 0) ++ List.replicate 60 none)
    Executes { runner := true, progress := true } (handoffInput "") run.1 run.2 ∧
      (returned run.2).map (·.1.tally) = some (3, 3, 1) ∧
      total reportedBy (run.1.map Event.exchange) = (3, 3, 1) ∧
      total recordedBy (run.1.map Event.exchange) = (3, 3, 0) :=
  ⟨executes_simulate _ _ _ _, by decide, by decide, by decide⟩

end NutOperator.Execution
