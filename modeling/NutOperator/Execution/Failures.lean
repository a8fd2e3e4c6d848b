import NutOperator.Execution.Enforcement

/-! A failed group and the waves after it. The loop stops at a failure it has seen:
one of its own groups, or one in a wave whose result it received. -/
namespace NutOperator.Execution

open Effects List

/-- The tier deadline that a party runs its wave under: the one it asked about
since the wave was dispatched. -/
def tierDeadline (trace : Trace) : Option Time := trace.foldl (fun deadline exchange =>
    match exchange with
    | ⟨.contextErr (.tier expiry), _⟩ => some expiry
    | _ => if (dispatchOf exchange).isSome then none else deadline) none

/-- The group failed and was no hook, and the deadline of its tier, if it has one,
was still to come. -/
def ownFailure (before : History) (event : Event Reply) : Bool :=
  match groupRecordOf event.exchange with
  | none => false
  | some entry => decide (Stops entry) &&
      match tierDeadline (view event.actor before), entry.completedAt with
      | some expiry, some completedAt => decide (completedAt < expiry)
      | _, _ => true

/-- After a group failed on its own, no wave is dispatched any more, and only
waves launched before still run. -/
def FailureStops (history : History) : Prop :=
  ∀ before event after, history = before ++ event :: after → ownFailure before event = true →
    dispatches after = [] ∧ ∀ slot ∈ after.filterMap Event.actor, slot ∈ launches before

/-- No group has failed in a wave that is still running when a later one is
dispatched. -/
def OverlappedSucceed (history : History) : Prop :=
  ∀ before event after, history = before ++ event :: after → event.actor = none →
    (dispatchOf event.exchange).isSome = true → ∀ slot ∈ launches before,
      slot ∉ (received before).map Prod.fst →
        ∀ entry ∈ groupRecords (view (some slot) before), ¬ Stops entry

/-- A deadline is found exceeded before the loop's own wave ends. -/
def exceededInWave : Trace → Bool
  | [] => false
  | ⟨.record _ (.wave _), _⟩ :: _ => false
  | ⟨.contextErr _, (error : Option ContextError)⟩ :: rest =>
    decide (error = some .deadlineExceeded) || exceededInWave rest
  | _ :: rest => exceededInWave rest

/-- No deadline passes between a group's own failure and the end of its wave. -/
def NoLateDeadline (history : History) : Prop :=
  ∀ before event after, history = before ++ event :: after → ownFailure before event = true →
    event.actor = none → exceededInWave (view none after) = false

theorem forall_split_iff {history : History} {prop : History → Event Reply → History → Prop} :
    (∀ before event after, history = before ++ event :: after → prop before event after) ↔
      ∀ position : Fin history.length, prop (history.take position) (history.get position)
        (history.drop (position + 1)) := by
  constructor
  · intro h position
    apply h
    simp
  · rintro h before event after rfl
    simpa using h ⟨before.length, by simp⟩

instance : DecidablePred FailureStops := fun _ => decidable_of_iff _ forall_split_iff.symm

instance : DecidablePred OverlappedSucceed := fun _ => decidable_of_iff _ forall_split_iff.symm

instance : DecidablePred NoLateDeadline := fun _ => decidable_of_iff _ forall_split_iff.symm

theorem failed_loopAdvance_of_failed {state : LoopState} (exchange : Exchange Reply)
    (h : state.failed = true) : (loopAdvance state exchange).failed = true := by
  by_contra hnot
  have hs := (failed_loopAdvance state exchange (by simpa using hnot)).1
  rw [h] at hs
  cases hs

theorem stopped_advance {input : Input} {state : LoopState} {exchange : Exchange Reply}
    {rest : Trace} (hallowed : loopAllowed input state exchange) (hstopped : state.stopped = true)
    (hopen : state.waveOpen = true) (hlater : exceededInWave (exchange :: rest) = false) :
    ((loopAdvance state exchange).stopped = true ∧ (loopAdvance state exchange).waveOpen = true ∧
      exceededInWave rest = false) ∨ (loopAdvance state exchange).failed = true := by
  obtain ⟨request, reply⟩ := exchange
  cases request with
  | launchWave slot config wave waveState =>
    obtain ⟨_, run, later, _, _, _, _, _, _, hdispatching⟩ := hallowed
    exact absurd hopen (by simp [hdispatching.closed])
  | approve context => exact absurd hopen (by simp [show state.waveOpen = false from hallowed.1])
  | selectWave slot dueAfter => cases reply <;> exact .inl ⟨hstopped, hopen, hlater⟩
  | contextErr context =>
    rw [exceededInWave, Bool.or_eq_false_iff, decide_eq_false_iff_not] at hlater
    simp only [loopAdvance, hlater.1, if_false]
    exact .inl ⟨hstopped, hopen, hlater.2⟩
  | record context entry =>
    cases entry with
    | wave entry =>
      by_cases hr : entry.phase = .running
      · simp only [loopAllowed, hr, if_true] at hallowed
        obtain ⟨_, _, _, _, hdispatching⟩ := hallowed
        exact absurd hopen (by simp [hdispatching.closed])
      · simp only [loopAllowed, hr, if_false] at hallowed
        right
        simp [loopAdvance, LoopState.closeWave, hallowed.2 hstopped]
    | group entry =>
      left
      refine ⟨?_, hopen, hlater⟩
      simp [loopAdvance, hstopped]
    | _ => exact .inl ⟨hstopped, hopen, hlater⟩
  | _ => exact .inl ⟨hstopped, hopen, hlater⟩

theorem stopped_or_failed {input : Input} {state : LoopState} {trace : Trace}
    (haccepts : (loop input).Accepts state trace)
    (hstate : state.stopped = true ∧ state.waveOpen = true ∧ exceededInWave trace = false ∨
      state.failed = true) :
    let ended := trace.foldl loopAdvance state
    ended.stopped = true ∧ ended.waveOpen = true ∨ ended.failed = true := by
  induction trace generalizing state with
  | nil => exact hstate.imp (fun h => ⟨h.1, h.2.1⟩) id
  | cons exchange rest ih =>
    apply ih haccepts.2
    rcases hstate with ⟨hs, hopen, hl⟩ | hfail
    · exact stopped_advance haccepts.1 hs hopen hl
    · exact .inr (failed_loopAdvance_of_failed exchange hfail)

theorem exceededInWave_of_append {before after : Trace}
    (h : exceededInWave (before ++ after) = false) : exceededInWave before = false := by
  induction before with
  | nil => rfl
  | cons exchange rest ih =>
    obtain ⟨request, reply⟩ := exchange
    cases request with
    | contextErr context =>
      rw [cons_append, exceededInWave, Bool.or_eq_false_iff] at h
      rw [exceededInWave, h.1, ih h.2, Bool.or_false]
    | record context entry =>
      cases entry with
      | wave entry => rfl
      | _ => exact ih h
    | _ => exact ih h

section

variable {assumed : Exchange Reply → Prop}

theorem ensures_runGroups_stops (executor : Executor) {config : WaveRunConfig} (wave : Wave)
    (state : WaveAdaptiveState) (resolved : ResolvedGroups)
    (hcontext : config.actionContext.isLookup = false) (hpolicy : config.tierPolicy ≠ .preempt)
    (names : List String) (run : WaveExecutionResult) :
    Ensures assumed (executor.runGroups config wave state resolved names run)
      fun trace result => (∃ entry ∈ groupRecords trace, Stops entry) → result.1.err.isSome := by
  induction names generalizing run with
  | nil => exact ensures_pure (by simp [groupRecords])
  | cons name rest ih =>
    unfold Executor.runGroups
    dsimp only
    refine within_now.ensures.bind fun timing time htiming => ?_
    refine (ensures_executeGroup executor ?_ _).bind ?_
    · exact hcontext
    rintro running ⟨result, groupErr⟩ hran
    refine (within_reportProgress executor _).ensures.bind fun reporting _ hreport => ?_
    have hp : tierPreempted .execution config.actionContext config.tierPolicy
        config.lowerTierDue = pure false := if_neg fun h => hpolicy h.1
    rw [hp]
    have htiming := (silent_of_quiet htiming.1).records
    have hreport := (silent_of_quiet hreport.1).records
    obtain ⟨entry, hr, _, _, hs⟩ := hran.recorded
    cases groupErr with
    | some err => exact ensures_pure fun _ => rfl
    | none =>
      refine (ih (run.absorbGroup result)).imp fun trace final hf => ?_
      rintro ⟨failed, hmem, hfail⟩
      simp only [groupRecords_append, htiming, hr, hreport, nil_append,
        singleton_append, mem_cons] at hmem
      rcases hmem with rfl | hmem
      · exact absurd hfail (hs.mp rfl)
      · exact hf ⟨failed, hmem, hfail⟩

theorem groupRecords_eq_nil_of_lookupAsks {context : Context} {names : List String}
    {trace : Trace} (h : ∀ exchange ∈ trace, LookupAsks context names exchange.1) :
    groupRecords trace = [] := by
  apply filterMap_eq_nil_iff.mpr
  rintro ⟨request, reply⟩ hmem
  have hasks := h _ hmem
  cases request with
  | record ctx entry => exact hasks.elim
  | _ => rfl

theorem ensures_runWave_stops (executor : Executor) {config : WaveRunConfig} (wave : Wave)
    (state : WaveAdaptiveState) (hcontext : config.actionContext = .execution)
    (hpolicy : config.tierPolicy ≠ .preempt) :
    Ensures assumed (executor.runWave config wave state)
      fun trace run => (∃ entry ∈ groupRecords trace, Stops entry) → run.err.isSome := by
  unfold Executor.runWave Executor.resolveWaveTargets
  refine within_newID.ensures.bind fun naming waveRecordID hn => ?_
  refine (within_record (by exact trivial)).ensures.bind fun starting startErr hs => ?_
  refine (asks_resolveNames executor _ _ wave state.budget _ (List.Subset.refl _) []).ensures.bind
    fun looking resolution hl => ?_
  have hbefore := (silent_of_quiet hn.1).records
  have hstarted := (silent_of_quiet hs.1).records
  have hlooked := groupRecords_eq_nil_of_lookupAsks hl.1
  have hg :
    Ensures assumed (executor.runResolved config wave state { recordError := startErr } resolution)
      fun trace result => (∃ entry ∈ groupRecords trace, Stops entry) → result.1.err.isSome := by
    cases resolution with
    | error failure => exact ensures_pure fun _ => rfl
    | ok resolved =>
      exact ensures_runGroups_stops executor wave state resolved (by rw [hcontext]; rfl) hpolicy
        wave.groups _
  refine hg.bind ?_
  rintro running ⟨run, preempted⟩ hran
  refine within_now.ensures.bind fun completing completedAt hc => ?_
  refine (within_record (by exact trivial)).ensures.bind fun ending endErr he => ?_
  have hcompiled := (silent_of_quiet hc.1).records
  have hended := (silent_of_quiet he.1).records
  refine ensures_pure ?_
  simpa only [groupRecords_append, hbefore, hstarted, hlooked, hcompiled, hended,
    nil_append, append_nil] using hran

end

section

variable {executor : Executor} {input : Input} {execution : ExecutionMachine}
  {before between rest : History} {exchange : Exchange Reply} {dispatched : Dispatched}

theorem stops_of_ownFailure {event : Event Reply} (h : ownFailure before event = true) :
    ∃ entry, groupRecordOf event.exchange = some entry ∧ Stops entry := by
  unfold ownFailure at h
  cases he : groupRecordOf event.exchange with
  | none => simp [he] at h
  | some entry =>
    simp only [he, Bool.and_eq_true, decide_eq_true_iff] at h
    exact ⟨entry, rfl, h.1⟩

variable {entry : ShutdownFlowExecutionGroup} {slot : Nat}

theorem dispatchOf_of_groupRecordOf (h : groupRecordOf exchange = some entry) :
    dispatchOf exchange = none := by
  obtain ⟨request, reply⟩ := exchange
  cases request with
  | record context recorded =>
    cases recorded with
    | group recorded => rfl
    | _ => cases h
  | _ => cases h

variable {failing : Exchange Reply}

theorem advance_of_stops {state : LoopState} (hallowed : loopAllowed input state failing)
    (hentry : groupRecordOf failing = some entry) (hstops : Stops entry) :
    (loopAdvance state failing).stopped = true ∧ (loopAdvance state failing).waveOpen = true := by
  obtain ⟨request, reply⟩ := failing
  cases request with
  | record context recorded =>
    cases recorded with
    | group recorded =>
      cases hentry
      exact ⟨by simp [loopAdvance, hstops], hallowed⟩
    | _ => cases hentry
  | _ => cases hentry

theorem Executes.no_dispatch_after_own (h : Executes executor input
      (before ++ ⟨none, failing⟩ :: (between ++ ⟨none, exchange⟩ :: rest)) execution)
    (hentry : groupRecordOf failing = some entry) (hstops : Stops entry)
    (hlater : exceededInWave (view none between) = false) :
    dispatchOf exchange ≠ some dispatched := by
  intro hd
  have ha := h.accepts
  rw [view_append, view_cons_self, view_append, view_cons_self] at ha
  obtain ⟨hb, hnext, _⟩ := Monitor.along_append.mp (Monitor.along_append.mp ha).2.2
  have hs := advance_of_stops h.allowed hentry hstops
  have hended := stopped_or_failed hb (.inl ⟨hs.1, hs.2, hlater⟩)
  obtain ⟨_, _, _, _, hdispatching⟩ := dispatching_of_allowed hnext hd
  cases hended with
  | inl hopen => exact absurd hopen.2 (Bool.eq_false_iff.mp hdispatching.closed)
  | inr hfail => exact absurd hfail (Bool.eq_false_iff.mp hdispatching.unfailed)

theorem Executes.config_of_launch {history : History} {config : WaveRunConfig} {wave : Wave}
    {state : WaveAdaptiveState} (h : Executes executor input history execution)
    (hlaunch : ⟨none, .launchWave slot config wave state, ()⟩ ∈ history) :
    config.actionContext = .execution ∧ config.tierPolicy = .overlap := by
  obtain ⟨run, later, window, waveStart, _, hp, hc⟩ := h.prepared_of_launch hlaunch
  rw [hc]
  exact ⟨by simp [ExecutionRun.waveRun, waveActionContext, hp], hp⟩

theorem Executes.no_stops_of_dispatch
    (h : Executes executor input (before ++ ⟨none, exchange⟩ :: rest) execution)
    (hdispatch : dispatchOf exchange = some dispatched)
    (hreceived : slot ∈ (received before).map Prod.fst) :
    ∀ entry ∈ groupRecords (view (some slot) before), ¬ Stops entry := by
  intro entry he hs
  obtain ⟨mid, hb⟩ := h.of_append
  have hmem : slot ∈ launches before :=
    hb.tracks.outstanding.mem_iff.mpr (mem_append_right _ hreceived)
  obtain ⟨config, wave, state, hl⟩ := mem_launches.mp hmem
  obtain ⟨run, hrun, hruns, _⟩ := h.settled hl hreceived
  obtain ⟨hc, hp⟩ := hb.config_of_launch hl
  have herr := ensures_runWave_stops executor wave state hc (by simp [hp]) _ _
    (fun _ _ => trivial) hruns ⟨entry, he, hs⟩
  obtain ⟨_, _, _, _, hd⟩ := dispatching_of_allowed h.allowed hdispatch
  have hnone : run.err = none := (hb.tracks.unfailed hd.unfailed).2 (slot, run) hrun
  simp [hnone] at herr

/-- After a failure in a launched wave nothing is dispatched: either the loop has
received the wave by then, or the wave overlaps the dispatch. -/
theorem Executes.no_dispatch_after_launched (h : Executes executor input
      (before ++ ⟨some slot, failing⟩ :: (between ++ ⟨none, exchange⟩ :: rest)) execution)
    (hentry : groupRecordOf failing = some entry) (hstops : Stops entry)
    (hover : OverlappedSucceed
      (before ++ ⟨some slot, failing⟩ :: (between ++ ⟨none, exchange⟩ :: rest))) :
    dispatchOf exchange ≠ some dispatched := by
  intro hdispatch
  obtain ⟨front, config, wave, state, back, rfl, _⟩ := h.launched
  rw [← cons_append, ← append_assoc] at h hover
  generalize hpast : (front ++ ⟨none, .launchWave slot config wave state, ()⟩ :: back) ++
    ⟨some slot, failing⟩ :: between = past at h hover
  have hl : slot ∈ launches past := mem_launches.mpr ⟨config, wave, state, by simp [← hpast]⟩
  have hr : entry ∈ groupRecords (view (some slot) past) := by
    rw [← hpast, view_append, view_cons_self]
    exact mem_filterMap.mpr ⟨failing, mem_append_right _ mem_cons_self, hentry⟩
  by_cases hreceived : slot ∈ (received past).map Prod.fst
  · exact h.no_stops_of_dispatch hdispatch hreceived entry hr hstops
  · exact hover past _ rest rfl rfl (by simp [hdispatch]) slot hl hreceived entry hr hstops

theorem Executes.launched_before {event : Event Reply} {after : History}
    (h : Executes executor input (before ++ event :: after) execution)
    (hevent : dispatchOf event.exchange = none) (hnever : dispatches after = [])
    (hmem : ⟨some slot, exchange⟩ ∈ after) : slot ∈ launches before := by
  obtain ⟨between, rest, rfl⟩ := append_of_mem hmem
  rw [← cons_append, ← append_assoc] at h
  obtain ⟨front, config, wave, state, back, hs, _⟩ := h.launched
  have hl : ⟨none, .launchWave slot config wave state, ()⟩ ∈ before ++ event :: between := by
    simp [hs]
  rcases mem_append.mp hl with hb | hlater
  · exact mem_launches.mpr ⟨config, wave, state, hb⟩
  · rcases mem_cons.mp hlater with rfl | hbetween
    · cases hevent
    · have hd : ⟨wave.index, wave.groups, config.dryRun⟩ ∈
          dispatches (between ++ ⟨some slot, exchange⟩ :: rest) :=
        mem_filterMap.mpr ⟨_, mem_view.mpr (mem_append_left _ hbetween), rfl⟩
      simp [hnever] at hd

/-- A failed group stops the waves after it, as long as none is dispatched past
a failure in a wave still running and no deadline passes while a failed wave is ending. -/
theorem failure_stops_later_waves {history : History}
    (h : Executes executor input history execution) (hoverlapped : OverlappedSucceed history)
    (hlater : NoLateDeadline history) : FailureStops history := by
  rintro before ⟨actor, failing⟩ after rfl hown
  obtain ⟨entry, hentry, hstops⟩ := stops_of_ownFailure hown
  have hnever : dispatches after = [] := by
    rw [List.eq_nil_iff_forall_not_mem]
    intro dispatched hmem
    obtain ⟨between, exchange, rest, rfl, hd⟩ := exists_split_of_mem hmem
    cases actor with
    | none =>
      have he := hlater before _ _ rfl hown rfl
      rw [view_append] at he
      exact h.no_dispatch_after_own hentry hstops (exceededInWave_of_append he) hd
    | some slot => exact h.no_dispatch_after_launched hentry hstops hoverlapped hd
  refine ⟨hnever, fun slot hslot => ?_⟩
  obtain ⟨⟨other, later⟩, hmem, rfl⟩ := List.mem_filterMap.mp hslot
  exact h.launched_before (dispatchOf_of_groupRecordOf hentry) hnever hmem

end

def threeTierInput : Input :=
  { hookedInput with
    tierOverrunPolicy := some .overlap
    waves :=
      [{ index := 0, shutdownTier := some 3, duration := 60 * Data.nanosPerSecond,
         groups := ["drain"] },
        { index := 1, shutdownTier := some 2, duration := 60 * Data.nanosPerSecond,
          groups := ["notify"] },
        { index := 2, shutdownTier := some 1, groups := ["scale"] }] }

def groupOutcomes (history : History) : List (Option Nat × String × Phase) :=
  history.filterMap fun event => (groupRecordOf event.exchange).map fun entry =>
    (event.actor, entry.groupName, entry.phase)

/-- The first tier is late and its drain fails while the loop waits for the second
one, whose time runs out too: the third tier is dispatched all the same. -/
theorem unreceived_failure_is_missed :
    let run := simulate { runner := true } threeTierInput (fun _ => failingReply ["drain"])
      (List.replicate 8 none ++ List.replicate 14 (some 0) ++ List.replicate 30 none)
    Executes { runner := true } threeTierInput run.1 run.2 ∧ ¬ FailureStops run.1 ∧
      groupOutcomes run.1 = [(some 0, "drain", .failed), (none, "scale", .completed)] :=
  ⟨executes_simulate _ _ _ _, by decide, by decide⟩

def patientReply (failing : List String) : (request : Request) → Reply request
  | .selectWave _ _ => .finished {}
  | request => failingReply failing request

theorem received_failure_stops_threeTierInput :
    let run := simulate { runner := true } threeTierInput (fun _ => patientReply ["drain"])
      (List.replicate 8 none ++ List.replicate 14 (some 0) ++ List.replicate 30 none)
    FailureStops run.1 ∧ groupOutcomes run.1 = [(some 0, "drain", .failed)] :=
  ⟨failure_stops_later_waves (executes_simulate _ _ _ _) (by decide) (by decide), by decide⟩

end NutOperator.Execution
