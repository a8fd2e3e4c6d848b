import NutOperator.Effects.FailFast
import NutOperator.Execution.Evidence

/-! What a run of one wave leaves behind when its tier is not preempted: its
groups ran in order until one stopped it, or a lookup failed and none ran. -/
namespace NutOperator.Execution

open Adaptive Effects List

/-- The environment neither cancels the execution nor fails to read the power
state. Group timeouts and lookup limits may still expire. -/
def Steady : Exchange Reply → Prop
  | ⟨.observe _, (reply : Except String PowerObservation)⟩ => reply.isOk
  | ⟨.contextErr context, (reply : Option ContextError)⟩ => context.isRoot = true → reply = none
  | _ => True

theorem ensures_contextErr_execution :
    Ensures Steady (contextErr .execution) fun trace reply => Silent trace ∧ reply = none := by
  refine ensures_request fun reply hs => ⟨silent_of_quiet ?_, hs rfl⟩
  intro exchange hmem
  rw [mem_singleton.mp hmem]
  rfl

/-- Evidence of lookups only: those of the groups in `failed` did not succeed. -/
structure LookedUp (failed : List String) (trace : Trace) : Prop where
  records : groupRecords trace = []
  actions : actions trace = []
  lookups : failedLookups trace = failed

variable {before after : Trace} {group : Group} {name : String} {resolved : ResolvedGroups}
  {config : WaveRunConfig}

theorem LookedUp.silent_append {failed : List String} (h : LookedUp failed after)
    (hbefore : Silent before) : LookedUp failed (before ++ after) :=
  ⟨by simp [hbefore.records, h.records], by simp [hbefore.actions, h.actions],
    by simp [hbefore.lookups, h.lookups]⟩

variable {trace : Trace} {groups : List Group} {names : List String}

theorem LookedUp.silent (h : LookedUp [] trace) : Silent trace := ⟨h.records, h.actions, h.lookups⟩

theorem ensures_lookupTargets {assumed : Exchange Reply → Prop} (context : Context) (wave : Wave)
    (hname : group.name = name) (budget : TimingBudget) :
    Ensures assumed (lookupTargets context wave group name budget) fun trace reply =>
      LookedUp (if reply.isOk then [] else [name]) trace := by
  unfold lookupTargets
  dsimp only
  have hresolves : Ensures assumed
      (ask (.resolveTargets (.lookup context name (lookupTimeout group budget)) group))
      fun trace (reply : Except String (List Target)) =>
        LookedUp (if reply.isOk then [] else [name]) trace := by
    refine ensures_request fun reply _ => ⟨rfl, rfl, ?_⟩
    cases (reply : Except String (List Target)) with
    | error error => rw [← hname]; rfl
    | ok targets => rfl
  have hlimit : Ensures assumed (contextErr (.lookup context name (lookupTimeout group budget)))
      fun trace (reply : Option ContextError) =>
        LookedUp (if reply = none then [] else [name]) trace := by
    refine ensures_request fun reply _ => ⟨rfl, rfl, ?_⟩
    cases (reply : Option ContextError) <;> rfl
  refine hresolves.bind fun before reply hbefore => ?_
  cases reply with
  | error error =>
    refine ensures_pure ?_
    rw [append_nil]
    exact hbefore
  | ok targets =>
    refine hlimit.bind fun mid error hmid => ?_
    cases error with
    | _ =>
      refine ensures_pure ?_
      rw [append_nil]
      exact hmid.silent_append hbefore.silent

/-- The lookups of a wave succeed, or one of them is to blame. -/
def Looked (names : List String) (trace : Trace) :
    Except ResolutionFailure ResolvedGroups → Prop
  | .ok _ => Silent trace
  | .error _ => ∃ name ∈ names, LookedUp [name] trace

theorem Looked.cons {result : Except ResolutionFailure ResolvedGroups}
    (h : Looked names after result) (hbefore : Silent before) :
    Looked (name :: names) (before ++ after) result := by
  cases result with
  | error failure =>
    obtain ⟨other, hmem, hl⟩ := h
    exact ⟨other, mem_cons_of_mem _ hmem, hl.silent_append hbefore⟩
  | ok final => exact hbefore.append h

theorem ensures_resolveNames (executor : Executor) (groups : List Group) (wave : Wave)
    (budget : TimingBudget) (names : List String) (resolved : ResolvedGroups)
    (hnames : ∀ name ∈ names, (groupNamed groups name).name = name) :
    Ensures Steady (executor.resolveNames .execution groups wave budget names resolved)
      fun trace result => Looked names trace result := by
  induction names generalizing resolved with
  | nil => exact ensures_pure silent_nil
  | cons name rest ih =>
    have hrest := fun resolved => ih resolved fun other hmem =>
      hnames other (mem_cons_of_mem _ hmem)
    unfold Executor.resolveNames
    refine ensures_contextErr_execution.bind ?_
    rintro checking error ⟨hchecking, rfl⟩
    dsimp only
    split
    · refine (ensures_lookupTargets .execution wave (hnames name mem_cons_self) budget).bind ?_
      intro looking reply hl
      cases reply with
      | error error =>
        refine ensures_pure ⟨name, mem_cons_self, ?_⟩
        rw [append_nil]
        exact hl.silent_append hchecking
      | ok targets =>
        refine (hrest _).imp fun trace result hlooked => ?_
        rw [← append_assoc]
        exact hlooked.cons (hchecking.append hl.silent)
    · exact (hrest _).imp fun trace result hlooked => hlooked.cons hchecking

theorem keeps_dispatchedGroup (config : WaveRunConfig) (wave : Wave) (group : Group) :
    Keeps group (dispatchedGroup config wave group) := by
  unfold dispatchedGroup
  split <;> exact ⟨rfl, rfl⟩

theorem within_reportProgress (executor : Executor) (progress : Progress) :
    Within Quiet (executor.reportProgress progress) fun _ => True := by
  unfold Executor.reportProgress
  split
  · exact within_asked trivial
  · exact within_pure trivial

/-- The groups of a wave, run in order until one stops the rest. -/
structure GroupsRan (groups : List Group) (names : List String) (trace : Trace)
    (error : Option String) : Prop where
  declared : ∀ entry ∈ groupRecords trace, entry.action = (groupNamed groups entry.groupName).action
  called : (calledGroups trace).Sublist (executedGroups trace)
  lookups : failedLookups trace = []
  sequence : FailFast (·.groupName) Stops names (groupRecords trace) error.isSome

theorem groupsRan_nil (groups : List Group) : GroupsRan groups [] [] none :=
  ⟨by simp [groupRecords], List.Sublist.refl _, rfl, .done⟩

section

variable {ran : Trace} {error : Option String}

theorem Ran.groupsRan_stop {failure : String} (h : Ran group ran (some failure))
    (hgroup : Keeps (groupNamed groups name) group) (hname : (groupNamed groups name).name = name) :
    GroupsRan groups (name :: names) ran (some failure) := by
  obtain ⟨entry, hr, he, ha, hs⟩ := h.recorded
  have hlabel : entry.groupName = name := by rw [he, hgroup.1, hname]
  refine ⟨?_, ?_, h.lookups, ?_⟩
  · intro other hmem
    rw [hr, mem_singleton] at hmem
    rw [hmem, ha, hgroup.2, hlabel]
  · rw [executedGroups, hr, map_singleton, he]
    exact h.called
  · rw [hr, ← hlabel]
    exact .stop (Decidable.not_not.mp (mt hs.mpr (Option.some_ne_none failure)))

theorem Ran.groupsRan_next (h : Ran group ran none)
    (hgroup : Keeps (groupNamed groups name) group) (hname : (groupNamed groups name).name = name)
    (hrest : GroupsRan groups names trace error) :
    GroupsRan groups (name :: names) (ran ++ trace) error := by
  obtain ⟨entry, hrecords, he, ha, hstops⟩ := h.recorded
  have hlabel : entry.groupName = name := by rw [he, hgroup.1, hname]
  refine ⟨?_, ?_, ?_, ?_⟩
  · intro other hmem
    rw [groupRecords_append, hrecords] at hmem
    rcases mem_append.mp hmem with hmem | hmem
    · rw [mem_singleton.mp hmem, ha, hgroup.2, hlabel]
    · exact hrest.declared other hmem
  · rw [executedGroups, calledGroups, groupRecords_append, actions_append, map_append,
      map_append, hrecords, map_singleton, he]
    exact h.called.append hrest.called
  · rw [failedLookups_append, h.lookups, hrest.lookups, append_nil]
  · rw [groupRecords_append, hrecords, ← hlabel]
    exact .next (hstops.mp rfl) hrest.sequence

theorem Ran.frame (h : Ran group ran error) (hbefore : Silent before)
    (hafter : Silent after) : Ran group (before ++ (ran ++ after)) error := by
  obtain ⟨hr, hacts, hl⟩ := hbefore.frame hafter ran
  obtain ⟨entry, he, hrest⟩ := h.recorded
  refine ⟨⟨entry, hr.trans he, hrest⟩, hl.trans h.lookups, ?_⟩
  rw [calledGroups, hacts]
  exact h.called

end

theorem ensures_runGroups (executor : Executor) (wave : Wave) (state : WaveAdaptiveState)
    (hcontext : config.actionContext.isLookup = false) (hpolicy : config.tierPolicy ≠ .preempt)
    (names : List String) (run : WaveExecutionResult) (herr : run.err = none)
    (hnames : ∀ name ∈ names, (groupNamed groups name).name = name)
    (hresolved : ∀ name ∈ names, Keeps (groupNamed groups name) (resolved.get name)) :
    Ensures Steady (executor.runGroups config wave state resolved names run)
      fun trace result => GroupsRan groups names trace result.1.err := by
  induction names generalizing run with
  | nil => exact ensures_pure (herr ▸ groupsRan_nil groups)
  | cons name rest ih =>
    have hname := hnames name mem_cons_self
    have hr := hresolved name mem_cons_self
    have hd := keeps_dispatchedGroup config wave (resolved.get name)
    have hkeeps : Keeps (groupNamed groups name)
      (dispatchedGroup config wave (resolved.get name)) :=
      ⟨hd.1.trans hr.1, hd.2.trans hr.2⟩
    unfold Executor.runGroups
    dsimp only
    refine within_now.ensures.bind fun timing time ht => ?_
    refine (ensures_executeGroup executor ?_ _).bind ?_
    · exact hcontext
    rintro running ⟨result, groupErr⟩ hran
    refine (within_reportProgress executor _).ensures.bind fun reporting _ hreport => ?_
    have hp : tierPreempted .execution config.actionContext config.tierPolicy
        config.lowerTierDue = pure false := if_neg fun h => hpolicy h.1
    rw [hp]
    have hf := hran.frame (silent_of_quiet ht.1) (silent_of_quiet hreport.1)
    cases groupErr with
    | some error =>
      refine ensures_pure ?_
      simpa using hf.groupsRan_stop hkeeps hname
    | none =>
      refine (ih (run.absorbGroup result) herr ?_ ?_).imp fun trace final hfinal => ?_
      · exact fun other hmem => hnames other (mem_cons_of_mem _ hmem)
      · exact fun other hmem => hresolved other (mem_cons_of_mem _ hmem)
      · simpa using hf.groupsRan_next hkeeps hname hfinal

/-- A whole wave: its groups ran, or the lookup for one of them failed. -/
structure WaveRan (groups : List Group) (names : List String) (trace : Trace)
    (error : Option String) : Prop where
  declared : ∀ entry ∈ groupRecords trace, entry.action = (groupNamed groups entry.groupName).action
  called : (calledGroups trace).Sublist (executedGroups trace)
  ended : (failedLookups trace = [] ∧
      FailFast (·.groupName) Stops names (groupRecords trace) error.isSome) ∨
    ∃ name ∈ names, failedLookups trace = [name] ∧ groupRecords trace = [] ∧ error.isSome

theorem GroupsRan.waveRan {error : Option String} (h : GroupsRan groups names trace error) :
    WaveRan groups names trace error :=
  ⟨h.declared, h.called, .inl ⟨h.lookups, h.sequence⟩⟩

theorem LookedUp.waveRan (h : LookedUp [name] trace) (hname : name ∈ names) (failure : String) :
    WaveRan groups names trace (some failure) := by
  refine ⟨by simp [h.records], ?_, .inr ⟨name, hname, h.lookups, h.records, rfl⟩⟩
  simp [calledGroups, h.actions]

theorem WaveRan.frame {error : Option String} (h : WaveRan groups names trace error)
    (hbefore : Silent before) (hafter : Silent after) :
    WaveRan groups names (before ++ (trace ++ after)) error := by
  obtain ⟨hr, hacts, hl⟩ := hbefore.frame hafter trace
  refine ⟨?_, ?_, ?_⟩
  · rw [hr]
    exact h.declared
  · rw [calledGroups, executedGroups, hr, hacts]
    exact h.called
  · rw [hr, hl]
    exact h.ended

theorem ensures_runResolved (executor : Executor) {wave : Wave} (state : WaveAdaptiveState)
    (hcontext : config.actionContext.isLookup = false) (hpolicy : config.tierPolicy ≠ .preempt)
    {run : WaveExecutionResult} (herr : run.err = none)
    (hnames : ∀ name ∈ wave.groups, (groupNamed config.groups name).name = name) {looking : Trace}
    {resolution : Except ResolutionFailure ResolvedGroups}
    (hlooked : Looked wave.groups looking resolution)
    (hresolved : ∀ resolved, resolution = .ok resolved → ∀ name ∈ wave.groups,
      Keeps (groupNamed config.groups name) (resolved.get name)) :
    Ensures Steady (executor.runResolved config wave state run resolution)
      fun trace result => WaveRan config.groups wave.groups (looking ++ trace) result.1.err := by
  cases resolution with
  | error failure =>
    obtain ⟨name, hmem, hlooked⟩ := hlooked
    refine ensures_pure ?_
    rw [append_nil]
    exact hlooked.waveRan hmem failure.error
  | ok resolved =>
    refine (ensures_runGroups executor wave state hcontext hpolicy wave.groups run herr hnames
      (hresolved resolved rfl)).imp fun trace result hran => ?_
    have hf := hran.waveRan.frame hlooked silent_nil
    rwa [append_nil] at hf

theorem ensures_runWave (executor : Executor) (wave : Wave) (state : WaveAdaptiveState)
    (hcontext : config.actionContext = .execution) (hpolicy : config.tierPolicy ≠ .preempt)
    (hnames : ∀ name ∈ wave.groups, (groupNamed config.groups name).name = name) :
    Ensures Steady (executor.runWave config wave state)
      fun trace run => WaveRan config.groups wave.groups trace run.err := by
  unfold Executor.runWave Executor.resolveWaveTargets
  rw [hcontext]
  refine within_newID.ensures.bind fun naming waveRecordID hnaming => ?_
  refine (within_record (by exact trivial)).ensures.bind fun starting startErr hstarting => ?_
  refine ((ensures_resolveNames executor config.groups wave state.budget wave.groups [] hnames).and
    (asks_resolveNames executor .execution config.groups wave state.budget _ (List.Subset.refl _)
      []).ensures).bind ?_
  rintro looking resolution ⟨hl, -, hr⟩
  have hfound : ∀ resolved, resolution = .ok resolved → ∀ name ∈ wave.groups,
      Keeps (groupNamed config.groups name) (resolved.get name) := by
    intro resolved hok name hmem
    obtain ⟨hfrom, hall⟩ := hr (forall_mem_nil _) resolved hok
    exact hfrom.keeps (by simpa [hall] using hmem)
  refine (ensures_runResolved executor state (by rw [hcontext]; rfl) hpolicy rfl hnames hl
    hfound).bind ?_
  rintro running ⟨run, preempted⟩ hran
  refine within_now.ensures.bind fun completing completedAt hc => ?_
  refine (within_record (by exact trivial)).ensures.bind fun ending endErr he => ?_
  refine ensures_pure ?_
  have hopen := (silent_of_quiet hnaming.1).append (silent_of_quiet hstarting.1)
  have hclosed := (silent_of_quiet hc.1).append (silent_of_quiet he.1)
  simpa using hran.frame hopen hclosed

end NutOperator.Execution
