import NutOperator.Execution.Requests

/-! What a run of one group leaves behind: one group record, at most one call of
the action runner, and nothing that looks up targets. -/
namespace NutOperator.Execution

open Effects List

def groupRecordOf : Exchange Reply → Option ShutdownFlowExecutionGroup
  | ⟨.record _ (.group entry), _⟩ => some entry
  | _ => none

def actionOf : Exchange Reply → Option Action
  | ⟨.runAction _ action, _⟩ => some action
  | _ => none

/-- The group whose targets could not be looked up: the lookup failed, or it
outlived its limit. -/
def failedLookupOf : Exchange Reply → Option String
  | ⟨.resolveTargets _ group, (reply : Except String (List Target))⟩ =>
    match reply with
    | .error _ => some group.name
    | .ok _ => none
  | ⟨.contextErr (.lookup _ name _), (reply : Option ContextError)⟩ => reply.map fun _ => name
  | _ => none

def groupRecords (trace : Trace) : List ShutdownFlowExecutionGroup := trace.filterMap groupRecordOf

def actions (trace : Trace) : List Action := trace.filterMap actionOf

def failedLookups (trace : Trace) : List String := trace.filterMap failedLookupOf

def executedGroups (trace : Trace) : List String := (groupRecords trace).map (·.groupName)

def calledGroups (trace : Trace) : List String := (actions trace).map (·.group.name)

section

variable (before after : Trace)

@[simp] theorem groupRecords_append :
    groupRecords (before ++ after) = groupRecords before ++ groupRecords after :=
  filterMap_append

@[simp] theorem actions_append : actions (before ++ after) = actions before ++ actions after :=
  filterMap_append

@[simp] theorem failedLookups_append :
    failedLookups (before ++ after) = failedLookups before ++ failedLookups after :=
  filterMap_append

end

def Quiet : Request → Prop
  | .record _ (.group _) => False
  | .runAction _ _ => False
  | .resolveTargets _ _ => False
  | .contextErr context => context.isLookup = false
  | _ => True

structure Silent (trace : Trace) : Prop where
  records : groupRecords trace = []
  actions : actions trace = []
  lookups : failedLookups trace = []

theorem silent_nil : Silent [] := ⟨rfl, rfl, rfl⟩

theorem Silent.append {before after : Trace} (hbefore : Silent before) (hafter : Silent after) :
    Silent (before ++ after) :=
  ⟨by simp [hbefore.records, hafter.records], by simp [hbefore.actions, hafter.actions],
    by simp [hbefore.lookups, hafter.lookups]⟩

theorem Silent.frame {before after : Trace} (hbefore : Silent before) (hafter : Silent after)
    (trace : Trace) :
    groupRecords (before ++ (trace ++ after)) = groupRecords trace ∧
      Execution.actions (before ++ (trace ++ after)) = Execution.actions trace ∧
      failedLookups (before ++ (trace ++ after)) = failedLookups trace :=
  ⟨by simp [hbefore.records, hafter.records], by simp [hbefore.actions, hafter.actions],
    by simp [hbefore.lookups, hafter.lookups]⟩

theorem silent_of_quiet {trace : Trace} (h : ∀ exchange ∈ trace, Quiet exchange.1) :
    Silent trace := by
  refine ⟨?_, ?_, ?_⟩
  · refine filterMap_eq_nil_iff.mpr fun exchange hmem => ?_
    have hquiet := h exchange hmem
    unfold groupRecordOf
    split
    · exact hquiet.elim
    · rfl
  · refine filterMap_eq_nil_iff.mpr fun exchange hmem => ?_
    have hquiet := h exchange hmem
    unfold actionOf
    split
    · exact hquiet.elim
    · rfl
  · refine filterMap_eq_nil_iff.mpr fun exchange hmem => ?_
    have hquiet := h exchange hmem
    unfold failedLookupOf
    split
    · exact hquiet.elim
    · simp [Quiet, Context.isLookup] at hquiet
    · rfl

theorem quiet_of_attemptAsks (request : Request)
    (h : AttemptAsks (fun context => context.isLookup = false) request) : Quiet request := by
  cases request <;> trivial

theorem quiet_of_bookkeepingAsks (request : Request) (h : BookkeepingAsks request) :
    Quiet request := by
  cases request with
  | now => trivial
  | newID => trivial
  | record context entry =>
    cases entry <;> trivial
  | _ => exact h.elim

theorem quiet_of_closingAsks (request : Request) (h : ClosingAsks request) : Quiet request := by
  cases request with
  | now => trivial
  | contextErr context =>
    subst h
    rfl
  | record context entry => cases entry <;> trivial
  | _ => exact h.elim

theorem within_now : Within Quiet now fun _ => True := asks_now.mono quiet_of_bookkeepingAsks

theorem within_newID : Within Quiet newID fun _ => True := asks_newID.mono quiet_of_bookkeepingAsks

theorem isLookup_groupContext {config : GroupRunConfig}
    (hcontext : config.actionContext.isLookup = false) (group : Group) :
    (config.groupContext group).isLookup = false := by
  unfold GroupRunConfig.groupContext
  dsimp only
  split
  · rfl
  · exact hcontext

/-- A stretch of a run that at most calls the runner, once, for `group`. -/
structure Called (group : Group) (trace : Trace) : Prop where
  records : groupRecords trace = []
  lookups : failedLookups trace = []
  called : (calledGroups trace).Sublist [group.name]

theorem Called.frame {group : Group} {before trace after : Trace} (h : Called group trace)
    (hbefore : Silent before) (hafter : Silent after) :
    Called group (before ++ (trace ++ after)) := by
  obtain ⟨hr, hacts, hl⟩ := hbefore.frame hafter trace
  refine ⟨hr.trans h.records, hl.trans h.lookups, ?_⟩
  rw [calledGroups, hacts]
  exact h.called

section

variable {assumed : Exchange Reply → Prop}

theorem ensures_dispatchAction (executor : Executor) (config : GroupRunConfig) (context : Context)
    (attempt : GroupAttempt) :
    Ensures assumed (executor.dispatchAction config context attempt) fun trace dispatched =>
      Called attempt.group trace ∧ dispatched.group = attempt.group := by
  have hnone : Called attempt.group [] := ⟨rfl, rfl, by simp [calledGroups, actions]⟩
  unfold Executor.dispatchAction
  split
  · split
    · have hc : Ensures assumed (ask (.runAction context (config.actionFor attempt.group)))
          fun trace _ => Called attempt.group trace :=
        ensures_request fun _ _ => ⟨rfl, rfl, List.Sublist.refl _⟩
      refine hc.bind fun before reply hb => ensures_pure ?_
      rw [append_nil]
      exact ⟨hb, rfl⟩
    · exact ensures_pure ⟨hnone, rfl⟩
  · exact ensures_pure ⟨hnone, rfl⟩

theorem ensures_attemptGroup (executor : Executor) {config : GroupRunConfig}
    (haction : config.actionContext.isLookup = false) (group : Group) :
    Ensures assumed (executor.attemptGroup config group) fun trace attempt =>
      Called group trace ∧ Keeps group attempt.group := by
  have hcontext := isLookup_groupContext haction group
  unfold Executor.attemptGroup
  dsimp only
  refine ((asks_confirmReleases hcontext executor config.dryRun group).mono
    quiet_of_attemptAsks).ensures.bind ?_
  rintro confirming confirmed ⟨hconfirming, hconfirmed⟩
  refine ((asks_holdWait hcontext config.dryRun (config.effectiveWait group) confirmed).mono
    quiet_of_attemptAsks).ensures.bind ?_
  rintro holding held ⟨hhold, hheld⟩
  refine ((asks_checkContext hcontext held).mono quiet_of_attemptAsks).ensures.bind ?_
  rintro checking checked ⟨hc, hchecked⟩
  refine (ensures_dispatchAction executor config _ checked).bind ?_
  rintro dispatching dispatched ⟨hd, hdispatched⟩
  refine ((asks_checkTimeout hcontext haction _ dispatched).mono quiet_of_attemptAsks).ensures.imp
    ?_
  rintro timing attempt ⟨ht, ha⟩
  have hname : checked.group.name = group.name := by rw [hchecked, hheld, hconfirmed.keeps.1]
  have hcalled : Called group dispatching := ⟨hd.records, hd.lookups, hname ▸ hd.called⟩
  have hopen := (silent_of_quiet hconfirming).append
    ((silent_of_quiet hhold).append (silent_of_quiet hc))
  constructor
  · simpa using hcalled.frame hopen (silent_of_quiet ht)
  · rw [ha, hdispatched, hchecked, hheld]
    exact hconfirmed.keeps

end

theorem within_record {context : Context} {entry : AuditRecord}
    (h : Quiet (.record context entry)) : Within Quiet (record context entry) fun _ => True :=
  within_asked h

/-- A failure that ends the execution: a failed hook does not. -/
def Stops (entry : ShutdownFlowExecutionGroup) : Prop :=
  entry.phase = .failed ∧ entry.action ≠ actionRunHook

instance : DecidablePred Stops := fun _ => inferInstanceAs (Decidable (_ ∧ _))

section

variable (config : GroupRunConfig) (group : Group) (attempt : GroupAttempt)
  (startedAt completedAt : Time)
  (groupRecordID : String)

theorem groupVerdict_eq_none_iff (nodeReleases : Nat) (recordErr : Option String) :
    (groupVerdict attempt nodeReleases recordErr).2 = none ↔
      ¬ Stops (config.groupRecord group attempt startedAt completedAt groupRecordID) := by
  unfold groupVerdict Stops GroupRunConfig.groupRecord
  cases attempt.actionErr with
  | none => simp
  | some err =>
    by_cases hhook : attempt.group.action = actionRunHook
    · simp [hhook]
    · simp [hhook]

theorem within_concludeGroup (groupErr : Option String) :
    Within Quiet (config.concludeGroup attempt startedAt completedAt groupErr) fun result =>
      result.2 = none ↔
        ¬ Stops (config.groupRecord group attempt startedAt completedAt groupRecordID) := by
  refine ((asks_concludeGroup config attempt startedAt completedAt groupErr).mono
    quiet_of_bookkeepingAsks).imp ?_
  rintro result ⟨nodeReleases, recordErr, rfl⟩
  exact groupVerdict_eq_none_iff ..

end

/-- What one group leaves in a run: a record that says whether it may go on. -/
structure Ran (group : Group) (trace : Trace) (error : Option String) : Prop where
  recorded : ∃ entry, groupRecords trace = [entry] ∧ entry.groupName = group.name ∧
    entry.action = group.action ∧ (error = none ↔ ¬ Stops entry)
  lookups : failedLookups trace = []
  called : (calledGroups trace).Sublist [group.name]

theorem ensures_executeGroup {assumed : Exchange Reply → Prop} (executor : Executor)
    {config : GroupRunConfig} (haction : config.actionContext.isLookup = false) (group : Group) :
    Ensures assumed (executor.executeGroup config group) fun trace result =>
      Ran group trace result.2 := by
  unfold Executor.executeGroup
  refine within_now.ensures.bind fun starting startedAt hstarting => ?_
  refine (ensures_attemptGroup executor haction group).bind ?_
  rintro attempting attempt ⟨hattended, hkeeps⟩
  refine within_now.ensures.bind fun completing completedAt hcompleting => ?_
  refine within_newID.ensures.bind fun naming groupRecordID hnaming => ?_
  have hr : Ensures assumed (record config.recordContext
      (.group (config.groupRecord group attempt startedAt completedAt groupRecordID)))
      fun trace _ => groupRecords trace =
        [config.groupRecord group attempt startedAt completedAt groupRecordID] ∧
          actions trace = [] ∧ failedLookups trace = [] :=
    ensures_request fun _ _ => ⟨rfl, rfl, rfl⟩
  refine hr.bind ?_
  rintro recording groupErr ⟨hrecords, hacts, hlooks⟩
  refine (within_concludeGroup config group attempt startedAt completedAt groupRecordID
    groupErr).ensures.imp ?_
  rintro ending result ⟨he, hv⟩
  have hstarting := silent_of_quiet hstarting.1
  have hcompleting := silent_of_quiet hcompleting.1
  have hnaming := silent_of_quiet hnaming.1
  have he := silent_of_quiet he
  refine ⟨⟨_, ?_, hkeeps.1, hkeeps.2, hv⟩, ?_, ?_⟩
  · simp [hstarting.records, hattended.records, hcompleting.records, hnaming.records, hrecords,
      he.records]
  · simp [hstarting.lookups, hattended.lookups, hcompleting.lookups, hnaming.lookups, hlooks,
      he.lookups]
  · simpa [calledGroups, hstarting.actions, hcompleting.actions, hnaming.actions, hacts,
      he.actions] using hattended.called

end NutOperator.Execution
