import NutOperator.Effects.Ledger
import NutOperator.Execution.WaveEvidence

/-! How long a wave takes. Its groups run one after the other, so the time of the
wave is the time that was spent on its groups, added up. -/
namespace NutOperator.Execution

open Data Effects List

abbrev TimedTrace := List (Exchange (TimedReply Reply Duration))

/-- Lookups, evidence, pauses and actions take time; bookkeeping is instant. -/
def instant : Request → Bool
  | .resolveTargets _ _ => false
  | .refreshNodeRelease _ _ => false
  | .sleep _ _ => false
  | .runAction _ _ => false
  | _ => true

def Instant (trace : TimedTrace) : Prop :=
  ∀ exchange ∈ trace, instant exchange.1 = true → exchange.2.2 = 0

structure Spent where
  uncharged : Duration := 0
  groups : List (String × Duration) := []
deriving Repr, DecidableEq

def spend (spent : Spent) (exchange : Exchange (TimedReply Reply Duration)) : Spent :=
  match exchange.1 with
  | .resolveTargets (.lookup _ name _) _ =>
    { spent with groups := (name, exchange.2.2) :: spent.groups }
  | .record _ (.group entry) =>
    { uncharged := 0
      groups := (entry.groupName, spent.uncharged + exchange.2.2) :: spent.groups }
  | _ => { spent with uncharged := spent.uncharged + exchange.2.2 }

def charges (name : String) (groups : List (String × Duration)) : Duration :=
  ((groups.filter fun charge => charge.1 = name).map (·.2)).sum

/-- The time of a group: its lookup and everything up to its record. -/
def groupTime (trace : TimedTrace) (name : String) : Duration :=
  charges name (trace.foldl spend {}).groups

def chargedTo : Request → Option String
  | .resolveTargets (.lookup _ name _) _ => some name
  | .record _ (.group entry) => some entry.groupName
  | _ => none

def spending (names : List String) : Monitor (TimedReply Reply Duration) Spent where
  advance := spend
  assumed _ exchange := instant exchange.1 = true → exchange.2.2 = 0
  allowed _ exchange := ∀ name ∈ chargedTo exchange.1, name ∈ names

theorem spend_cases (spent : Spent) (exchange : Exchange (TimedReply Reply Duration)) :
    (∃ name, chargedTo exchange.1 = some name ∧ spend spent exchange =
        { spent with groups := (name, exchange.2.2) :: spent.groups }) ∨
    (∃ name, chargedTo exchange.1 = some name ∧ spend spent exchange =
        { uncharged := 0, groups := (name, spent.uncharged + exchange.2.2) :: spent.groups }) ∨
    (chargedTo exchange.1 = none ∧
      spend spent exchange = { spent with uncharged := spent.uncharged + exchange.2.2 }) := by
  unfold spend chargedTo
  split
  · exact .inl ⟨_, rfl, rfl⟩
  · exact .inr (.inl ⟨_, rfl, rfl⟩)
  · exact .inr (.inr ⟨rfl, rfl⟩)

def Spent.total (spent : Spent) : Duration := spent.uncharged + (spent.groups.map (·.2)).sum

theorem total_spend (spent : Spent) (exchange : Exchange (TimedReply Reply Duration)) :
    (spend spent exchange).total = spent.total + exchange.2.2 := by
  obtain ⟨name, -, hspend⟩ | ⟨name, -, hspend⟩ | ⟨-, hspend⟩ := spend_cases spent exchange <;>
    rw [hspend] <;> simp [Spent.total, add_assoc, add_comm, add_left_comm]

theorem total_foldl_spend (spent : Spent) (trace : TimedTrace) :
    (trace.foldl spend spent).total = spent.total + elapsed trace := by
  induction trace generalizing spent with
  | nil => simp [elapsed]
  | cons exchange rest ih =>
    rw [foldl_cons, ih, total_spend, elapsed, elapsed, total_cons, add_assoc]

theorem charges_cons (name : String) (charge : String × Duration)
    (groups : List (String × Duration)) :
    charges name (charge :: groups) =
      (if charge.1 = name then charge.2 else 0) + charges name groups := by
  rw [charges, charges, filter_cons]
  by_cases hname : charge.1 = name <;> simp [hname]

theorem sum_charges {names : List String} (hdistinct : names.Nodup)
    {groups : List (String × Duration)} (hnames : ∀ charge ∈ groups, charge.1 ∈ names) :
    (names.map fun name => charges name groups).sum = (groups.map (·.2)).sum := by
  induction groups with
  | nil => simp [charges]
  | cons charge rest ih =>
    have hrest := ih fun other hmem => hnames other (mem_cons_of_mem _ hmem)
    have hown := sum_map_single hdistinct (hnames charge mem_cons_self) charge.2
    simp only [charges_cons, sum_map_add, hown, hrest, map_cons, sum_cons]

theorem mem_names_of_accepts {names : List String} {spent : Spent} {trace : TimedTrace}
    (h : (spending names).Accepts spent trace)
    (hspent : ∀ charge ∈ spent.groups, charge.1 ∈ names) :
    ∀ charge ∈ (trace.foldl spend spent).groups, charge.1 ∈ names := by
  induction trace generalizing spent with
  | nil => exact hspent
  | cons exchange rest ih =>
    refine ih h.2 (?_ : ∀ charge ∈ (spend spent exchange).groups, charge.1 ∈ names)
    have ha := h.1
    obtain ⟨name, hname, hspend⟩ | ⟨name, hname, hspend⟩ | ⟨-, hspend⟩ :=
      spend_cases spent exchange <;>
      rw [hspend]
    · exact forall_mem_cons.mpr ⟨ha name hname, hspent⟩
    · exact forall_mem_cons.mpr ⟨ha name hname, hspent⟩
    · exact hspent

def Charged (spent : Spent) : Prop := spent.uncharged = 0

section

variable {names : List String}

theorem keeps_charged {request : Request} (hinstant : instant request = true)
    (hnobody : chargedTo request = none) : (spending names).Keeps Charged request := by
  intro spent reply hc ha
  refine ⟨by simp [spending, hnobody], ?_⟩
  obtain ⟨name, hname, -⟩ | ⟨name, hname, -⟩ | ⟨-, hspend⟩ := spend_cases spent ⟨request, reply⟩
  · cases hnobody.symm.trans hname
  · cases hnobody.symm.trans hname
  · change Charged (spend spent ⟨request, reply⟩)
    rw [hspend]
    exact (congrArg (· + reply.2) hc).trans ((zero_add _).trans (ha hinstant))

theorem keeps_uncharged {request : Request} (hnobody : chargedTo request = none) :
    (spending names).Keeps (fun _ => True) request :=
  fun _ _ _ _ => ⟨by simp [spending, hnobody], trivial⟩

theorem instant_of_bookkeepingAsks (request : Request) (h : BookkeepingAsks request) :
    instant request = true ∧ chargedTo request = none := by
  cases request with
  | now => exact ⟨rfl, rfl⟩
  | newID => exact ⟨rfl, rfl⟩
  | record context entry => cases entry <;> first | exact ⟨rfl, rfl⟩ | exact h.elim
  | _ => exact h.elim

theorem chargedTo_of_callAsks {dryRun : Bool} {waveIndex : Int} (request : Request)
    (h : CallAsks dryRun waveIndex request) : chargedTo request = none := by
  cases request <;> first | rfl | exact h.elim

section

variable {α : Type} {asks : Request → Prop} {program : Run α} {post : α → Prop}
  (h : Within asks program post)
include h

theorem charged_within
    (hplain : ∀ request, asks request → instant request = true ∧ chargedTo request = none) :
    Triple (spending names) Charged (program.timed Duration)
      fun value spent => post value ∧ Charged spent :=
  h.timed.triple fun request hasks =>
    keeps_charged (hplain request hasks).1 (hplain request hasks).2

theorem uncharged_within (hnobody : ∀ request, asks request → chargedTo request = none) :
    Triple (spending names) (fun _ => True) (program.timed Duration) fun value _ =>
      post value ∧ True :=
  h.timed.triple fun request hasks => keeps_uncharged (hnobody request hasks)

end

theorem triple_executeGroup_spending (executor : Executor) (config : GroupRunConfig)
    {group : Group} (hname : group.name ∈ names) :
    Triple (spending names) Charged ((executor.executeGroup config group).timed Duration)
      fun _ => Charged := by
  have hclock : ∀ request, BookkeepingAsks request → chargedTo request = none :=
    fun request h => (instant_of_bookkeepingAsks request h).2
  unfold Executor.executeGroup
  refine (charged_within asks_now instant_of_bookkeepingAsks).timed_bind fun startedAt => ?_
  refine ((uncharged_within (asks_attemptGroup executor config group)
    chargedTo_of_callAsks).of_pre fun _ _ => trivial).timed_bind fun attempt => ?_
  apply triple_of_fact
  intro hconfirmed
  refine (uncharged_within asks_now hclock).timed_bind fun completedAt => ?_
  refine ((uncharged_within asks_newID hclock).of_pre fun _ _ => trivial).timed_bind
    fun groupRecordID => ?_
  have hrecord : Triple (spending names) (fun _ => True ∧ True)
      ((record config.recordContext (.group (config.groupRecord group attempt startedAt completedAt
        groupRecordID))).timed Duration) fun _ => Charged := by
    apply triple_timed_request
    intro spent reply _ _
    refine ⟨?_, rfl⟩
    rintro _ ⟨⟩
    change attempt.group.name ∈ names
    rw [hconfirmed.keeps.1]
    exact hname
  refine hrecord.timed_bind fun groupErr => ?_
  exact (charged_within (asks_concludeGroup config attempt startedAt completedAt groupErr)
    instant_of_bookkeepingAsks).imp fun _ _ h => h.2

theorem keeps_charged_of_lookupAsks {context : Context} (request : Request)
    (h : LookupAsks context names request) : (spending names).Keeps Charged request := by
  cases request with
  | contextErr ctx => exact keeps_charged rfl rfl
  | resolveTargets ctx group =>
    obtain ⟨name, hname, timeout, rfl⟩ := h
    intro spent reply hc _
    refine ⟨?_, hc⟩
    rintro _ ⟨⟩
    exact hname
  | _ => exact h.elim

theorem plain_of_reports {progress : Progress} (request : Request) (h : Reports progress request) :
    instant request = true ∧ chargedTo request = none := by
  cases request with
  | report reported => exact ⟨rfl, rfl⟩
  | _ => exact h.elim

theorem charged_tierPreempted (actionContext : Context) (policy : TierOverrunPolicy)
    (lowerTierDue : Bool) :
    Triple (spending names) Charged
      ((tierPreempted .execution actionContext policy lowerTierDue).timed Duration)
      fun _ => Charged := by
  have hw : Within (fun request => instant request = true ∧ chargedTo request = none)
      (tierPreempted .execution actionContext policy lowerTierDue) fun _ => True :=
    within_tierPreempted ⟨rfl, rfl⟩ ⟨rfl, rfl⟩ policy lowerTierDue
  exact (charged_within hw fun _ h => h).imp fun _ _ h => h.2

theorem triple_runGroups_spending (executor : Executor) (config : WaveRunConfig) (wave : Wave)
    (state : WaveAdaptiveState) (resolved : ResolvedGroups) (remaining : List String)
    (hnamed : ∀ name ∈ remaining, (resolved.get name).name ∈ names) (run : WaveExecutionResult) :
    Triple (spending names) Charged
      ((executor.runGroups config wave state resolved remaining run).timed Duration)
      fun _ => Charged := by
  induction remaining generalizing run with
  | nil => exact triple_timed_pure fun _ h => h
  | cons name rest ih =>
    have hrest := ih fun other hmem => hnamed other (mem_cons_of_mem _ hmem)
    have hname : (dispatchedGroup config wave (resolved.get name)).name ∈ names := by
      rw [(keeps_dispatchedGroup config wave (resolved.get name)).1]
      exact hnamed name mem_cons_self
    unfold Executor.runGroups
    dsimp only
    refine (charged_within asks_now instant_of_bookkeepingAsks).timed_bind fun time => ?_
    refine ((triple_executeGroup_spending executor _ hname).of_pre fun _ h => h.2).timed_bind ?_
    rintro ⟨result, groupErr⟩
    refine (charged_within (asks_reportProgress executor _) plain_of_reports).timed_bind fun _ => ?_
    refine ((charged_tierPreempted config.actionContext config.tierPolicy
      config.lowerTierDue).of_pre fun _ h => h.2).timed_bind fun preempted => ?_
    cases preempted with
    | true => exact triple_timed_pure fun _ h => h
    | false =>
      cases groupErr with
      | some err => exact triple_timed_pure fun _ h => h
      | none => exact hrest _

def DeclaresAll (groups : List Group) (names : List String) : Prop :=
  ∀ name ∈ names, groups.any (·.name = name) = true

theorem triple_runWave_spending (executor : Executor) (config : WaveRunConfig) (wave : Wave)
    (state : WaveAdaptiveState) (hdeclared : DeclaresAll config.groups wave.groups) :
    Triple (spending wave.groups) Charged
      ((executor.runWave config wave state).timed Duration) fun _ => Charged := by
  have hrecord : ∀ entry, Triple (spending wave.groups) Charged
      ((record .execution (.wave entry)).timed Duration) fun _ => Charged :=
    fun entry => triple_timed_request fun spent reply => keeps_charged rfl rfl spent reply
  unfold Executor.runWave Executor.resolveWaveTargets
  refine (charged_within asks_newID instant_of_bookkeepingAsks).timed_bind fun waveRecordID => ?_
  refine ((hrecord _).of_pre fun _ h => h.2).timed_bind fun startErr => ?_
  refine ((asks_resolveNames executor config.actionContext config.groups wave state.budget _
    (List.Subset.refl _)
    []).timed.triple keeps_charged_of_lookupAsks).timed_bind fun resolution => ?_
  apply triple_of_fact
  intro hr
  have hgroups : Triple (spending wave.groups) Charged
      ((executor.runResolved config wave state { recordError := startErr } resolution).timed
        Duration) fun _ => Charged := by
    cases resolution with
    | error failure => exact triple_timed_pure fun _ h => h
    | ok resolved =>
      apply triple_runGroups_spending
      intro name hmem
      obtain ⟨hfrom, hall⟩ := hr (forall_mem_nil _) resolved rfl
      rw [(hfrom.keeps (by simpa [hall] using hmem)).1, (groupNamed_of_mem (hdeclared name hmem)).2]
      exact hmem
  refine hgroups.timed_bind ?_
  rintro ⟨run, preempted⟩
  refine (charged_within asks_now instant_of_bookkeepingAsks).timed_bind fun completedAt => ?_
  exact ((hrecord _).of_pre fun _ h => h.2).timed_bind fun endErr => triple_timed_pure fun _ h => h

theorem elapsed_runWave {executor : Executor} {config : WaveRunConfig} {wave : Wave}
    {state : WaveAdaptiveState} {trace : TimedTrace} {run : WaveExecutionResult}
    (hrun : Runs ((executor.runWave config wave state).timed Duration) trace run)
    (hinstant : Instant trace) (hdeclared : DeclaresAll config.groups wave.groups)
    (hdistinct : wave.groups.Nodup) :
    elapsed trace = (wave.groups.map fun name => groupTime trace name).sum := by
  have ha : (spending wave.groups).Assumes {} trace := by
    apply Monitor.along_of_mem
    intro exchange hmem _
    exact hinstant exchange hmem
  obtain ⟨haccepts, hc⟩ :=
    triple_runWave_spending executor config wave state hdeclared {} trace run rfl hrun ha
  have hn := mem_names_of_accepts haccepts nofun
  calc elapsed trace
    _ = (trace.foldl spend {}).total := by
        rw [total_foldl_spend]
        exact (zero_add _).symm
    _ = ((trace.foldl spend {}).groups.map (·.2)).sum := by
        rw [Spent.total, show (trace.foldl spend {}).uncharged = 0 from hc, zero_add]
    _ = (wave.groups.map fun name => groupTime trace name).sum := (sum_charges hdistinct hn).symm

end

end NutOperator.Execution
