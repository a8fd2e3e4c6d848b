import NutOperator.Execution.Overlap
import NutOperator.Execution.Sequential

/-! Enforcement is only ever lost. The flag a wave is dispatched with follows from
the input and from the approval checks before it, whatever runs beside the loop. -/
namespace NutOperator.Execution

open Effects List

/-- A call of the runner is for a hook, and says that nothing may change. -/
def Rehearses : Exchange Reply → Prop
  | ⟨.runAction _ action, _⟩ => action.dryRun = true ∧ action.group.action = actionRunHook
  | _ => True

structure EnforcementOnlyLost (input : Input) (history : History) : Prop where
  inOrder : (dispatches history).map Dispatched.label <+: input.waves.map Wave.label
  /-- The waves dispatched with effect are the first ones. -/
  effectful : ((dispatches history).filter (!·.dryRun)).map Dispatched.label <+:
    input.waves.map Wave.label
  /-- A wave without effect only rehearses, in the loop and beside it. -/
  inLoop : ∀ before exchange after, history = before ++ ⟨none, exchange⟩ :: after →
    (dispatches before).getLast?.map (·.dryRun) = some true → Rehearses exchange
  launched : ∀ slot config wave state,
    ⟨none, .launchWave slot config wave state, ()⟩ ∈ history → config.dryRun = true →
      ∀ exchange, ⟨some slot, exchange⟩ ∈ history → Rehearses exchange
  /-- After a check that refused or failed, every wave dispatched is without
  effect, and nothing but the waves launched before does more than rehearse. -/
  refused : ∀ before event after, history = before ++ event :: after →
    refusalOf event.exchange = true → (∀ dispatched ∈ dispatches after, dispatched.dryRun = true) ∧
      ∀ later ∈ after, (∀ slot ∈ launches before, later.actor ≠ some slot) →
        Rehearses later.exchange
  /-- Without a mode, an approval or a run for effect there is none. -/
  unapproved : input.dryRun = true ∨ equalFold input.mode modeEnforce = false ∨
      input.approved = false →
    (∀ dispatched ∈ dispatches history, dispatched.dryRun = true) ∧
      ∀ event ∈ history, Rehearses event.exchange

theorem rehearses_of_waveAsks {waveIndex : Int} {exchange : Exchange Reply}
    (h : WaveAsks true waveIndex exchange.1 ∨ StartsWave exchange.1) : Rehearses exchange := by
  obtain ⟨request, reply⟩ := exchange
  cases request with
  | runAction context action =>
    cases h with
    | inl hasks => exact ⟨hasks.1, hasks.2.2 rfl⟩
    | inr hs => exact hs.elim
  | _ => trivial

theorem rehearses_of_allowed {input : Input} {state : LoopState} {exchange : Exchange Reply}
    (h : loopAllowed input state exchange)
    (hdry : state.waveOpen = true → state.dryRun = true) : Rehearses exchange := by
  obtain ⟨request, reply⟩ := exchange
  cases request with
  | runAction context action => exact ⟨h.2.1.trans (hdry h.1), h.2.2 (hdry h.1)⟩
  | _ => trivial

theorem filter_not_leading {α : Type} {marked : α → Bool} {items : List α}
    (h : items.Pairwise fun first second => marked first = true → marked second = true) :
    items.filter (!marked ·) <+: items := by
  induction items with
  | nil => exact nil_prefix
  | cons item rest ih =>
    rw [pairwise_cons] at h
    by_cases hm : marked item = true
    · have hrest : rest.filter (!marked ·) = [] := by
        rw [filter_eq_nil_iff]
        intro other hmem
        simp [h.1 other hmem hm]
      simp [hm, hrest]
    · simpa [hm] using ih h.2

section

variable {executor : Executor} {input : Input} {execution : ExecutionMachine}
  {history before after : History}

variable {exchange : Exchange Reply} {event : Event Reply}

theorem Executes.dryRun_of_dispatch {dispatched : Dispatched}
    (h : Executes executor input (before ++ ⟨none, exchange⟩ :: after) execution)
    (hdispatch : dispatchOf exchange = some dispatched) :
    dispatched.dryRun = (effectiveDryRun input || (view none before).any refusalOf) := by
  obtain ⟨_, _, _, _, hd⟩ := dispatching_of_allowed h.allowed hdispatch
  obtain ⟨mid, hb⟩ := h.of_append
  rw [hd.dryRun, hb.tracks.revoked]

theorem Executes.rehearses_of_dry (h : Executes executor input (before ++ event :: after) execution)
    (hdry : (effectiveDryRun input || (view none before).any refusalOf) = true)
    (hlaunched : ∀ slot config wave state, ⟨none, .launchWave slot config wave state, ()⟩ ∈ before →
        event.actor = some slot → config.dryRun = true) : Rehearses event.exchange := by
  obtain ⟨actor, exchange⟩ := event
  cases actor with
  | none =>
    obtain ⟨mid, hb⟩ := h.of_append
    apply rehearses_of_allowed h.allowed
    intro hopen
    rw [(hb.tracks.current hopen).1, hb.tracks.revoked, hdry]
  | some slot =>
    obtain ⟨front, config, wave, state, back, rfl, hasks⟩ := h.launched
    have hflag := hlaunched slot config wave state (mem_append_right _ mem_cons_self) rfl
    rw [hflag] at hasks
    exact rehearses_of_waveAsks hasks

theorem Executes.rehearses_inLoop
    (h : Executes executor input (before ++ ⟨none, exchange⟩ :: after) execution)
    (hdry : (dispatches before).getLast?.map (·.dryRun) = some true) : Rehearses exchange := by
  obtain ⟨mid, hb⟩ := h.of_append
  apply rehearses_of_allowed h.allowed
  intro hopen
  have hc := (hb.tracks.current hopen).2
  exact Option.some_inj.mp (hc.symm.trans hdry)

theorem Executes.rehearses_launched {slot : Nat} {config : WaveRunConfig} {wave : Wave}
    {state : WaveAdaptiveState} (h : Executes executor input history execution)
    (hlaunch : ⟨none, .launchWave slot config wave state, ()⟩ ∈ history)
    (hdry : config.dryRun = true) (hmem : ⟨some slot, exchange⟩ ∈ history) :
    Rehearses exchange := by
  obtain ⟨before, after, rfl⟩ := append_of_mem hmem
  obtain ⟨front, other, second, last, back, rfl, hasks⟩ := h.launched
  have hsame := h.launch_unique hlaunch (mem_append_left _ (mem_append_right _ mem_cons_self))
  rw [← hsame.1, hdry] at hasks
  exact rehearses_of_waveAsks hasks

section

variable (h : Executes executor input (before ++ event :: after) execution)
  (hrefused : refusalOf event.exchange = true)
include h hrefused

theorem Executes.actor_of_refusal : event.actor = none := by
  obtain ⟨actor, request, reply⟩ := event
  cases actor with
  | none => rfl
  | some slot =>
    cases request with
    | approve context =>
      obtain ⟨_, _, _, _, _, _, hasks⟩ := h.launched
      cases hasks with
      | inl hasks => exact hasks.elim
      | inr hs => exact hs.elim
    | _ => cases hrefused

theorem Executes.refused : (∀ dispatched ∈ dispatches after, dispatched.dryRun = true) ∧
      ∀ later ∈ after, (∀ slot ∈ launches before, later.actor ≠ some slot) →
        Rehearses later.exchange := by
  have ha := h.actor_of_refusal hrefused
  have hany : ∀ between : History,
      (effectiveDryRun input || (view none (before ++ event :: between)).any refusalOf) = true := by
    intro between
    obtain ⟨actor, exchange⟩ := event
    cases ha
    simp [hrefused]
  have hdispatched : ∀ dispatched ∈ dispatches after, dispatched.dryRun = true := by
    intro dispatched hmem
    obtain ⟨between, exchange, rest, rfl, hd⟩ := exists_split_of_mem hmem
    rw [← cons_append, ← append_assoc] at h
    rw [h.dryRun_of_dispatch hd, hany between]
  refine ⟨hdispatched, fun later hmem hnew => ?_⟩
  obtain ⟨between, rest, rfl⟩ := append_of_mem hmem
  rw [← cons_append, ← append_assoc] at h
  refine h.rehearses_of_dry (hany between) ?_
  intro slot config wave state hl hslot
  cases mem_append.mp hl with
  | inl hb =>
    exact absurd hslot (hnew slot (mem_launches.mpr ⟨config, wave, state, hb⟩))
  | inr hlater =>
    cases mem_cons.mp hlater with
    | inl hsame =>
      rw [← hsame] at hrefused
      cases hrefused
    | inr hbetween =>
      apply hdispatched ⟨wave.index, wave.groups, config.dryRun⟩
      refine mem_filterMap.mpr ⟨⟨.launchWave slot config wave state, ()⟩, ?_, rfl⟩
      exact mem_view.mpr (mem_append_left _ hbetween)

end

theorem Executes.unapproved (h : Executes executor input history execution)
    (hdry : effectiveDryRun input = true) :
    (∀ dispatched ∈ dispatches history, dispatched.dryRun = true) ∧
      ∀ event ∈ history, Rehearses event.exchange := by
  have hd : ∀ dispatched ∈ dispatches history, dispatched.dryRun = true := by
    intro dispatched hmem
    obtain ⟨before, exchange, after, rfl, hdispatch⟩ := exists_split_of_mem hmem
    rw [h.dryRun_of_dispatch hdispatch, hdry, Bool.true_or]
  refine ⟨hd, fun event hmem => ?_⟩
  obtain ⟨before, after, rfl⟩ := append_of_mem hmem
  refine h.rehearses_of_dry (by rw [hdry, Bool.true_or]) ?_
  intro slot config wave state hl _
  apply hd ⟨wave.index, wave.groups, config.dryRun⟩
  refine mem_filterMap.mpr ⟨⟨.launchWave slot config wave state, ()⟩, ?_, rfl⟩
  exact mem_view.mpr (mem_append_left _ hl)

/-- In every execution, under every policy and whatever the approval checks
answer, enforcement is only ever lost. -/
theorem enforcement_is_only_lost (h : Executes executor input history execution) :
    EnforcementOnlyLost input history where
  inOrder := by
    rw [dispatches, h.tracks.inOrder]
    exact (List.take_prefix _ _).map _
  effectful := by
    refine ((filter_not_leading h.tracks.flags).map _).trans ?_
    rw [h.tracks.inOrder]
    exact (List.take_prefix _ _).map _
  inLoop := by
    rintro before exchange after rfl
    exact h.rehearses_inLoop
  launched := fun _ _ _ _ hl hdry _ hmem => h.rehearses_launched hl hdry hmem
  refused := by
    rintro before event after rfl
    exact h.refused
  unapproved := by
    intro hcause
    apply h.unapproved
    rcases hcause with hdry | hmode | ha
    · simp [effectiveDryRun, hdry]
    · simp [effectiveDryRun, hmode]
    · simp [effectiveDryRun, ha]

end

def tieredInput : Input :=
  { hookedInput with
    tierOverrunPolicy := some .overlap
    waves :=
      [{ index := 0, shutdownTier := some 2, duration := 60 * Data.nanosPerSecond,
         groups := ["drain"] },
        { index := 1, shutdownTier := some 1, groups := ["notify", "scale"] }] }

def approvedOnce (history : History) : (request : Request) → Reply request
  | .approve _ => .ok (history.all fun event => (dispatchOf event.exchange).isNone)
  | request => failingReply [] request

theorem tieredInput_loses_enforcement :
    let run := simulate { runner := true, approvalChecker := true } tieredInput approvedOnce
      (List.replicate 20 none ++ List.replicate 20 (some 0) ++ List.replicate 40 none)
    EnforcementOnlyLost tieredInput run.1 ∧
      (dispatches run.1).map (·.dryRun) = [false, true] ∧ launches run.1 = [0] ∧
      run.1.filterMap (fun event => (actionOf event.exchange).map fun action =>
        (event.actor, action.group.name, action.dryRun)) =
          [(none, "notify", true), (some 0, "drain", false)] :=
  ⟨enforcement_is_only_lost (executes_simulate _ _ _ _), by decide, by decide, by decide⟩

end NutOperator.Execution
