import Mathlib.Data.Prod.Lex
import NutOperator.Controller.Reconcile

/-! Episodes. The deduplication key of an eligible flow is computed from the holds
that the status carries from pass to pass, so what keeps an episode from being
executed twice is that its holds are found again as they were written. -/
namespace NutOperator.Controller

open Data Triggers List
open Execution (Time)

def eligibleTriggers (evaluation : ShutdownTriggerEvaluationStatus) : List String :=
  (evaluation.decisions.filter (·.eligible)).map (·.triggerID)

def Pass.matchesTrigger (pass : Pass) (triggerID device : String) : Bool :=
  ((triggerInputsFromFlow pass.flow.spec.triggers).mapIdx normalizeTrigger).any fun trigger =>
    trigger.id = triggerID && matchesDevice trigger
      (normalizeUPSStates (triggerUPSStatesFromDevices pass.devices pass.bundle)) device

structure Continues (flow : ShutdownFlow) (status : ShutdownFlowStatus) (pass : Pass)
    (compiled : CompiledFlow) (previous : ShutdownTriggerEvaluationStatus) : Prop where
  name : pass.flow.name = flow.name
  generation : pass.flow.generation = flow.generation
  mode : effectiveShutdownFlowMode pass.flow.spec.mode = effectiveShutdownFlowMode flow.spec.mode
  accepted : pass.accepted = some compiled
  found : status.triggerEvaluation = some previous
  eligible : (pass.evaluation status compiled).eligible = true
  configHash : compiled.configHash = status.configHash
  triggers : ∀ triggerID, triggerID ∈ eligibleTriggers (pass.evaluation status compiled) ↔
    triggerID ∈ eligibleTriggers previous
  devices : (pass.evaluation status compiled).selectedUPSDevices = previous.selectedUPSDevices
  /-- Every device that matched an eligible trigger still does. -/
  unbroken : ∀ hold ∈ status.triggerHoldStates, hold.triggerID ∈ eligibleTriggers previous →
    pass.matchesTrigger hold.triggerID hold.upsDevice = true

/-- A pass of an episode: it writes nothing, or it finds the episode going on. -/
def InEpisode (flow : ShutdownFlow) (status : ShutdownFlowStatus) (pass : Pass) : Prop :=
  pass.skips = true ∨ ∃ compiled previous, Continues flow status pass compiled previous

def BeginsInOrder (status : ShutdownFlowStatus) (pass : Pass) : Prop :=
  pass.skips = true ∨ ∀ previous, status.triggerEvaluation = some previous →
    ∀ triggerID ∈ eligibleTriggers previous, ∀ device, pass.matchesTrigger triggerID device = true →
      (∀ hold ∈ status.triggerHoldStates, hold.triggerID = triggerID → hold.upsDevice ≠ device) →
      ∃ hold ∈ status.triggerHoldStates, hold.triggerID = triggerID ∧
        hold.startedAt ≤ pass.observedAt

section

variable {identities : Identities} {flow : ShutdownFlow} {status : ShutdownFlowStatus}
  {pass : Pass} {compiled : CompiledFlow} {evaluation other : ShutdownTriggerEvaluationStatus}

theorem episodeLess_iff (left right : EligibleTriggerEpisode) : episodeLess left right = true ↔
      toLex (left.triggerID, left.holdStartedAt.getD 0) <
        toLex (right.triggerID, right.holdStartedAt.getD 0) := by
  rw [Prod.Lex.toLex_lt_toLex, episodeLess]
  by_cases hid : left.triggerID = right.triggerID <;> simp [hid]

theorem eligibleTriggerEpisodes_congr (hdistinct : (eligibleTriggers evaluation).Nodup)
    (hother : (eligibleTriggers other).Nodup)
    (h : ∀ episode, episode ∈ eligibleTriggerEpisodes evaluation ↔
      episode ∈ eligibleTriggerEpisodes other) :
    eligibleTriggerEpisodes evaluation = eligibleTriggerEpisodes other := by
  simp only [eligibleTriggerEpisodes, mem_sortStable] at h
  have hids : ∀ evaluation : ShutdownTriggerEvaluationStatus,
      (((evaluation.decisions.filter (·.eligible)).map fun decision =>
        (⟨decision.triggerID, triggerEpisodeBoundary decision evaluation⟩ :
          EligibleTriggerEpisode)).map (·.triggerID)) = eligibleTriggers evaluation := by
    intro evaluation
    simp [eligibleTriggers, Function.comp_def]
  rw [← hids] at hdistinct hother
  refine sortStable_eq_of_perm episodeLess_iff
    ((perm_ext_iff_of_nodup hdistinct.of_map hother.of_map).mpr h) ?_
  intro left hleft right hr hkey
  exact inj_on_of_nodup_map hdistinct hleft hr (Prod.ext_iff.mp (toLex_inj.mp hkey)).1

def Bounded (timers : String → String → Option Time)
    (evaluation : ShutdownTriggerEvaluationStatus) : Prop :=
  ∀ decision ∈ evaluation.decisions, decision.eligible = true →
    ∃ first, decision.holdStartedAt = some first ∧
      IsLeast (starts (timers decision.triggerID)) first

theorem mem_eligibleTriggers {triggerID : String} : triggerID ∈ eligibleTriggers evaluation ↔
      ∃ decision ∈ evaluation.decisions, decision.eligible = true ∧ decision.triggerID =
        triggerID := by
  simp [eligibleTriggers, and_assoc]

theorem mem_eligibleTriggerEpisodes {timers : String → String → Option Time}
    (hbound : Bounded timers evaluation) {episode : EligibleTriggerEpisode} :
    episode ∈ eligibleTriggerEpisodes evaluation ↔ episode.triggerID ∈ eligibleTriggers evaluation ∧
        ∃ first, episode.holdStartedAt = some first ∧
          IsLeast (starts (timers episode.triggerID)) first := by
  simp only [eligibleTriggerEpisodes, mem_sortStable, mem_map, mem_filter, mem_eligibleTriggers]
  constructor
  · rintro ⟨decision, ⟨hmem, he⟩, rfl⟩
    obtain ⟨first, hf, hl⟩ := hbound decision hmem he
    exact ⟨⟨decision, hmem, he, rfl⟩, first, by simp [triggerEpisodeBoundary, hf], hl⟩
  · rintro ⟨⟨decision, hmem, he, hid⟩, first, hs, hl⟩
    obtain ⟨known, hk, hearlier⟩ := hbound decision hmem he
    rw [hid] at hearlier
    obtain rfl := hearlier.unique hl
    refine ⟨decision, ⟨hmem, he⟩, ?_⟩
    rw [triggerEpisodeBoundary, hk, hid, Option.some_or, ← hs]

def Pass.inputs (pass : Pass) (status : ShutdownFlowStatus) : Inputs :=
  triggerInputs pass.devices pass.bundle (pass.read status) pass.observedAt

def ShutdownFlowStatus.timers (status : ShutdownFlowStatus) (triggerID device : String) :
    Option Time :=
  deviceTimers (triggerHoldsFromStatus status.triggerHoldStates) triggerID device

def Whole (status : ShutdownFlowStatus) : Prop :=
  ∀ hold ∈ status.triggerHoldStates, wholeSecond hold.startedAt = hold.startedAt

theorem whole_persist (status : ShutdownFlowStatus) : Whole (persist status) := by
  intro hold hmem
  obtain ⟨original, -, rfl⟩ := mem_map.mp hmem
  exact wholeSecond_wholeSecond _

theorem whole_runPass (hwhole : Whole status) : Whole (runPass identities status pass).1 := by
  unfold runPass
  split
  · exact hwhole
  · split <;> exact whole_persist _

theorem whole_evaluate (hwhole : Whole status) : ∀ hold ∈ (evaluate (pass.inputs status)).holds,
      wholeSecond hold.startedAt = hold.startedAt := by
  intro hold hmem
  obtain ⟨index, trigger, -, state, -, rfl⟩ := mem_holds_evaluate.mp hmem
  simp only [holdStart_holdIndex]
  cases hr : deviceTimers (pass.inputs status).holds (normalizeTrigger index trigger).id
      state.upsDevice with
  | none => exact wholeSecond_wholeSecond _
  | some start =>
    have hs : ∀ hold ∈ (pass.inputs status).holds,
        wholeSecond hold.startedAt = hold.startedAt := by
      intro hold hmem
      obtain ⟨original, ho, rfl⟩ := mem_map.mp hmem
      exact hwhole original ho
    exact @deviceTimers_of_forall _ (fun start => wholeSecond start = start) hs _ _ _ hr

theorem persist_triggerHoldStatus {holds : List HoldState}
    (hwhole : ∀ hold ∈ holds, wholeSecond hold.startedAt = hold.startedAt) :
    (triggerHoldStatus holds).map persistHold = triggerHoldStatus holds := by
  rw [triggerHoldStatus, map_map]
  apply map_congr_left
  intro hold hmem
  simp [persistHold, hwhole hold hmem]

@[simp] theorem persistEvaluation_persistEvaluation (evaluation : ShutdownTriggerEvaluationStatus) :
    persistEvaluation (persistEvaluation evaluation) = persistEvaluation evaluation := by
  simp [persistEvaluation, persistDecision, Function.comp_def]

theorem KeepsPlan.persist {before after : ShutdownFlowStatus} (h : KeepsPlan before after) :
    KeepsPlan (persist before) (persist after) := by
  refine ⟨h.configHash, ?_, ?_⟩ <;>
    simp only [Controller.persist, h.triggerEvaluation, h.triggerHoldStates]

theorem keepsPlan_runShutdownFlow : KeepsPlan flow.status
      (runShutdownFlow identities pass flow compiled evaluation).1.status := by
  unfold runShutdownFlow
  split
  · exact ⟨rfl, rfl, rfl⟩
  · exact ⟨rfl, rfl, rfl⟩
  · simp only
    split <;> exact ⟨rfl, rfl, rfl⟩
  · exact keepsPlan_executeShutdownFlow

theorem runPass_of_accepted (identities : Identities) (hwhole : Whole status)
    (haccepted : pass.accepted = some compiled) :
    (runPass identities status pass).1.configHash = compiled.configHash ∧
      (runPass identities status pass).1.triggerEvaluation =
        some (persistEvaluation (pass.evaluation status compiled)) ∧
      (runPass identities status pass).1.triggerHoldStates =
        triggerHoldStatus (evaluate (pass.inputs status)).holds := by
  have hran : (runPass identities status pass).1 =
      persist (runShutdownFlow identities pass (pass.stored status compiled) compiled
        (pass.evaluation status compiled)).1.status := by
    simp [runPass, not_skips_of_accepted haccepted, haccepted]
  have hkept : KeepsPlan (pass.stored status compiled).status
      (runShutdownFlow identities pass (pass.stored status compiled) compiled
        (pass.evaluation status compiled)).1.status := keepsPlan_runShutdownFlow
  obtain ⟨hc, heval, hh⟩ := ((keepsPlan_publish pass _ true).persist.trans hkept).persist
  rw [hran]
  refine ⟨hc, heval.trans ?_, hh.trans ?_⟩
  · simp [Controller.persist]
  · have hw : (triggerHoldStatus (evaluate (pass.inputs status)).holds).map persistHold =
        triggerHoldStatus (evaluate (pass.inputs status)).holds :=
      persist_triggerHoldStatus (whole_evaluate hwhole)
    exact (congrArg (List.map persistHold) hw).trans hw

theorem named_inputs (pass : Pass) (status : ShutdownFlowStatus) :
    Named (pass.inputs status).triggers :=
  named_triggerInputsFromFlow pass.flow.spec.triggers

theorem exists_trigger_of_eligible {triggerID : String}
    (h : triggerID ∈ eligibleTriggers (pass.evaluation status compiled)) :
    ∃ index trigger, (pass.inputs status).triggers[index]? = some trigger ∧
      (normalizeTrigger index trigger).id = triggerID := by
  obtain ⟨decision, hmem, -, rfl⟩ := mem_eligibleTriggers.mp h
  obtain ⟨original, ho, rfl⟩ := mem_map.mp hmem
  obtain ⟨index, trigger, hat, rfl⟩ := mem_decisions_evaluate.mp ho
  exact ⟨index, trigger, hat, (triggerID_evaluateTrigger _ _ _ _).symm⟩

theorem nodup_eligibleTriggers_evaluation :
    (eligibleTriggers (pass.evaluation status compiled)).Nodup := by
  have hids : (pass.evaluation status compiled).decisions.map (·.triggerID) =
      (evaluate (pass.inputs status)).decisions.map (·.triggerID) := by
    simp only [Pass.evaluation, evaluateShutdownFlowTriggers, triggerEvaluationStatus, map_map]
    rfl
  have hd := nodup_triggerIDs_evaluate (named_inputs pass status)
  rw [← hids] at hd
  exact hd.sublist (filter_sublist.map _)

theorem bounded_evaluation : Bounded (deviceTimers (evaluate (pass.inputs status)).holds)
    (pass.evaluation status compiled) := by
  intro decision hmem he
  obtain ⟨original, ho, rfl⟩ := mem_map.mp hmem
  obtain ⟨index, trigger, hat, rfl⟩ := mem_decisions_evaluate.mp ho
  obtain ⟨first, hf⟩ := Option.isSome_iff_exists.mp (isSome_holdStartedAt_of_eligible he)
  refine ⟨first, hf, ?_⟩
  simp only [triggerDecisionStatus, triggerID_evaluateTrigger]
  rw [deviceTimers_evaluate (named_inputs pass status) hat]
  exact holdStartedAt_eq_some.mp hf

theorem matchesTrigger_eq {index : Nat} {trigger : Trigger}
    (hat : (pass.inputs status).triggers[index]? = some trigger) (device : String) :
    pass.matchesTrigger (normalizeTrigger index trigger).id device =
      matchesDevice (normalizeTrigger index trigger)
        (normalizeUPSStates (pass.inputs status).upsStates) device := by
  rw [Bool.eq_iff_iff, Pass.matchesTrigger, any_eq_true]
  simp only [mem_mapIdx, Bool.and_eq_true, decide_eq_true_eq]
  constructor
  · rintro ⟨named, ⟨position, hp, rfl⟩, hid, hm⟩
    obtain rfl := (named_inputs pass status).distinct _ _ _ _
      (List.getElem?_eq_getElem hp) hat hid
    obtain rfl := Option.some.inj ((List.getElem?_eq_getElem hp).symm.trans hat)
    exact hm
  · intro hm
    obtain ⟨hidx, rfl⟩ := List.getElem?_eq_some_iff.mp hat
    exact ⟨_, ⟨index, hidx, rfl⟩, rfl, hm⟩

structure Recorded (status : ShutdownFlowStatus) (evaluation : ShutdownTriggerEvaluationStatus) :
    Prop where
  triggerEvaluation : status.triggerEvaluation = some (persistEvaluation evaluation)
  distinct : (eligibleTriggers evaluation).Nodup
  bounded : Bounded status.timers evaluation
  holds : ∀ triggerID ∈ eligibleTriggers evaluation, ∀ device start,
    status.timers triggerID device = some start ↔
      ⟨triggerID, device, start⟩ ∈ status.triggerHoldStates

theorem timers_of_accepted (hwhole : Whole status) (haccepted : pass.accepted = some compiled) :
    (runPass identities status pass).1.timers =
      deviceTimers (evaluate (pass.inputs status)).holds := by
  funext triggerID device
  rw [ShutdownFlowStatus.timers, (runPass_of_accepted identities hwhole haccepted).2.2,
    triggerHoldsFromStatus_triggerHoldStatus]

theorem recorded_runPass (hwhole : Whole status) (haccepted : pass.accepted = some compiled) :
    Recorded (runPass identities status pass).1 (pass.evaluation status compiled) := by
  obtain ⟨-, heval, hh⟩ := runPass_of_accepted identities hwhole haccepted
  have htime := @timers_of_accepted identities _ _ _ hwhole haccepted
  refine ⟨heval, nodup_eligibleTriggers_evaluation, htime ▸ bounded_evaluation, ?_⟩
  intro triggerID hmem device start
  obtain ⟨index, trigger, hat, rfl⟩ := exists_trigger_of_eligible hmem
  rw [htime, deviceTimers_evaluate_eq_some (named_inputs pass status) hat, hh,
    mem_triggerHoldStatus]

theorem eligibleTriggers_persistEvaluation (evaluation : ShutdownTriggerEvaluationStatus) :
    eligibleTriggers (persistEvaluation evaluation) = eligibleTriggers evaluation := by
  simp [eligibleTriggers, persistEvaluation, persistDecision, filter_map, Function.comp_def]

section

variable {previous : ShutdownTriggerEvaluationStatus}

section

variable (h : Continues flow status pass compiled previous)

include h

theorem Continues.previous_eq
    (hrecorded : Recorded status evaluation) : previous = persistEvaluation evaluation :=
  Option.some.inj (h.found.symm.trans hrecorded.triggerEvaluation)

theorem Continues.mem_eligibleTriggers (hrecorded : Recorded status evaluation)
    {triggerID : String} :
    triggerID ∈ eligibleTriggers previous ↔ triggerID ∈ eligibleTriggers evaluation := by
  rw [h.previous_eq hrecorded, eligibleTriggers_persistEvaluation]

section

variable (horder : BeginsInOrder status pass) (hrecorded : Recorded status evaluation)

include horder hrecorded

theorem Continues.isLeast
    {triggerID : String} (hmem : triggerID ∈ eligibleTriggers evaluation) {first : Time}
    (hfirst : IsLeast (starts (status.timers triggerID)) first) :
    IsLeast (starts (deviceTimers (evaluate (pass.inputs status)).holds triggerID)) first := by
  have hprev := (h.mem_eligibleTriggers hrecorded).mpr hmem
  have hnow := (h.triggers triggerID).mpr hprev
  obtain ⟨index, trigger, hat, ht⟩ := exists_trigger_of_eligible hnow
  have htick := deviceTimers_evaluate (named_inputs pass status) hat
  have hmatch := matchesTrigger_eq hat
  rw [ht] at htick hmatch
  rw [htick]
  refine (isLeast_starts_tick hfirst ?_).mpr ?_
  · intro device hr
    obtain ⟨start, hs⟩ := Option.isSome_iff_exists.mp hr
    rw [← hmatch]
    have hhold := (hrecorded.holds triggerID hmem device start).mp hs
    exact h.unbroken ⟨triggerID, device, start⟩ hhold hprev
  · intro device hmatches hnew
    rw [← hmatch] at hmatches
    have hheld : ∀ hold ∈ status.triggerHoldStates, hold.triggerID = triggerID →
        status.timers triggerID hold.upsDevice = some hold.startedAt := by
      rintro hold hhold rfl
      exact (hrecorded.holds _ hmem hold.upsDevice hold.startedAt).mpr hhold
    have hf : ∀ hold ∈ status.triggerHoldStates, hold.triggerID = triggerID →
        hold.upsDevice ≠ device := by
      rintro hold hhold hid rfl
      exact absurd ((hheld hold hhold hid).symm.trans hnew) (Option.some_ne_none _)
    obtain ⟨hold, hhold, hid, hb⟩ := (horder.resolve_left (by
      simp [not_skips_of_accepted h.accepted])) previous h.found triggerID hprev device hmatches hf
    exact (hfirst.2 ⟨_, hheld hold hhold hid⟩).trans hb

theorem Continues.eligibleTriggerEpisodes_eq :
    eligibleTriggerEpisodes (pass.evaluation status compiled) =
      eligibleTriggerEpisodes evaluation := by
  apply eligibleTriggerEpisodes_congr nodup_eligibleTriggers_evaluation hrecorded.distinct
  intro episode
  rw [mem_eligibleTriggerEpisodes bounded_evaluation,
    mem_eligibleTriggerEpisodes hrecorded.bounded, h.triggers, h.mem_eligibleTriggers hrecorded]
  refine and_congr_right fun hmem => exists_congr fun first => and_congr_right fun _ => ?_
  refine ⟨fun hnow => ?_, h.isLeast horder hrecorded hmem⟩
  obtain ⟨decision, hd, he, hid⟩ := Controller.mem_eligibleTriggers.mp hmem
  obtain ⟨known, -, hk⟩ := hrecorded.bounded decision hd he
  rw [hid] at hk
  rwa [(h.isLeast horder hrecorded hmem hk).unique hnow] at hk

theorem Continues.key_eq :
    shutdownExecutionDeduplicationKey identities flow (pass.evaluation status compiled)
        compiled.configHash =
      shutdownExecutionDeduplicationKey identities flow evaluation status.configHash := by
  have hd : (pass.evaluation status compiled).selectedUPSDevices =
      evaluation.selectedUPSDevices := by
    rw [h.devices, h.previous_eq hrecorded]
    rfl
  rw [shutdownExecutionDeduplicationKey, h.eligibleTriggerEpisodes_eq horder hrecorded, hd,
    h.configHash, shutdownExecutionDeduplicationKey]

end

theorem Continues.flow_key (evaluation : ShutdownTriggerEvaluationStatus) (configHash : String) :
    shutdownExecutionDeduplicationKey identities pass.flow evaluation configHash =
      shutdownExecutionDeduplicationKey identities flow evaluation configHash := by
  rw [shutdownExecutionDeduplicationKey, h.name, h.generation, h.mode,
    shutdownExecutionDeduplicationKey]

end

end

/-- An eligible flow asks for the execution of its episode and for nothing else. -/
theorem passTurn_of_eligible (identities : Identities) (haccepted : pass.accepted = some compiled)
    (heligible : (pass.evaluation status compiled).eligible = true) :
    (passTurn identities status pass).KeepsTo
      (shutdownExecutionDeduplicationKey identities pass.flow (pass.evaluation status compiled)
        compiled.configHash) := by
  simp only [passTurn, not_skips_of_accepted haccepted, haccepted, Bool.false_eq_true, if_false]
  split
  · right
    simp only [executionTurn, occasion, heligible, if_true]
    exact ⟨_, rfl⟩
  · exact .inl rfl

theorem keepsTo_of_inEpisode {passes : List Pass} (hwhole : Whole status)
    (hrecorded : Recorded status evaluation)
    (hpasses : Along identities
      (fun status pass => InEpisode flow status pass ∧ BeginsInOrder status pass) status passes) :
    ∀ turn ∈ passTurns identities status passes, turn.KeepsTo
      (shutdownExecutionDeduplicationKey identities flow evaluation status.configHash) := by
  induction passes generalizing status evaluation with
  | nil => simp [passTurns, trail]
  | cons pass rest ih =>
    obtain ⟨⟨hpass, horder⟩, hrest⟩ := hpasses
    rw [passTurns_cons, forall_mem_cons]
    rcases hpass with hskips | ⟨compiled, previous, hcont⟩
    · have hsame : (runPass identities status pass).1 = status := by simp [runPass, hskips]
      rw [hsame] at hrest ⊢
      exact ⟨.inl (by simp [passTurn, hskips]), ih hwhole hrecorded hrest⟩
    · have hturn := passTurn_of_eligible identities hcont.accepted hcont.eligible
      rw [hcont.flow_key, hcont.key_eq horder hrecorded] at hturn
      refine ⟨hturn, ?_⟩
      have hnext := ih (whole_runPass hwhole) (recorded_runPass hwhole hcont.accepted) hrest
      rwa [(runPass_of_accepted identities hwhole hcont.accepted).1,
        hcont.key_eq horder hrecorded] at hnext

end

/-- An episode is executed at most once. The clock may stand still or go back as
long as no device begins to match an eligible trigger before its earliest hold. -/
theorem length_started_le_one_of_inEpisode (identities : Identities)
    (initial : ShutdownFlowStatus) (first : Pass) (rest : List Pass) (compiled : CompiledFlow)
    (haccepted : first.accepted = some compiled)
    (heligible : (first.evaluation (persist initial) compiled).eligible = true)
    (hrest : Along identities
      (fun status pass => InEpisode first.flow status pass ∧ BeginsInOrder status pass)
      (runPass identities (persist initial) first).1 rest) :
    (started identities (persist initial) (first :: rest)).length ≤ 1 := by
  have hw := whole_persist initial
  have hturn := passTurn_of_eligible identities haccepted heligible
  have hturns := keepsTo_of_inEpisode (whole_runPass hw) (recorded_runPass hw haccepted) hrest
  rw [(runPass_of_accepted identities hw haccepted).1] at hturns
  have hkeys := started_eq_latchRun identities (persist initial) (first :: rest)
  rw [← List.length_map, hkeys]
  exact length_latchRun_le_one (List.forall_mem_cons.mpr ⟨hturn, hturns⟩)

def twoTriggerFlow : ShutdownFlow :=
  { name := "rack", generation := 1
    spec :=
      { triggers :=
          [{ type := .runtimeBelow, upsDeviceRefs := ["ups-a", "ups-b"],
             runtimeBelowSeconds := some 600 },
           { type := .onBattery, upsDeviceRefs := ["ups-b"] }] } }

def outagePass (now : Time) (runtime : Int) : Pass where
  flow := twoTriggerFlow
  now := now
  devices := [{ name := "ups-a", phase := some .onBattery, runtimeSeconds := some 300 },
     { name := "ups-b", phase := some .onBattery, runtimeSeconds := some runtime }]
  compilation := .compiled { configHash := "plan" }
  worker := idleWorker

theorem beginsInOrder_of_forall {status : ShutdownFlowStatus} {pass : Pass}
    (h : ∀ previous ∈ status.triggerEvaluation, ∀ triggerID ∈ eligibleTriggers previous,
      ∃ hold ∈ status.triggerHoldStates, hold.triggerID = triggerID ∧
        hold.startedAt ≤ pass.observedAt) : BeginsInOrder status pass :=
  .inr fun previous hf triggerID hmem _ _ _ => h previous hf triggerID hmem

theorem inEpisode_outagePass {status : ShutdownFlowStatus} {now : Time} {runtime : Int}
    (previous : ShutdownTriggerEvaluationStatus)
    (h : let evaluation := (outagePass now runtime).evaluation status { configHash := "plan" }
      status.triggerEvaluation = some previous ∧ evaluation.eligible = true ∧
      "plan" = status.configHash ∧ eligibleTriggers evaluation = eligibleTriggers previous ∧
      evaluation.selectedUPSDevices = previous.selectedUPSDevices ∧
      ∀ hold ∈ status.triggerHoldStates, hold.triggerID ∈ eligibleTriggers previous →
        (outagePass now runtime).matchesTrigger hold.triggerID hold.upsDevice = true) :
    InEpisode twoTriggerFlow status (outagePass now runtime) := by
  obtain ⟨hf, he, hplan, ht, hrest⟩ := h
  exact .inr ⟨{ configHash := "plan" }, previous, rfl, rfl, rfl, rfl, hf, he, hplan,
    fun _ => by rw [ht], hrest.1, hrest.2⟩

/-- In the second pass the other device begins to match the first trigger. -/
theorem outage_is_executed_once :
    let first := outagePass 100500000000 900
    let rest := [outagePass 101700000000 300, outagePass 101900000000 200]
    let after := (runPass plainIdentities (persist {}) first).1
    (started plainIdentities (persist {}) [first]).length = 1 ∧
      Along plainIdentities
        (fun status pass => InEpisode first.flow status pass ∧ BeginsInOrder status pass)
        after rest ∧
      (started plainIdentities (persist {}) (first :: rest)).length ≤ 1 := by
  intro first rest after
  have hrest : Along plainIdentities
      (fun status pass => InEpisode first.flow status pass ∧ BeginsInOrder status pass)
      after rest := by
    refine ⟨⟨?_, beginsInOrder_of_forall (by decide)⟩,
      ⟨?_, beginsInOrder_of_forall (by decide)⟩, trivial⟩
    · exact inEpisode_outagePass (persistEvaluation (first.evaluation (persist {})
        { configHash := "plan" })) (by decide)
    · exact inEpisode_outagePass (persistEvaluation ((outagePass 101700000000 300).evaluation after
        { configHash := "plan" })) (by decide)
  exact ⟨by decide, hrest, length_started_le_one_of_inEpisode plainIdentities {} first rest
    { configHash := "plan" } (by decide) (by decide) hrest⟩

/-- The clock goes back before the second pass, where the other device begins to
match the first trigger: its hold is earlier than the one of the first device. -/
theorem rewound_outage_is_executed_twice :
    let first := outagePass 100500000000 900
    let second := outagePass 50000000000 300
    (first.evaluation (persist {}) { configHash := "plan" }).eligible = true ∧
      Along plainIdentities (InEpisode first.flow)
        (runPass plainIdentities (persist {}) first).1 [second] ∧
      (started plainIdentities (persist {}) [first, second]).length = 2 := by
  intro first second
  refine ⟨by decide, ⟨?_, trivial⟩, by decide⟩
  exact inEpisode_outagePass (persistEvaluation (first.evaluation (persist {})
    { configHash := "plan" })) (by decide)

end NutOperator.Controller
