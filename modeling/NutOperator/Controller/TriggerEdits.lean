import NutOperator.Controller.Episodes

/-! Holds across edits of a flow. A hold is kept under the position and the class of
its trigger, so it outlives an edit that leaves both: the new trigger goes on with
the time that the old one has waited. -/
namespace NutOperator.Controller

open Data Triggers List
open Execution (Time)

def Pass.triggers (pass : Pass) : List Trigger := triggerInputsFromFlow pass.flow.spec.triggers

def Pass.upsStates (pass : Pass) : List UPSState :=
  normalizeUPSStates (triggerUPSStatesFromDevices pass.devices pass.bundle)

def ticksOf (passes : List Pass) : List Pass := passes.filter fun pass => !pass.skips

def statusAfter (identities : Identities) (passes : List Pass) : ShutdownFlowStatus :=
  passes.foldl (fun status pass => (runPass identities status pass).1) {}

/-- From one tick to the next no trigger is replaced by another of its class. -/
def KeepsDeclarations (earlier later : Pass) : Prop :=
  earlier.accepted.isSome → later.accepted.isSome → ∀ (index : Nat) (old new : Trigger),
    earlier.triggers[index]? = some old → later.triggers[index]? = some new →
    old.type = new.type → old = new

theorem positionID_type_inj {index : Nat} {type other : ShutdownTriggerType}
    (h : positionID index type = positionID index other) : type = other := by
  have hl := congrArg String.toList h
  rw [toList_positionID, toList_positionID] at hl
  have hlower := (List.cons.inj (append_cancel_left (append_cancel_left hl))).2
  revert hlower
  cases type <;> cases other <;> decide

theorem positionID_of_trigger {pass : Pass} {index : Nat} {trigger : Trigger}
    (hat : pass.triggers[index]? = some trigger) :
    ∃ type : ShutdownTriggerType, trigger.type = type.text ∧
      (normalizeTrigger index trigger).id = positionID index type := by
  rw [Pass.triggers, triggerInputsFromFlow, List.getElem?_map, Option.map_eq_some_iff] at hat
  obtain ⟨declared, -, rfl⟩ := hat
  refine ⟨declared.type, rfl, ?_⟩
  have hu : trimSpace "" = "" := by decide
  simp only [normalizeTrigger, hu, if_true, trimSpace_text, positionID]

section

variable {identities : Identities} {status : ShutdownFlowStatus} {pass : Pass}

variable {triggerID : String}

theorem matchesTrigger_iff {device : String} : pass.matchesTrigger triggerID device = true ↔
      ∃ index trigger, pass.triggers[index]? = some trigger ∧
        (normalizeTrigger index trigger).id = triggerID ∧
        matchesDevice (normalizeTrigger index trigger) pass.upsStates device = true := by
  simp only [Pass.matchesTrigger, any_eq_true, mem_mapIdx, Bool.and_eq_true, decide_eq_true_eq]
  constructor
  · rintro ⟨named, ⟨index, hidx, rfl⟩, hid, hm⟩
    exact ⟨index, _, List.getElem?_eq_getElem hidx, hid, hm⟩
  · rintro ⟨index, trigger, hat, hid, hm⟩
    obtain ⟨hidx, rfl⟩ := List.getElem?_eq_some_iff.mp hat
    exact ⟨_, ⟨index, hidx, rfl⟩, hid, hm⟩

theorem deviceTimers_evaluate_of_undeclared (hplain : '\x00' ∉ triggerID.toList)
    (hnone : ∀ index trigger, pass.triggers[index]? = some trigger →
      (normalizeTrigger index trigger).id ≠ triggerID) (device : String) :
    deviceTimers (evaluate (pass.inputs status)).holds triggerID device = none := by
  rw [deviceTimers, holdIndex, lookup_fillMap_eq_none]
  · rfl
  · intro hmem
    obtain ⟨hold, hhold, hkey⟩ := mem_map.mp hmem
    obtain ⟨original, ho, rfl⟩ := mem_map.mp (mem_filter.mp hhold).1
    obtain ⟨index, trigger, hat, state, hs, rfl⟩ := mem_holds_evaluate.mp ho
    have hn := named_inputs pass status
    simp only [trimHold, hn.trimmed _ _ hat] at hkey
    exact hnone index trigger hat (holdKey_inj (hn.plain _ _ hat) hplain hkey).1

theorem timers_runPass_of_accepted (hwhole : Whole status) (haccepted : pass.accepted.isSome = true)
    (hplain : '\x00' ∉ triggerID.toList) : (runPass identities status pass).1.timers triggerID =
      tick (pass.matchesTrigger triggerID) pass.observedAt (status.timers triggerID) := by
  obtain ⟨compiled, hc⟩ := Option.isSome_iff_exists.mp haccepted
  rw [timers_of_accepted hwhole hc]
  by_cases hd : ∃ index trigger, pass.triggers[index]? = some trigger ∧
      (normalizeTrigger index trigger).id = triggerID
  · obtain ⟨index, trigger, hat, rfl⟩ := hd
    have hm := funext (@matchesTrigger_eq status pass index trigger hat)
    rw [hm]
    exact deviceTimers_evaluate (named_inputs pass status) hat
  · have hnone : ∀ index trigger, pass.triggers[index]? = some trigger →
        (normalizeTrigger index trigger).id ≠ triggerID :=
      fun index trigger hat hid => hd ⟨index, trigger, hat, hid⟩
    funext device
    have hidle : pass.matchesTrigger triggerID device = false := by
      rw [← Bool.not_eq_true, matchesTrigger_iff]
      rintro ⟨index, trigger, hat, hid, -⟩
      exact hnone index trigger hat hid
    rw [deviceTimers_evaluate_of_undeclared hplain hnone, tick, hidle]
    rfl

theorem timers_runPass_of_rejected (hticks : pass.skips = false)
    (hrejected : pass.accepted = none) (triggerID device : String) :
    (runPass identities status pass).1.timers triggerID device = none := by
  have hc : (rejectFlow pass status).status.triggerHoldStates = [] :=
    (keepsPlan_publish pass _ false).triggerHoldStates
  have hh : (runPass identities status pass).1.triggerHoldStates = [] := by
    simp [runPass, hticks, hrejected, Controller.persist, hc]
  rw [ShutdownFlowStatus.timers, hh]
  rfl

def Pass.runs (triggerID : String) (pass : Pass) (device : String) : Bool :=
  pass.accepted.isSome && pass.matchesTrigger triggerID device

theorem timers_runPass (hwhole : Whole status) (hticks : pass.skips = false)
    (hplain : '\x00' ∉ triggerID.toList) : (runPass identities status pass).1.timers triggerID =
      tick (pass.runs triggerID) pass.observedAt (status.timers triggerID) := by
  cases ha : pass.accepted with
  | none =>
    funext device
    rw [timers_runPass_of_rejected hticks ha, tick, Pass.runs, ha]
    rfl
  | some compiled =>
    have hsome : pass.accepted.isSome = true := by simp [ha]
    have hruns : pass.runs triggerID = pass.matchesTrigger triggerID := by
      funext device
      rw [Pass.runs, hsome, Bool.true_and]
    rw [hruns, timers_runPass_of_accepted hwhole hsome hplain]

end

section

variable (identities : Identities) (passes : List Pass)

theorem statusAfter_concat (last : Pass) :
    statusAfter identities (passes ++ [last]) =
      (runPass identities (statusAfter identities passes) last).1 := by
  simp [statusAfter]

theorem whole_statusAfter : Whole (statusAfter identities passes) := by
  induction passes using List.reverseRecOn with
  | nil => exact List.forall_mem_nil _
  | append_singleton passes last ih =>
    rw [statusAfter_concat]
    exact whole_runPass ih

/-- The holds of a flow are timers of names over its ticks. -/
theorem timers_statusAfter {triggerID : String} (hplain : '\x00' ∉ triggerID.toList) :
    (statusAfter identities passes).timers triggerID =
      ticks (Pass.runs triggerID) Pass.observedAt (ticksOf passes) := by
  induction passes using List.reverseRecOn with
  | nil => rfl
  | append_singleton passes last ih =>
    rw [statusAfter_concat]
    cases hskips : last.skips with
    | true =>
      have hsame : (runPass identities (statusAfter identities passes) last).1 =
          statusAfter identities passes := by simp [runPass, hskips]
      have ht : ticksOf (passes ++ [last]) = ticksOf passes := by simp [ticksOf, hskips]
      rw [hsame, ht, ih]
    | false =>
      have ht : ticksOf (passes ++ [last]) = ticksOf passes ++ [last] := by
        simp [ticksOf, hskips]
      rw [ht, ticks_concat, ← ih]
      exact timers_runPass (whole_statusAfter identities passes) hskips hplain

end

def WaitedAsDeclared (ticks : List Pass) (index : Nat) (trigger : Trigger) (device : String)
    (start : Time) : Prop :=
  ∃ before first rest, ticks = before ++ first :: rest ∧ first.observedAt = start ∧
    ∀ pass ∈ first :: rest, pass.triggers[index]? = some trigger ∧
      matchesDevice (normalizeTrigger index trigger) pass.upsStates device = true

section

variable {pass other : Pass} {index : Nat} {trigger : Trigger} {device : String}

theorem declared_of_runs (hat : other.triggers[index]? = some trigger)
    (hruns : pass.runs (normalizeTrigger index trigger).id device = true) :
    pass.accepted.isSome = true ∧ ∃ declared, pass.triggers[index]? = some declared ∧
      declared.type = trigger.type ∧
      matchesDevice (normalizeTrigger index declared) pass.upsStates device = true := by
  obtain ⟨ha, hm⟩ := Bool.and_eq_true_iff.mp hruns
  refine ⟨ha, ?_⟩
  obtain ⟨position, declared, hd, hid, hdevice⟩ := matchesTrigger_iff.mp hm
  obtain ⟨type, htype, ht⟩ := positionID_of_trigger hat
  obtain ⟨declaredType, hdeclaredType, hp⟩ := positionID_of_trigger hd
  rw [ht, hp] at hid
  obtain rfl := positionID_inj hid
  obtain rfl := positionID_type_inj hid
  exact ⟨declared, hd, hdeclaredType.trans htype.symm, hdevice⟩

/-- Where no edit replaces a trigger, the ticks that a timer has run through had the
trigger of the last of them. -/
theorem declared_along {streak : List Pass} (hkept : streak.IsChain KeepsDeclarations)
    (hruns : ∀ pass ∈ streak, pass.runs (normalizeTrigger index trigger).id device = true)
    (hlast : ∀ last ∈ streak.getLast?, last.triggers[index]? = some trigger) :
    ∀ pass ∈ streak, pass.triggers[index]? = some trigger ∧
      matchesDevice (normalizeTrigger index trigger) pass.upsStates device = true := by
  have hm : ∀ pass ∈ streak, pass.triggers[index]? = some trigger →
      matchesDevice (normalizeTrigger index trigger) pass.upsStates device = true := by
    intro pass hmem hat
    obtain ⟨-, declared, hdeclared, -, hd⟩ := declared_of_runs hat (hruns pass hmem)
    cases hdeclared.symm.trans hat
    exact hd
  suffices hall : ∀ pass ∈ streak, pass.triggers[index]? = some trigger from
    fun pass hmem => ⟨hall pass hmem, hm pass hmem (hall pass hmem)⟩
  clear hm
  induction streak with
  | nil => exact forall_mem_nil _
  | cons first rest ih =>
    cases rest with
    | nil => exact forall_mem_singleton.mpr (hlast first rfl)
    | cons second rest =>
      rw [isChain_cons_cons] at hkept
      rw [forall_mem_cons] at hruns
      have hrest := ih hkept.2 hruns.2 (by simpa using hlast)
      have hs := hrest second mem_cons_self
      obtain ⟨ha, declared, hdeclared, htype, -⟩ := declared_of_runs hs hruns.1
      have hnext := (declared_of_runs hs (hruns.2 second mem_cons_self)).1
      obtain rfl := hkept.1 ha hnext index declared trigger hdeclared hs htype
      exact forall_mem_cons.mpr ⟨hdeclared, hrest⟩

end

theorem getElem?_decisions_evaluation (pass : Pass) (status : ShutdownFlowStatus)
    (compiled : CompiledFlow) (index : Nat) :
    (pass.evaluation status compiled).decisions[index]? = pass.triggers[index]?.map fun trigger =>
      triggerDecisionStatus (evaluateTrigger pass.observedAt (normalizeTrigger index trigger)
        pass.upsStates (holdIndex (pass.inputs status).holds)).1 := by
  have hm : (pass.evaluation status compiled).decisions[index]? =
      ((evaluate (pass.inputs status)).decisions[index]?).map triggerDecisionStatus :=
    List.getElem?_map
  rw [hm, getElem?_decisions_evaluate, Option.map_map]
  rfl

theorem held_normalizeTrigger (observedAt : Time) (index : Nat) (trigger : Trigger) (start : Time) :
    held observedAt (normalizeTrigger index trigger) start = held observedAt trigger start := by
  rw [held, held, normalizeTrigger]

theorem hold_of_selected (identities : Identities) {status : ShutdownFlowStatus} {pass : Pass}
    {compiled : CompiledFlow} {index : Nat} {trigger : Trigger} {device : String}
    (hwhole : Whole status) (haccepted : pass.accepted = some compiled)
    (hat : pass.triggers[index]? = some trigger)
    (hselected : device ∈ (evaluateTrigger pass.observedAt (normalizeTrigger index trigger)
      pass.upsStates (holdIndex (pass.inputs status).holds)).1.selectedUPSDevices) :
    trigger.holdFor ≤ 0 ∨ ∃ start, ⟨(normalizeTrigger index trigger).id, device, start⟩ ∈
        (runPass identities status pass).1.triggerHoldStates ∧
      (runPass identities status pass).1.timers (normalizeTrigger index trigger).id device =
        some start ∧
      start + trigger.holdFor ≤ pass.observedAt := by
  obtain ⟨start, htick, hheld⟩ := mem_selectedUPSDevices_iff_tick.mp hselected
  rw [held_normalizeTrigger] at hheld
  rcases Bool.or_eq_true_iff.mp hheld with hnone | hwait
  · exact .inl (of_decide_eq_true hnone)
  have hi : (pass.inputs status).triggers[index]? = some trigger := hat
  have hn := named_inputs pass status
  have htimer : deviceTimers (evaluate (pass.inputs status)).holds
      (normalizeTrigger index trigger).id device = some start := by
    rw [deviceTimers_evaluate hn hi]
    exact htick
  refine .inr ⟨start, ?_, ?_, of_decide_eq_true hwait⟩
  · rw [(runPass_of_accepted identities hwhole haccepted).2.2, mem_triggerHoldStatus,
      ← deviceTimers_evaluate_eq_some hn hi]
    exact htimer
  · rw [timers_of_accepted hwhole haccepted]
    exact htimer

/-- Where no edit replaces a trigger by another of its class at its place, a trigger
selects a device only after a wait of its own. -/
theorem waits_as_declared (identities : Identities) (earlier : List Pass) (last : Pass)
    (compiled : CompiledFlow) (haccepted : last.accepted = some compiled)
    (hkept : (ticksOf (earlier ++ [last])).IsChain KeepsDeclarations) (index : Nat)
    (trigger : Trigger) (hat : last.triggers[index]? = some trigger)
    (decision : ShutdownTriggerDecisionStatus)
    (hdecision : (last.evaluation (statusAfter identities earlier) compiled).decisions[index]? =
      some decision) (device : String) (hselected : device ∈ decision.selectedUPSDevices) :
    trigger.holdFor ≤ 0 ∨ ∃ start,
      ⟨decision.triggerID, device, start⟩ ∈
        (statusAfter identities (earlier ++ [last])).triggerHoldStates ∧
      start + trigger.holdFor ≤ last.observedAt ∧
      WaitedAsDeclared (ticksOf (earlier ++ [last])) index trigger device start := by
  rw [getElem?_decisions_evaluation, hat, Option.map_some, Option.some.injEq] at hdecision
  subst hdecision
  rcases hold_of_selected identities (whole_statusAfter identities earlier) haccepted hat
    hselected with hnone | ⟨start, hhold, htimer, hwait⟩
  · exact .inl hnone
  right
  rw [← statusAfter_concat] at hhold htimer
  refine ⟨start, ?_, hwait, ?_⟩
  · simpa only [triggerDecisionStatus, triggerID_evaluateTrigger] using hhold
  · have hplain := (named_triggerInputsFromFlow last.flow.spec.triggers).plain index trigger hat
    rw [timers_statusAfter identities _ hplain, ticks_eq_some_iff] at htimer
    obtain ⟨first, hf, before, rest, ht, -, hruns⟩ := htimer
    refine ⟨before, first, rest, ht, hf, declared_along ?_ hruns ?_⟩
    · rw [ht] at hkept
      exact hkept.right_of_append
    · intro final hfinal
      have hends : (ticksOf (earlier ++ [last])).getLast? = some last := by
        simp [ticksOf, not_skips_of_accepted haccepted]
      rw [ht, List.getLast?_append, Option.mem_def.mp hfinal, Option.some_or] at hends
      cases hends
      exact hat

def thresholdPass (now : Time) (threshold runtime : Int) : Pass where
  flow :=
    { name := "rack"
      spec.triggers :=
        [{ type := .runtimeBelow, holdFor := some (60 * nanosPerSecond),
           runtimeBelowSeconds := some threshold }] }
  now := now
  devices := [{ name := "ups-a", phase := some .onBattery, runtimeSeconds := some runtime }]
  compilation := .compiled { configHash := "plan" }
  worker := idleWorker

def decisionAfter (earlier : List Pass) (last : Pass) (index : Nat) :
    Option ShutdownTriggerDecisionStatus :=
  (last.evaluation (statusAfter plainIdentities earlier) { configHash := "plan" }).decisions[index]?

theorem keepsDeclarations_thresholdPass (threshold : Int) (before after : Time)
    (runtime later : Int) :
    KeepsDeclarations (thresholdPass before threshold runtime)
      (thresholdPass after threshold later) := by
  intro _ _ index old new hold hnew _
  exact Option.some.inj (hold.symm.trans hnew)

theorem waits_out_unedited_threshold :
    let first := thresholdPass 0 600 500
    let second := thresholdPass (60 * nanosPerSecond) 600 400
    ∃ trigger decision, second.triggers[0]? = some trigger ∧
      decisionAfter [first] second 0 = some decision ∧
      "ups-a" ∈ decision.selectedUPSDevices ∧
      (trigger.holdFor ≤ 0 ∨ ∃ start,
        ⟨decision.triggerID, "ups-a", start⟩ ∈
          (statusAfter plainIdentities [first, second]).triggerHoldStates ∧
        start + trigger.holdFor ≤ second.observedAt ∧
        WaitedAsDeclared [first, second] 0 trigger "ups-a" start) := by
  intro first second
  have hd : (decisionAfter [first] second 0).any
      (fun decision => "ups-a" ∈ decision.selectedUPSDevices) = true := by decide +kernel
  obtain ⟨decision, hdecision, hs⟩ := (Option.any_eq_true _ _).mp hd
  rw [decide_eq_true_eq] at hs
  refine ⟨_, decision, rfl, hdecision, hs, ?_⟩
  have hkept : [first, second].IsChain KeepsDeclarations :=
    List.isChain_pair.mpr (keepsDeclarations_thresholdPass 600 _ _ _ _)
  exact waits_as_declared plainIdentities [first] second _ rfl hkept 0 _ rfl decision hdecision
    "ups-a" hs

/-- A tighter threshold is met at once and goes on with the wait of the old one, which
its own condition has not been true for. -/
theorem edited_threshold_inherits_hold :
    let first := thresholdPass 0 600 500
    let second := thresholdPass (60 * nanosPerSecond) 100 50
    second.accepted = some { configHash := "plan" } ∧
      ∃ trigger decision, second.triggers[0]? = some trigger ∧
        decisionAfter [first] second 0 = some decision ∧
        "ups-a" ∈ decision.selectedUPSDevices ∧
        0 < trigger.holdFor ∧
        (statusAfter plainIdentities [first, second]).triggerHoldStates =
          [⟨decision.triggerID, "ups-a", first.observedAt⟩] ∧
        matchesDevice (normalizeTrigger 0 trigger) first.upsStates "ups-a" = false := by
  intro first second
  have hd : (decisionAfter [first] second 0).any
      (fun decision => "ups-a" ∈ decision.selectedUPSDevices ∧
        (statusAfter plainIdentities [first, second]).triggerHoldStates =
          [⟨decision.triggerID, "ups-a", first.observedAt⟩]) = true := by decide +kernel
  obtain ⟨decision, hdecision, hs⟩ := (Option.any_eq_true _ _).mp hd
  rw [decide_eq_true_eq] at hs
  exact ⟨rfl, _, decision, rfl, hdecision, hs.1, by decide, hs.2, by decide +kernel⟩

end NutOperator.Controller
