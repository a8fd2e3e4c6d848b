import NutOperator.Data.Timers
import NutOperator.Triggers.Evaluator

/-! The holds of one tick are the timers of the next: for each trigger, a device
has a timer while it matches, and the decision names the earliest start. -/
namespace NutOperator.Triggers

open Data List
open Execution (Time)

def matchingStates (trigger : Trigger) (states : List UPSState) : List UPSState :=
  (selectUPSStates trigger states).filter fun state => (triggerMatchesState trigger state).1

def matchesDevice (trigger : Trigger) (states : List UPSState) (device : String) : Bool :=
  (matchingStates trigger states).any (·.upsDevice = device)

variable {trigger : Trigger} {states : List UPSState} {device : String} {observedAt : Time}
  {holds : List HoldState} {inputs : Inputs}

theorem matchesDevice_iff : matchesDevice trigger states device = true ↔
      ∃ state ∈ matchingStates trigger states, state.upsDevice = device := by
  simp [matchesDevice]

def deviceTimers (holds : List HoldState) (triggerID device : String) : Option Time :=
  ((holdIndex holds).lookup (holdKey triggerID device)).map (·.startedAt)

structure Named (triggers : List Trigger) : Prop where
  distinct : ∀ first second trigger other, triggers[first]? = some trigger →
    triggers[second]? = some other →
    (normalizeTrigger first trigger).id = (normalizeTrigger second other).id → first = second
  trimmed : ∀ index trigger, triggers[index]? = some trigger →
    trimSpace (normalizeTrigger index trigger).id = (normalizeTrigger index trigger).id
  named : ∀ index trigger, triggers[index]? = some trigger →
    (normalizeTrigger index trigger).id ≠ ""
  plain : ∀ index trigger, triggers[index]? = some trigger →
    '\x00' ∉ (normalizeTrigger index trigger).id.toList

theorem takeWhile_holdKey {triggerID : String} (hplain : '\x00' ∉ triggerID.toList)
    (device : String) :
    (holdKey triggerID device).toList.takeWhile (· ≠ '\x00') = triggerID.toList := by
  rw [holdKey, String.toList_append, String.toList_append, append_assoc, takeWhile_append_of_pos]
  · simp
  · intro c hc
    exact decide_eq_true fun heq => hplain (heq ▸ hc)

theorem holdKey_inj {first second other : String} (hfirst : '\x00' ∉ first.toList)
    (hsecond : '\x00' ∉ second.toList) (h : holdKey first device = holdKey second other) :
    first = second ∧ device = other := by
  have hid : first = second := by
    apply String.toList_injective
    rw [← takeWhile_holdKey hfirst device, h, takeWhile_holdKey hsecond other]
  subst hid
  refine ⟨rfl, ?_⟩
  simpa [holdKey] using h

section

variable {holds : AList (fun _ : String => HoldState)}

theorem foldl_scanState (states : List UPSState) (scan : Scan) :
    let matching := states.filter fun state => (triggerMatchesState trigger state).1
    let due := matching.filter fun state =>
      held observedAt trigger (holdStart observedAt holds trigger state)
    states.foldl (scanState observedAt trigger holds) scan =
      { matched := scan.matched || !matching.isEmpty
        eligible := scan.eligible || !due.isEmpty
        selectedUPSDevices := scan.selectedUPSDevices ++ due.map (·.upsDevice)
        nextHolds := scan.nextHolds ++ matching.map fun state =>
          ⟨trigger.id, state.upsDevice, holdStart observedAt holds trigger state⟩
        diagnostics := scan.diagnostics ++
          states.flatMap fun state => (triggerMatchesState trigger state).2
        earliestHold :=
          (matching.map (holdStart observedAt holds trigger)).foldl earlierOf scan.earliestHold
        earliestEligible := (matching.map fun state => holdStart observedAt holds trigger state +
            trigger.holdFor).foldl earlierOf scan.earliestEligible } := by
  induction states generalizing scan with
  | nil => simp
  | cons state rest ih =>
    rw [foldl_cons]
    refine (ih _).trans ?_
    by_cases hm : (triggerMatchesState trigger state).1 = true
    · by_cases hheld : held observedAt trigger (holdStart observedAt holds trigger state) = true <;>
        simp [scanState, hm, hheld]
    · simp [scanState, hm]

theorem holds_evaluateTrigger (states : List UPSState) :
    (evaluateTrigger observedAt trigger states holds).2.1 = (matchingStates trigger states).map
      fun state => ⟨trigger.id, state.upsDevice, holdStart observedAt holds trigger state⟩ := by
  rw [evaluateTrigger, matchingStates]
  split
  · rename_i hnone
    simp [hnone]
  · simp [foldl_scanState]

theorem foldl_earlierOf (times : List Time) : times.foldl earlierOf none = times.min? := by
  have hfrom : ∀ (rest : List Time) (earliest : Time),
      rest.foldl earlierOf (some earliest) = some (rest.foldl min earliest) := by
    intro rest
    induction rest with
    | nil => simp
    | cons time rest ih =>
      intro earliest
      have he : earlierOf (some earliest) time = some (min earliest time) := by
        by_cases hless : time < earliest
        · simp [earlierOf, hless, min_eq_right hless.le]
        · simp [earlierOf, hless, min_eq_left (not_lt.mp hless)]
      rw [foldl_cons, he, ih, foldl_cons]
  cases times with
  | nil => rfl
  | cons time rest => exact hfrom rest time

theorem holdStartedAt_evaluateTrigger (states : List UPSState) :
    (evaluateTrigger observedAt trigger states holds).1.holdStartedAt =
      ((matchingStates trigger states).map (holdStart observedAt holds trigger)).min? := by
  rw [evaluateTrigger, matchingStates, ← foldl_earlierOf]
  split
  · rename_i hnone
    simp [hnone]
  · simp [foldl_scanState]

theorem eligibleAt_evaluateTrigger (states : List UPSState) :
    (evaluateTrigger observedAt trigger states holds).1.eligibleAt =
      ((matchingStates trigger states).map fun state =>
        holdStart observedAt holds trigger state + trigger.holdFor).min? := by
  rw [evaluateTrigger, matchingStates, ← foldl_earlierOf]
  split
  · rename_i hnone
    simp [hnone]
  · simp [foldl_scanState]

theorem matched_evaluateTrigger :
    (evaluateTrigger observedAt trigger states holds).1.matched = true ↔
      matchingStates trigger states ≠ [] := by
  rw [evaluateTrigger, matchingStates]
  split
  · rename_i hnone
    simp [hnone]
  · simp [foldl_scanState]

theorem mem_selectedUPSDevices_evaluateTrigger :
    device ∈ (evaluateTrigger observedAt trigger states holds).1.selectedUPSDevices ↔
      ∃ state ∈ matchingStates trigger states, state.upsDevice = device ∧
        held observedAt trigger (holdStart observedAt holds trigger state) = true := by
  rw [evaluateTrigger, matchingStates]
  split
  · rename_i hnone
    simp [hnone]
  · simp only [foldl_scanState, mem_sortStrings, nil_append, mem_map, mem_filter]
    apply exists_congr
    intro state
    constructor
    · rintro ⟨⟨hmem, hheld⟩, hd⟩
      exact ⟨hmem, hd, hheld⟩
    · rintro ⟨hmem, hd, hheld⟩
      exact ⟨⟨hmem, hheld⟩, hd⟩

theorem eligible_evaluateTrigger :
    (evaluateTrigger observedAt trigger states holds).1.eligible = true ↔
      (evaluateTrigger observedAt trigger states holds).1.selectedUPSDevices ≠ [] := by
  rw [evaluateTrigger]
  split
  · simp
  · simp [foldl_scanState, sortStrings]

theorem isSome_holdStartedAt_of_eligible
    (h : (evaluateTrigger observedAt trigger states holds).1.eligible = true) :
    (evaluateTrigger observedAt trigger states holds).1.holdStartedAt.isSome := by
  obtain ⟨device, hs⟩ := exists_mem_of_ne_nil _ (eligible_evaluateTrigger.mp h)
  obtain ⟨state, hmem, -⟩ := mem_selectedUPSDevices_evaluateTrigger.mp hs
  rw [holdStartedAt_evaluateTrigger, isSome_min?_iff]
  exact ne_nil_of_mem (mem_map_of_mem hmem)

end

theorem holdStart_holdIndex (observedAt : Time) (holds : List HoldState) (trigger : Trigger)
    (state : UPSState) :
    holdStart observedAt (holdIndex holds) trigger state =
      (deviceTimers holds trigger.id state.upsDevice).getD observedAt := by
  rw [holdStart, deviceTimers]
  cases (holdIndex holds).lookup (holdKey trigger.id state.upsDevice) <;> rfl

theorem deviceTimers_of_forall {holds : List HoldState} {prop : Time → Prop}
    (h : ∀ hold ∈ holds, prop hold.startedAt) {triggerID device : String} {start : Time}
    (hstart : deviceTimers holds triggerID device = some start) : prop start := by
  obtain ⟨kept, hl, rfl⟩ := Option.map_eq_some_iff.mp hstart
  obtain ⟨element, hmem, hv⟩ := exists_of_lookup_fillMap hl
  cases hv
  obtain ⟨original, ho, rfl⟩ := mem_map.mp (mem_filter.mp hmem).1
  exact h original ho

variable {start : Time} {index : Nat}

theorem mem_starts_tick : start ∈ starts (tick (matchesDevice trigger states) observedAt
        (deviceTimers holds trigger.id)) ↔
      start ∈ (matchingStates trigger states).map
        (holdStart observedAt (holdIndex holds) trigger) := by
  simp only [mem_map, holdStart_holdIndex]
  constructor
  · rintro ⟨device, hd⟩
    have ha := congrArg Option.isSome hd
    rw [isSome_tick, Option.isSome_some] at ha
    rw [tick, if_pos ha] at hd
    obtain ⟨state, hmem, rfl⟩ := matchesDevice_iff.mp ha
    exact ⟨state, hmem, Option.some.inj hd⟩
  · rintro ⟨state, hmem, rfl⟩
    exact ⟨state.upsDevice, if_pos (matchesDevice_iff.mpr ⟨state, hmem, rfl⟩)⟩

theorem holdStartedAt_eq_some {first : Time} :
    (evaluateTrigger observedAt trigger states (holdIndex holds)).1.holdStartedAt = some first ↔
      IsLeast (starts (tick (matchesDevice trigger states) observedAt
        (deviceTimers holds trigger.id))) first := by
  rw [holdStartedAt_evaluateTrigger, List.min?_eq_some_iff]
  refine and_congr mem_starts_tick.symm (forall_congr' fun start => ?_)
  rw [mem_starts_tick]

theorem mem_selectedUPSDevices_iff_tick :
    device ∈ (evaluateTrigger observedAt trigger states (holdIndex holds)).1.selectedUPSDevices ↔
      ∃ start, tick (matchesDevice trigger states) observedAt (deviceTimers holds trigger.id)
        device = some start ∧ held observedAt trigger start = true := by
  rw [mem_selectedUPSDevices_evaluateTrigger]
  simp only [holdStart_holdIndex, tick]
  constructor
  · rintro ⟨state, hmem, rfl, hheld⟩
    exact ⟨_, if_pos (matchesDevice_iff.mpr ⟨state, hmem, rfl⟩), hheld⟩
  · rintro ⟨start, htick, hheld⟩
    split at htick
    · rename_i ha
      obtain ⟨state, hmem, rfl⟩ := matchesDevice_iff.mp ha
      exact ⟨state, hmem, rfl, Option.some.inj htick ▸ hheld⟩
    · cases htick

theorem eligible_of_timer (hmatches : matchesDevice trigger states device = true)
    (htimer : deviceTimers holds trigger.id device = some start)
    (hheld : held observedAt trigger start = true) :
    (evaluateTrigger observedAt trigger states (holdIndex holds)).1.eligible = true := by
  rw [eligible_evaluateTrigger]
  apply ne_nil_of_mem (a := device)
  rw [mem_selectedUPSDevices_iff_tick]
  refine ⟨start, ?_, hheld⟩
  rw [tick, if_pos hmatches, htimer]
  rfl

theorem mem_holds_evaluate {hold : HoldState} : hold ∈ (evaluate inputs).holds ↔
      ∃ index trigger, inputs.triggers[index]? = some trigger ∧
        ∃ state ∈ matchingStates (normalizeTrigger index trigger)
            (normalizeUPSStates inputs.upsStates),
          hold = ⟨(normalizeTrigger index trigger).id, state.upsDevice,
            holdStart inputs.observedAt (holdIndex inputs.holds)
              (normalizeTrigger index trigger) state⟩ := by
  simp only [evaluate, sortHolds, mem_sortStable, mem_flatMap, mem_mapIdx]
  constructor
  · rintro ⟨result, ⟨index, hidx, rfl⟩, hmem⟩
    rw [holds_evaluateTrigger, mem_map] at hmem
    obtain ⟨state, hs, rfl⟩ := hmem
    exact ⟨index, _, List.getElem?_eq_getElem hidx, state, hs, rfl⟩
  · rintro ⟨index, trigger, hat, state, hs, rfl⟩
    obtain ⟨hidx, rfl⟩ := List.getElem?_eq_some_iff.mp hat
    refine ⟨_, ⟨index, hidx, rfl⟩, ?_⟩
    rw [holds_evaluateTrigger]
    exact mem_map_of_mem hs

theorem upsDevice_of_mem_matchingStates {state : UPSState}
    (h : state ∈ matchingStates trigger (normalizeUPSStates states)) :
    trimSpace state.upsDevice = state.upsDevice ∧ state.upsDevice ≠ "" := by
  have hs := (mem_filter.mp h).1
  have hmem : state ∈ normalizeUPSStates states := by
    rw [selectUPSStates] at hs
    split at hs
    · exact hs
    · exact (mem_filter.mp hs).1
  rw [normalizeUPSStates, mem_sortStable, mem_filter, mem_map] at hmem
  obtain ⟨⟨original, -, rfl⟩, hname⟩ := hmem
  exact ⟨trimSpace_trimSpace _, of_decide_eq_true hname⟩

section

variable (hnamed : Named inputs.triggers) (hat : inputs.triggers[index]? = some trigger)
include hnamed hat

theorem hold_of_holdKey_eq {hold : HoldState}
    (hmem : hold ∈ ((evaluate inputs).holds.map trimHold).filter
      fun hold => hold.triggerID ≠ "" ∧ hold.upsDevice ≠ "")
    (hkey : holdKey hold.triggerID hold.upsDevice =
      holdKey (normalizeTrigger index trigger).id device) :
    matchesDevice (normalizeTrigger index trigger) (normalizeUPSStates inputs.upsStates) device ∧
      hold = ⟨(normalizeTrigger index trigger).id, device,
        (deviceTimers inputs.holds (normalizeTrigger index trigger).id device).getD
          inputs.observedAt⟩ := by
  obtain ⟨original, ho, rfl⟩ := mem_map.mp (mem_filter.mp hmem).1
  obtain ⟨position, other, hp, state, hs, rfl⟩ := mem_holds_evaluate.mp ho
  simp only [trimHold, hnamed.trimmed _ _ hp, (upsDevice_of_mem_matchingStates hs).1] at hkey ⊢
  obtain ⟨hid, rfl⟩ := holdKey_inj (hnamed.plain _ _ hp) (hnamed.plain _ _ hat) hkey
  obtain rfl := hnamed.distinct _ _ _ _ hp hat hid
  cases hp.symm.trans hat
  exact ⟨matchesDevice_iff.mpr ⟨state, hs, rfl⟩, by rw [holdStart_holdIndex]⟩

theorem deviceTimers_evaluate :
    deviceTimers (evaluate inputs).holds (normalizeTrigger index trigger).id = tick
        (matchesDevice (normalizeTrigger index trigger) (normalizeUPSStates inputs.upsStates))
        inputs.observedAt (deviceTimers inputs.holds (normalizeTrigger index trigger).id) := by
  funext device
  rw [deviceTimers, holdIndex, tick]
  split
  · rename_i ha
    obtain ⟨state, hs, rfl⟩ := matchesDevice_iff.mp ha
    obtain ⟨ht, hn⟩ := upsDevice_of_mem_matchingStates hs
    have hhold := mem_holds_evaluate.mpr ⟨index, trigger, hat, state, hs, rfl⟩
    rw [lookup_fillMap_of_forall ⟨_, mem_filter.mpr ⟨mem_map_of_mem hhold, ?_⟩, ?_⟩
      fun hold hmem hkey => congrArg some (hold_of_holdKey_eq hnamed hat hmem hkey).2]
    · rfl
    · simp [trimHold, hnamed.trimmed _ _ hat, hnamed.named _ _ hat, ht, hn]
    · simp [trimHold, hnamed.trimmed _ _ hat, ht]
  · rename_i hidle
    rw [lookup_fillMap_eq_none]
    · rfl
    · intro hmem
      obtain ⟨hold, hhold, hkey⟩ := mem_map.mp hmem
      exact hidle (hold_of_holdKey_eq hnamed hat hhold hkey).1

theorem deviceTimers_evaluate_eq_some :
    deviceTimers (evaluate inputs).holds (normalizeTrigger index trigger).id device = some start ↔
      ⟨(normalizeTrigger index trigger).id, device, start⟩ ∈ (evaluate inputs).holds := by
  rw [deviceTimers_evaluate hnamed hat, mem_holds_evaluate, tick]
  constructor
  · intro h
    split at h
    · rename_i ha
      obtain ⟨state, hs, rfl⟩ := matchesDevice_iff.mp ha
      refine ⟨index, trigger, hat, state, hs, ?_⟩
      rw [holdStart_holdIndex, Option.some.inj h]
    · cases h
  · rintro ⟨position, other, hp, state, hs, hhold⟩
    obtain ⟨hid, rfl, rfl⟩ := HoldState.mk.inj hhold
    obtain rfl := hnamed.distinct _ _ _ _ hat hp hid
    cases hat.symm.trans hp
    rw [if_pos (matchesDevice_iff.mpr ⟨state, hs, rfl⟩), holdStart_holdIndex]

end

@[simp] theorem triggerID_evaluateTrigger (observedAt : Time) (trigger : Trigger)
    (states : List UPSState) (holds : AList fun _ : String => HoldState) :
    (evaluateTrigger observedAt trigger states holds).1.triggerID = trigger.id := by
  rw [evaluateTrigger]
  split <;> rfl

theorem mem_decisions_evaluate {decision : Decision} : decision ∈ (evaluate inputs).decisions ↔
      ∃ index trigger, inputs.triggers[index]? = some trigger ∧
        decision = (evaluateTrigger inputs.observedAt (normalizeTrigger index trigger)
          (normalizeUPSStates inputs.upsStates) (holdIndex inputs.holds)).1 := by
  simp only [evaluate, mem_map, mem_mapIdx]
  constructor
  · rintro ⟨result, ⟨index, hidx, rfl⟩, rfl⟩
    exact ⟨index, _, List.getElem?_eq_getElem hidx, rfl⟩
  · rintro ⟨index, trigger, hat, rfl⟩
    obtain ⟨hidx, rfl⟩ := List.getElem?_eq_some_iff.mp hat
    exact ⟨_, ⟨index, hidx, rfl⟩, rfl⟩

theorem getElem?_decisions_evaluate (inputs : Inputs) (index : Nat) :
    (evaluate inputs).decisions[index]? = inputs.triggers[index]?.map fun trigger =>
      (evaluateTrigger inputs.observedAt (normalizeTrigger index trigger)
        (normalizeUPSStates inputs.upsStates) (holdIndex inputs.holds)).1 := by
  simp [evaluate, Function.comp_def]

theorem approved_evaluate : (evaluate inputs).approved = true ↔
      ∃ decision ∈ (evaluate inputs).decisions, decision.eligible = true := by
  simp [evaluate]

theorem mem_selectedUPSDevices_evaluate : device ∈ (evaluate inputs).selectedUPSDevices ↔
      ∃ decision ∈ (evaluate inputs).decisions, decision.eligible = true ∧
        device ∈ decision.selectedUPSDevices := by
  simp only [evaluate, mem_sortedUnique, mem_flatMap, mem_filter, and_assoc]

theorem nodup_triggerIDs_evaluate (hnamed : Named inputs.triggers) :
    ((evaluate inputs).decisions.map (·.triggerID)).Nodup := by
  have hids : (evaluate inputs).decisions.map (·.triggerID) =
      inputs.triggers.mapIdx fun index trigger => (normalizeTrigger index trigger).id := by
    apply ext_getElem <;> simp [evaluate]
  rw [hids, nodup_iff_injective_get]
  intro first second h
  simp only [get_eq_getElem, getElem_mapIdx] at h
  exact Fin.ext (hnamed.distinct _ _ _ _ (List.getElem?_eq_getElem _)
    (List.getElem?_eq_getElem _) h)

end NutOperator.Triggers
