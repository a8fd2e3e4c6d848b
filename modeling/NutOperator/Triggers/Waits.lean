import NutOperator.Triggers.Holds

/-! Ticks in a row, each with the holds of the one before. A device is selected when
its unbroken run of matches has lasted as long as the trigger asks. -/
namespace NutOperator.Triggers

open Data List
open Execution (Time)

structure Tick where
  observedAt : Time
  upsStates : List UPSState
deriving Repr, DecidableEq

def evaluateTick (triggers : List Trigger) (holds : List HoldState) (tick : Tick) : Evaluation :=
  evaluate
    { observedAt := tick.observedAt, triggers := triggers, upsStates := tick.upsStates
      holds := holds }

def holdsAfter (triggers : List Trigger) (ticks : List Tick) : List HoldState :=
  ticks.foldl (fun holds tick => (evaluateTick triggers holds tick).holds) []

/-- The primary class is true of a device, or the device cannot answer it and the
fallback is true. -/
def MatchesState (trigger : Trigger) (state : UPSState) : Prop :=
  (evaluateTriggerClass trigger.type trigger state).1 = .matched ∨
    (evaluateTriggerClass trigger.type trigger state).1 = .telemetryUnavailable ∧
      trigger.fallbackType ≠ "" ∧
      (evaluateTriggerClass trigger.fallbackType trigger state).1 = .matched

def Matches (trigger : Trigger) (device : String) (tick : Tick) : Prop :=
  ∃ state ∈ selectUPSStates trigger (normalizeUPSStates tick.upsStates),
    state.upsDevice = device ∧ MatchesState trigger state

def UnbrokenSince (matched : Tick → Prop) (ticks : List Tick) (first : Tick) : Prop :=
  ∃ before rest, ticks = before ++ first :: rest ∧ (∀ last ∈ before.getLast?, ¬ matched last) ∧
    ∀ tick ∈ first :: rest, matched tick

/-- The run of matches has lasted as long as the trigger asks. -/
def WaitedOut (trigger : Trigger) (device : String) (ticks : List Tick) (now : Time) : Prop :=
  ∃ first, UnbrokenSince (Matches trigger device) ticks first ∧
    (trigger.holdFor ≤ 0 ∨ first.observedAt + trigger.holdFor ≤ now)

theorem not_waitedOut_of_break {trigger : Trigger} {device : String} {earlier : List Tick}
    {previous last : Tick} (hbreak : ¬ Matches trigger device previous)
    (hfor : 0 < trigger.holdFor) :
    ¬ WaitedOut trigger device (earlier ++ [previous] ++ [last]) last.observedAt := by
  rintro ⟨first, ⟨before, rest, ht, -, hrun⟩, hwait⟩
  rcases rest.eq_nil_or_concat' with rfl | ⟨init, final, rfl⟩
  · -- the run is the last tick alone
    obtain rfl := singleton_inj.mp (append_inj' ht rfl).2
    have hnow : ¬ last.observedAt + trigger.holdFor ≤ last.observedAt :=
      not_le.mpr (lt_add_of_pos_right _ hfor)
    exact hwait.elim hfor.not_ge hnow
  · -- a longer run goes through the tick without a match
    rw [← cons_append, ← append_assoc] at ht
    have hprev := congrArg List.getLast? (append_inj' ht rfl).1
    have hmem : previous ∈ first :: init := by
      apply mem_of_getLast?
      simpa [List.getLast?_append, List.getLast?_cons] using hprev.symm
    exact hbreak (hrun previous (mem_append_left [final] hmem))

theorem triggerMatchesState_iff {trigger : Trigger} {state : UPSState} :
    (triggerMatchesState trigger state).1 = true ↔ MatchesState trigger state := by
  rw [triggerMatchesState, MatchesState]
  cases ho : (evaluateTriggerClass trigger.type trigger state).1 with
  | telemetryUnavailable =>
    by_cases hf : trigger.fallbackType = ""
    · simp [hf, ho]
    · simp only [hf, ho, ne_eq, not_true, or_self, if_false, not_false_eq_true,
        true_and, reduceCtorEq, false_or]
      cases hother : (evaluateTriggerClass trigger.fallbackType trigger state).1 <;> simp
  | _ => simp [ho]

theorem matchesDevice_normalizeUPSStates {trigger : Trigger} {tick : Tick} {device : String} :
    matchesDevice trigger (normalizeUPSStates tick.upsStates) device = true ↔
      Matches trigger device tick := by
  rw [matchesDevice_iff, Matches]
  simp only [matchingStates, mem_filter, triggerMatchesState_iff]
  constructor
  · rintro ⟨state, ⟨hmem, hm⟩, hd⟩
    exact ⟨state, hmem, hd, hm⟩
  · rintro ⟨state, hmem, hd, hm⟩
    exact ⟨state, ⟨hmem, hm⟩, hd⟩

def triggerIDs (triggers : List Trigger) : List String :=
  triggers.mapIdx fun index trigger => (normalizeTrigger index trigger).id

theorem trimSpace_id_normalizeTrigger (index : Nat) (trigger : Trigger) :
    trimSpace (normalizeTrigger index trigger).id = (normalizeTrigger index trigger).id := by
  simp only [normalizeTrigger]
  split
  · have hlisted : ("trigger-" ++ paddedDecimal 3 index ++ "-" ++ toLower (trimSpace
        trigger.type)).toList = "trigger-".toList ++ ((paddedDecimal 3 index).toList ++
          '-' :: (toLower (trimSpace trigger.type)).toList) := by
      simp [String.toList_append]
    apply trimSpace_eq_self
    · intro c hc
      rw [hlisted] at hc
      obtain rfl : 't' = c := by simpa using hc
      rfl
    · intro c hc
      rw [hlisted, ← append_assoc, List.getLast?_append, List.getLast?_cons] at hc
      cases hlast : (toLower (trimSpace trigger.type)).toList.getLast? with
      | none =>
        obtain rfl : '-' = c := by simpa [hlast] using hc
        rfl
      | some last =>
        obtain rfl : last = c := by simpa [hlast] using hc
        exact getLast?_toLower (getLast?_trimSpace _) last hlast
  · exact trimSpace_trimSpace _

theorem named_of_nodup {triggers : List Trigger} (hdistinct : (triggerIDs triggers).Nodup)
    (hplain : ∀ id ∈ triggerIDs triggers, '\x00' ∉ id.toList) : Named triggers where
  distinct := by
    intro first second trigger other hf hs hid
    have hlt : first < (triggerIDs triggers).length := by
      rw [triggerIDs, length_mapIdx]
      exact (List.getElem?_eq_some_iff.mp hf).1
    rw [← List.getElem?_inj hlt hdistinct]
    simp [triggerIDs, hf, hs, hid]
  trimmed := fun index trigger _ => trimSpace_id_normalizeTrigger index trigger
  named := by
    intro index trigger hat
    simp only [normalizeTrigger]
    split
    · intro he
      have hl := congrArg String.toList he
      simp at hl
    · assumption
  plain := by
    intro index trigger hat
    obtain ⟨hlt, rfl⟩ := List.getElem?_eq_some_iff.mp hat
    exact hplain _ (mem_mapIdx.mpr ⟨index, hlt, rfl⟩)

section

variable {triggers : List Trigger} {index : Nat} {trigger : Trigger}

theorem holdsAfter_concat (triggers : List Trigger) (ticks : List Tick) (last : Tick) :
    holdsAfter triggers (ticks ++ [last]) =
      (evaluateTick triggers (holdsAfter triggers ticks) last).holds := by
  simp [holdsAfter]

section

variable (hnamed : Named triggers) (hat : triggers[index]? = some trigger)

include hnamed hat

theorem deviceTimers_evaluateTick (holds : List HoldState) (next : Tick) :
    deviceTimers (evaluateTick triggers holds next).holds (normalizeTrigger index trigger).id = tick
        (matchesDevice (normalizeTrigger index trigger) (normalizeUPSStates next.upsStates))
        next.observedAt (deviceTimers holds (normalizeTrigger index trigger).id) :=
  deviceTimers_evaluate hnamed hat

theorem deviceTimers_holdsAfter (ticks : List Tick) :
    deviceTimers (holdsAfter triggers ticks) (normalizeTrigger index trigger).id = Data.ticks
        (fun tick => matchesDevice (normalizeTrigger index trigger)
          (normalizeUPSStates tick.upsStates)) Tick.observedAt ticks := by
  induction ticks using List.reverseRecOn with
  | nil => rfl
  | append_singleton ticks last ih =>
    rw [holdsAfter_concat, ticks_concat, ← ih, deviceTimers_evaluateTick hnamed hat]

theorem deviceTimers_holdsAfter_eq_some {ticks : List Tick} {device : String} {start : Time} :
    deviceTimers (holdsAfter triggers ticks) (normalizeTrigger index trigger).id device =
      some start ↔
      ∃ first, first.observedAt = start ∧
        UnbrokenSince (Matches (normalizeTrigger index trigger) device) ticks first := by
  rw [deviceTimers_holdsAfter hnamed hat, ticks_eq_some_iff]
  simp only [UnbrokenSince, matchesDevice_normalizeUPSStates, ← Bool.not_eq_true]

theorem mem_selectedUPSDevices_iff_waitedOut {earlier : List Tick} {last : Tick} {device : String} :
    device ∈ (evaluateTrigger last.observedAt (normalizeTrigger index trigger)
        (normalizeUPSStates last.upsStates)
        (holdIndex (holdsAfter triggers earlier))).1.selectedUPSDevices ↔
      WaitedOut (normalizeTrigger index trigger) device (earlier ++ [last]) last.observedAt := by
  rw [mem_selectedUPSDevices_iff_tick, ← deviceTimers_evaluateTick hnamed hat, ← holdsAfter_concat]
  simp only [deviceTimers_holdsAfter_eq_some hnamed hat, WaitedOut, held, Bool.or_eq_true,
    decide_eq_true_eq]
  constructor
  · rintro ⟨start, ⟨first, rfl, hrun⟩, hheld⟩
    exact ⟨first, hrun, hheld⟩
  · rintro ⟨first, hrun, hheld⟩
    exact ⟨first.observedAt, ⟨first, rfl, hrun⟩, hheld⟩

theorem approved_at_eligibleAt {holds : List HoldState} {last : Tick} {eligibleAt : Time}
    (hwaits : (evaluateTrigger last.observedAt (normalizeTrigger index trigger)
      (normalizeUPSStates last.upsStates) (holdIndex holds)).1.eligible = false)
    (heligibleAt : (evaluateTrigger last.observedAt (normalizeTrigger index trigger)
      (normalizeUPSStates last.upsStates) (holdIndex holds)).1.eligibleAt = some eligibleAt) :
    last.observedAt < eligibleAt ∧
      (∃ device start, deviceTimers (evaluateTick triggers holds last).holds
          (normalizeTrigger index trigger).id device = some start ∧
        eligibleAt = start + trigger.holdFor) ∧
      (evaluateTick triggers (evaluateTick triggers holds last).holds
        ⟨eligibleAt, last.upsStates⟩).approved = true := by
  rw [eligibleAt_evaluateTrigger, List.min?_eq_some_iff] at heligibleAt
  obtain ⟨state, hmem, heq⟩ := mem_map.mp heligibleAt.1
  have hactive := matchesDevice_iff.mpr ⟨state, hmem, rfl⟩
  set start := holdStart last.observedAt (holdIndex holds) (normalizeTrigger index trigger) state
    with hs
  have htimer : deviceTimers (evaluateTick triggers holds last).holds
      (normalizeTrigger index trigger).id state.upsDevice = some start := by
    rw [deviceTimers_evaluateTick hnamed hat, tick, if_pos hactive, hs, holdStart_holdIndex]
  have hp : ¬ held last.observedAt (normalizeTrigger index trigger) start = true := by
    intro hheld
    have hselected := mem_selectedUPSDevices_evaluateTrigger.mpr ⟨state, hmem, rfl, hheld⟩
    rw [eligible_evaluateTrigger.mpr (ne_nil_of_mem hselected)] at hwaits
    cases hwaits
  simp only [held, Bool.or_eq_true, decide_eq_true_eq, not_or, not_le] at hp
  refine ⟨heq ▸ hp.2, ⟨state.upsDevice, start, htimer, heq.symm⟩, ?_⟩
  refine approved_evaluate.mpr ⟨_, mem_decisions_evaluate.mpr ⟨index, trigger, hat, rfl⟩, ?_⟩
  exact eligible_of_timer hactive htimer (by simp [held, heq])

end

end

end NutOperator.Triggers
