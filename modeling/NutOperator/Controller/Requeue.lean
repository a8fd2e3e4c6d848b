import NutOperator.Controller.Triggers
import NutOperator.Triggers.Waits

/-! When a pass that waits for a trigger comes back, and that it comes back in time. -/
namespace NutOperator.Controller

open Data Triggers List
open Execution (Time)

def earlierEligible (nextEligible : Time) (decision : Decision) : Time :=
  match decision.eligibleAt with
  | none => nextEligible
  | some eligibleAt =>
    if decision.matched = false ∨ decision.eligible then nextEligible
    else if nextEligible = 0 ∨ eligibleAt < nextEligible then eligibleAt
    else nextEligible

def triggerRequeueAfter (evaluation : Evaluation) (observedAt : Time) : Duration :=
  if evaluation.approved then 0
  else
    let nextEligible := evaluation.decisions.foldl earlierEligible 0
    if nextEligible = 0 ∨ nextEligible ≤ observedAt then 0
    else timeSub nextEligible observedAt

def pendingAt (decision : Decision) : Option Time :=
  if decision.matched = true ∧ decision.eligible = false then decision.eligibleAt else none

theorem earlierEligible_eq (nextEligible : Time) (decision : Decision) :
    earlierEligible nextEligible decision =
      match pendingAt decision with
      | none => nextEligible
      | some time => if nextEligible = 0 ∨ time < nextEligible then time else nextEligible := by
  rw [earlierEligible, pendingAt]
  cases decision.eligibleAt <;> cases decision.matched <;> cases decision.eligible <;> rfl

theorem mem_earlierOf {earliest : Option Time} {time other : Time}
    (h : other ∈ earlierOf earliest time) : other = time ∨ other ∈ earliest := by
  cases earliest with
  | none => exact .inl (Option.some.inj h).symm
  | some known =>
    rw [earlierOf] at h
    split at h
    · exact .inl (Option.some.inj h).symm
    · exact .inr h

theorem foldl_earlierEligible {decisions : List Decision}
    (htimes : ∀ time ∈ decisions.filterMap pendingAt, time ≠ 0) (earliest : Option Time)
    (hearlier : ∀ time ∈ earliest, time ≠ 0) :
    decisions.foldl earlierEligible (earliest.getD 0) =
      ((decisions.filterMap pendingAt).foldl earlierOf earliest).getD 0 := by
  induction decisions generalizing earliest with
  | nil => rfl
  | cons decision rest ih =>
    rw [foldl_cons, earlierEligible_eq]
    cases hp : pendingAt decision with
    | none =>
      rw [filterMap_cons_none hp] at htimes ⊢
      exact ih htimes earliest hearlier
    | some time =>
      rw [filterMap_cons_some hp] at htimes ⊢
      have htake : (if earliest.getD 0 = 0 ∨ time < earliest.getD 0 then time
          else earliest.getD 0) = (earlierOf earliest time).getD 0 := by
        cases earliest with
        | none => simp [earlierOf]
        | some known =>
          by_cases hless : time < known <;> simp [earlierOf, hearlier known rfl, hless]
      simp only [htake, foldl_cons]
      apply ih fun other hmem => htimes other (mem_cons_of_mem _ hmem)
      intro other ho
      obtain rfl | hk := mem_earlierOf ho
      · exact htimes other mem_cons_self
      · exact hearlier other hk

section

variable {triggers : List Trigger} {earlier : List Tick} {last : Tick}

theorem approved_of_mem_pending (hnamed : Named triggers)
    (hfor : ∀ trigger ∈ triggers, trigger.holdFor ≤ maxDuration)
    (htimes : (earlier ++ [last]).Pairwise fun first second => first.observedAt ≤ second.observedAt)
    {time : Time} (hpending : time ∈
      (evaluateTick triggers (holdsAfter triggers earlier) last).decisions.filterMap pendingAt) :
    last.observedAt < time ∧ time - last.observedAt ≤ maxDuration ∧
      (evaluateTick triggers (evaluateTick triggers (holdsAfter triggers earlier) last).holds
        ⟨time, last.upsStates⟩).approved = true := by
  obtain ⟨decision, hd, hw⟩ := mem_filterMap.mp hpending
  obtain ⟨index, trigger, hat, rfl⟩ := mem_decisions_evaluate.mp hd
  rw [pendingAt, Option.ite_none_right_eq_some] at hw
  obtain ⟨hl, ⟨device, start, htimer, rfl⟩, ha⟩ := approved_at_eligibleAt hnamed hat hw.1.2 hw.2
  refine ⟨hl, ?_, ha⟩
  rw [← holdsAfter_concat, deviceTimers_holdsAfter_eq_some hnamed hat] at htimer
  obtain ⟨first, rfl, before, rest, ht, -, -⟩ := htimer
  have hf : first ∈ earlier ++ [last] := by simp [ht]
  have hs : first.observedAt ≤ last.observedAt := by
    obtain hmem | hmem := mem_append.mp hf
    · exact (pairwise_append.mp htimes).2.2 first hmem last mem_cons_self
    · rw [mem_singleton.mp hmem]
  exact sub_le_iff_le_add'.mpr (add_le_add hs (hfor trigger (mem_of_getElem? hat)))

theorem pending_of_matched (hmatched : ∃ decision ∈
      (evaluateTick triggers (holdsAfter triggers earlier) last).decisions, decision.matched = true)
    (happroved : (evaluateTick triggers (holdsAfter triggers earlier) last).approved = false) :
    (evaluateTick triggers (holdsAfter triggers earlier) last).decisions.filterMap pendingAt ≠
      [] := by
  obtain ⟨decision, hmem, hmatched⟩ := hmatched
  have hw : decision.eligible = false := by
    apply Bool.eq_false_iff.mpr
    intro he
    exact Bool.eq_false_iff.mp happroved (approved_evaluate.mpr ⟨decision, hmem, he⟩)
  obtain ⟨time, htime⟩ : ∃ time, decision.eligibleAt = some time := by
    obtain ⟨index, trigger, -, rfl⟩ := mem_decisions_evaluate.mp hmem
    rw [← Option.isSome_iff_exists, eligibleAt_evaluateTrigger, isSome_min?_iff]
    simpa using matched_evaluateTrigger.mp hmatched
  apply ne_nil_of_mem (a := time)
  exact mem_filterMap.mpr ⟨decision, hmem, by simp [pendingAt, hmatched, hw, htime]⟩

theorem approved_after_requeue (hnamed : Named triggers)
    (hfor : ∀ trigger ∈ triggers, trigger.holdFor ≤ maxDuration)
    (htimes : (earlier ++ [last]).Pairwise fun first second => first.observedAt ≤ second.observedAt)
    (hzero : 0 ≤ last.observedAt)
    (hmatched : ∃ decision ∈
      (evaluateTick triggers (holdsAfter triggers earlier) last).decisions, decision.matched = true)
    (happroved : (evaluateTick triggers (holdsAfter triggers earlier) last).approved = false) :
    (evaluateTick triggers (evaluateTick triggers (holdsAfter triggers earlier) last).holds
      ⟨last.observedAt + triggerRequeueAfter
        (evaluateTick triggers (holdsAfter triggers earlier) last) last.observedAt,
        last.upsStates⟩).approved = true := by
  have hp := @approved_of_mem_pending triggers earlier last hnamed hfor htimes
  have hsome := pending_of_matched hmatched happroved
  set evaluation := evaluateTick triggers (holdsAfter triggers earlier) last
  obtain ⟨time, hmin⟩ := Option.isSome_iff_exists.mp (isSome_min?_iff.mpr hsome)
  obtain ⟨hlater, hbound, hthen⟩ := hp ((List.min?_eq_some_iff.mp hmin).1)
  have hn : ∀ other ∈ evaluation.decisions.filterMap pendingAt, other ≠ 0 :=
    fun other hmem => (lt_of_le_of_lt hzero (hp hmem).1).ne'
  have hnext : evaluation.decisions.foldl earlierEligible 0 = time := by
    have hfold := foldl_earlierEligible hn none (by simp)
    rw [foldl_earlierOf, hmin] at hfold
    exact hfold
  have hr : last.observedAt + triggerRequeueAfter evaluation last.observedAt = time := by
    have hahead : ¬ (time = 0 ∨ time ≤ last.observedAt) :=
      not_or.mpr ⟨(hzero.trans_lt hlater).ne', hlater.not_ge⟩
    simp only [triggerRequeueAfter, happroved, hnext, if_neg hahead,
      timeSub_eq_sub hlater.le hbound]
    exact add_sub_cancel last.observedAt time
  rw [hr]
  exact hthen

/-- Every tick of a run of evaluations: a trigger selects the devices it has waited
for, the flow is approved by any selection, and a flow that waits is requeued for the
time of its approval. -/
theorem selects_after_unbroken_wait (hdistinct : (triggerIDs triggers).Nodup)
    (hplain : ∀ id ∈ triggerIDs triggers, '\x00' ∉ id.toList)
    (hfor : ∀ trigger ∈ triggers, trigger.holdFor ≤ maxDuration)
    (htimes : (earlier ++ [last]).Pairwise fun first second => first.observedAt ≤ second.observedAt)
    (hzero : ∀ tick ∈ earlier ++ [last], 0 ≤ tick.observedAt) :
    let evaluation := evaluateTick triggers (holdsAfter triggers earlier) last
    (∀ index decision, evaluation.decisions[index]? = some decision →
      ∃ trigger, triggers[index]? = some trigger ∧ ∀ device,
        device ∈ decision.selectedUPSDevices ↔ WaitedOut (normalizeTrigger index trigger) device
          (earlier ++ [last]) last.observedAt) ∧
    evaluation.decisions.length = triggers.length ∧
    (evaluation.approved = true ↔
      ∃ decision ∈ evaluation.decisions, decision.selectedUPSDevices ≠ []) ∧
    (∀ device, device ∈ evaluation.selectedUPSDevices ↔
      ∃ decision ∈ evaluation.decisions, decision.eligible = true ∧
        device ∈ decision.selectedUPSDevices) ∧
    ((∃ decision ∈ evaluation.decisions, decision.matched = true) →
      evaluation.approved = false →
      (evaluateTick triggers evaluation.holds
        ⟨last.observedAt + triggerRequeueAfter evaluation last.observedAt,
          last.upsStates⟩).approved = true) := by
  have hnamed := named_of_nodup hdistinct hplain
  refine ⟨?_, ?_, ?_, fun device => mem_selectedUPSDevices_evaluate, ?_⟩
  · intro index decision hd
    rw [evaluateTick, getElem?_decisions_evaluate, Option.map_eq_some_iff] at hd
    obtain ⟨trigger, hat, rfl⟩ := hd
    exact ⟨trigger, hat, fun device => mem_selectedUPSDevices_iff_waitedOut hnamed hat⟩
  · simp [evaluateTick, evaluate]
  · rw [evaluateTick, approved_evaluate]
    apply exists_congr
    intro decision
    apply and_congr_right
    intro hmem
    obtain ⟨index, trigger, -, rfl⟩ := mem_decisions_evaluate.mp hmem
    exact eligible_evaluateTrigger
  · exact approved_after_requeue hnamed hfor htimes (hzero last (by simp))

end

def onBatteryTrigger (id device : String) : Trigger :=
  { id := id, type := typeOnBattery, upsDevices := [device], holdFor := 10 }

def onBatteryTick (observedAt : Time) (device : String) : Tick :=
  { observedAt := observedAt, upsStates := [{ upsDevice := device, onBattery := true }] }

/-- A wait that began at 3 is not over at 12, and is over when the flow is requeued. -/
theorem waits_out_its_hold :
    let triggers := [onBatteryTrigger "rack" "ups-a"]
    let earlier := [onBatteryTick 1 "ups-b", onBatteryTick 3 "ups-a"]
    let evaluation := evaluateTick triggers (holdsAfter triggers earlier) (onBatteryTick 12 "ups-a")
    evaluation.approved = false ∧
      (evaluateTick triggers evaluation.holds ⟨12 + triggerRequeueAfter evaluation 12,
        (onBatteryTick 12 "ups-a").upsStates⟩).approved = true := by
  intro triggers earlier evaluation
  have hw : evaluation.approved = false := by decide
  have hlaw := @selects_after_unbroken_wait triggers earlier (onBatteryTick 12 "ups-a")
    (by decide) (by decide) (by decide) (by decide) (by decide)
  exact ⟨hw, hlaw.2.2.2.2 (by decide) hw⟩

def SelectsEarly (triggers : List Trigger) (earlier : List Tick) (last : Tick) (index : Nat)
    (device : String) : Prop :=
  ∃ trigger decision, triggers[index]? = some trigger ∧
    (evaluateTick triggers (holdsAfter triggers earlier) last).decisions[index]? = some decision ∧
    device ∈ decision.selectedUPSDevices ∧
    ¬ WaitedOut (normalizeTrigger index trigger) device (earlier ++ [last]) last.observedAt

theorem selectsEarly_of_break {triggers : List Trigger} (earlier : List Tick)
    {previous last : Tick} {index : Nat} {trigger : Trigger} {decision : Decision}
    {device : String} (hat : triggers[index]? = some trigger)
    (hdeciding : (evaluateTick triggers (holdsAfter triggers (earlier ++ [previous]))
      last).decisions[index]? = some decision)
    (hselected : device ∈ decision.selectedUPSDevices)
    (hbreak : matchesDevice (normalizeTrigger index trigger)
      (normalizeUPSStates previous.upsStates) device = false)
    (hfor : 0 < trigger.holdFor) : SelectsEarly triggers (earlier ++ [previous]) last index
    device := by
  refine ⟨trigger, decision, hat, hdeciding, hselected, not_waitedOut_of_break ?_ hfor⟩
  rw [← matchesDevice_normalizeUPSStates, hbreak]
  exact Bool.false_ne_true

/-- Distinct names can share a wait: two keys of holds can be one text, and so can two
names once they are trimmed. A time that is the zero time is not waited for. -/
theorem waits_are_shared_or_lost :
    (let triggers := [onBatteryTrigger "a" "b\x00c", onBatteryTrigger "a\x00b" "c"]
     (triggers.map (·.id)).Nodup ∧
       SelectsEarly triggers [onBatteryTick 0 "b\x00c"] (onBatteryTick 10 "c") 1 "c") ∧
    (let triggers := [onBatteryTrigger "a" "c",
       { onBatteryTrigger " a" "c" with type := typeTelemetryStale }]
     (triggers.map (·.id)).Nodup ∧
       SelectsEarly triggers [onBatteryTick 0 "c"]
         ⟨10, [{ upsDevice := "c", stale := true }]⟩ 1 "c") ∧
    (let triggers := [onBatteryTrigger "a" "c"]
     let last := onBatteryTick (-10) "c"
     let evaluation := evaluateTick triggers [] last
     evaluation.matchedTriggerCount = 1 ∧ evaluation.approved = false ∧
       (evaluateTick triggers evaluation.holds
         ⟨-10 + triggerRequeueAfter evaluation (-10), last.upsStates⟩).approved = false) := by
  refine ⟨⟨by decide, ?_⟩, ⟨by decide, ?_⟩, by decide⟩
  all_goals exact selectsEarly_of_break [] rfl rfl (by decide) (by decide) (by decide)

end NutOperator.Controller
