import NutOperator.Planner.ScopeSoundness

/-! The published plan against an execution: a wider outage retains more, so an
execution within the anticipated outage runs nothing the plan left out. -/
namespace NutOperator.Planner

open Data NutOperator.Graph List

section

variable {memberships : List GroupNodeMembership} {aff affected' : List String}

theorem retainsAction_mono (hsub : aff ⊆ affected') {name : String}
    (h : retainsAction memberships aff name = true) : retainsAction memberships affected' name =
    true := by
  contrapose h
  rw [Bool.not_eq_true, retainsAction_eq_false] at h ⊢
  exact ⟨h.1, h.2.1, h.2.2.1, fun node hnode hmem => h.2.2.2 node hnode (hsub hmem)⟩

theorem retainReleasedCarrierConsumers_mono {input : StructuralInputs}
    {index : CommunicationIndex} (hsub : aff ⊆ affected') :
    retainReleasedCarrierConsumers input aff index ⊆
      retainReleasedCarrierConsumers input affected' index := by
  unfold retainReleasedCarrierConsumers
  split
  · exact hsub
  · obtain ⟨result, hresult⟩ := exists_releasedConsumersLoop input aff index
    obtain ⟨result', hresult'⟩ := exists_releasedConsumersLoop input affected' index
    rw [hresult, hresult']
    apply grow_mono _ hsub hresult hresult'
    intro left right hmore cons hc
    obtain ⟨carrier, hcarrier, hd⟩ := mem_consumers.mp hc
    obtain ⟨name, hname, hr, hreleases⟩ := mem_releasedByRetained.mp hcarrier
    exact mem_consumers.mpr ⟨carrier, mem_releasedByRetained.mpr
      ⟨name, hname, retainsAction_mono hmore hr, hreleases⟩, hd⟩

end

section

variable {input : StructuralInputs} {domains domains' : List String} (hsub : domains ⊆ domains')

include hsub

theorem affectedNodes_mono : affectedNodes input domains (newCommunicationIndex input) ⊆
      affectedNodes input domains' (newCommunicationIndex input) := by
  intro node hnode
  simp only [affectedNodes, mem_append, mem_communicationDependents, nodesForPowerDomains,
    mem_flatMap, mem_filter, decide_eq_true_eq] at hnode ⊢
  rcases hnode with (⟨domain, ⟨hd, ha⟩, hl⟩ |
    ⟨carrier, hdepends, hu | ⟨domain, hd, ha, he⟩⟩) | hunmarshal
  · exact .inl (.inl ⟨domain, ⟨hd, hsub ha⟩, hl⟩)
  · exact .inl (.inr ⟨carrier, hdepends, .inl hu⟩)
  · exact .inl (.inr ⟨carrier, hdepends, .inr ⟨domain, hd, hsub ha, he⟩⟩)
  · exact .inr hunmarshal

theorem outageNodes_mono : outageNodes input domains ⊆ outageNodes input domains' :=
  retainReleasedCarrierConsumers_mono (affectedNodes_mono hsub)

theorem sharedCommunicationAffected_mono
    (h : sharedCommunicationAffected (scopeWork input) domains (newCommunicationIndex input) =
      true) :
    sharedCommunicationAffected (scopeWork input) domains' (newCommunicationIndex input) =
      true := by
  have hn : outageNodes input domains ⊆ _ := outageNodes_mono hsub
  simp only [sharedCommunicationAffected, affectedNodes_scopeWork, Bool.or_eq_true, any_eq_true,
    Bool.and_eq_true, Bool.not_eq_true', Bool.and_eq_false_iff, decide_eq_true_eq] at h ⊢
  rcases h with ⟨supply, hmem, he⟩ | ⟨entry, hentry, hr, hreleases⟩
  · exact .inl ⟨supply, hmem, he.imp_right fun ⟨domain, hd, hin⟩ => ⟨domain, hd, hsub hin⟩⟩
  · refine .inr ⟨entry, hentry, hr.imp_right fun hi => ?_, hreleases⟩
    rw [← Bool.not_eq_true, outsideNodeSet_eq_true] at hi ⊢
    exact fun hout => hi fun node hnode hmem => hout node hnode (hn hmem)

end

def withExecutionScope (input : StructuralInputs) (devices : List String) : StructuralInputs :=
  { input with executionScope := some ⟨devices⟩ }

theorem scopeWork_withExecutionScope (input : StructuralInputs) (devices : List String) :
    scopeWork (withExecutionScope input devices) =
      withExecutionScope (scopeWork input) devices := by
  unfold scopeWork withExecutionScope
  split <;> rfl

theorem sharedCommunicationAffected_withExecutionScope (input : StructuralInputs)
    (devices domains : List String) :
    sharedCommunicationAffected (scopeWork (withExecutionScope input devices)) domains
        (newCommunicationIndex (withExecutionScope input devices)) =
      sharedCommunicationAffected (scopeWork input) domains (newCommunicationIndex input) := by
  rw [scopeWork_withExecutionScope]
  rfl

theorem prunedActions_withExecutionScope (input : StructuralInputs)
    (devices domains : List String) :
    prunedActions (withExecutionScope input devices) domains
        (newCommunicationIndex (withExecutionScope input devices)) =
      prunedActions input domains (newCommunicationIndex input) := by
  unfold prunedActions
  rw [scopeWork_withExecutionScope]
  rfl

variable {input : StructuralInputs} {devices : List String}

variable {domains : List String} {name : String}

theorem scope_withExecutionScope (hmapped : executionRootsMapped devices input.powerDomains = true)
    (houtage : outageDomains (withExecutionScope input devices) = some domains)
    (hsome : domains ≠ []) (hnodes : input.groupNodes ≠ [])
    (hunshared : sharedCommunicationAffected (scopeWork input) domains
      (newCommunicationIndex input) = false)
    (hpruned : prunedActions input domains (newCommunicationIndex input) ≠ []) :
    (scopeStructuralInputs (withExecutionScope input devices)).1 =
      omitActions (withExecutionScope input devices)
        (prunedActions input domains (newCommunicationIndex input)) := by
  have hroots : (withExecutionScope input devices).executionScope.any (fun scope =>
      !executionRootsMapped scope.upsDevices (withExecutionScope input devices).powerDomains) =
        false := by
    simp [withExecutionScope, hmapped]
  have he : (withExecutionScope input devices).groupNodes ≠ [] := hnodes
  unfold scopeStructuralInputs scopeStructuralInputsWithIndex
  rw [hroots, houtage]
  simp [hsome, he, scopeToDomains, sharedCommunicationAffected_withExecutionScope,
    prunedActions_withExecutionScope, hunshared, hpruned]

theorem mem_actionNames_of_scoped (h : name ∈ actionNames (scopeStructuralInputs input).1) :
    name ∈ actionNames input := by
  rcases scope_cases input (newCommunicationIndex input) with hsame | ⟨domains, -, -, hs⟩
  · rwa [scopeStructuralInputs, hsame] at h
  · rw [scopeStructuralInputs, hs] at h
    exact (mem_actionNames_omitActions.mp h).1

/-- The device supplies a domain, and the triggers anticipate its outage: one of
them is unlimited, or names the device, or together they affect every domain
the device supplies. -/
structure Anticipated (input : StructuralInputs) (device : String) : Prop where
  named : device ≠ ""
  mapped : ∃ name, Roots input.powerDomains device name
  covered : (∃ trigger ∈ input.triggers, trigger.powerDomains = [] ∧ trigger.upsDevices = []) ∨
    (∃ trigger ∈ input.triggers, device ∈ trigger.upsDevices) ∨
    ∀ name, Roots input.powerDomains device name →
      ∃ trigger ∈ input.triggers, Affects input.powerDomains trigger name

theorem executionRootsMapped_eq_true {roots : List String} {domains : List PowerDomainMembership} :
    executionRootsMapped roots domains = true ↔
      ∀ root ∈ roots, root ≠ "" ∧ ∃ name, Roots domains root name := by
  simp only [executionRootsMapped, all_eq_true, Bool.and_eq_true, decide_eq_true_eq,
    any_eq_true, Roots]
  constructor
  · intro h root hroot
    obtain ⟨hn, domain, hd, hname, hdevice⟩ := h root hroot
    exact ⟨hn, domain.name, domain, hd, hname, hdevice, rfl⟩
  · intro h root hroot
    obtain ⟨hn, _, domain, hd, hname, hdevice, -⟩ := h root hroot
    exact ⟨hn, domain, hd, hname, hdevice⟩

theorem outageDomains_withExecutionScope (input : StructuralInputs) (hdevices : devices ≠ []) :
    ∃ domains, outageDomains (withExecutionScope input devices) = some domains := by
  simp [outageDomains, withExecutionScope, affectedPowerDomains, hdevices]

theorem Anticipated.affects {device : String} (hanticipated : Anticipated input device)
    (hinitial : input.executionScope = none) (houtage : outageDomains input = some domains)
    (hroots : Roots input.powerDomains device name) : name ∈ domains := by
  rw [mem_outageDomains houtage, InOutage, hinitial]
  rcases hanticipated.covered with ⟨trigger, ht, hnone⟩ | ⟨trigger, ht, hd⟩ | hc
  · have hu : input.triggers.any
        (fun trigger => trigger.powerDomains = [] && trigger.upsDevices = []) = true :=
      any_eq_true.mpr ⟨trigger, ht, by simp [hnone]⟩
    simp [outageDomains, hinitial, affectedPowerDomains, hu] at houtage
  · exact ⟨trigger, ht, .inr ⟨device, hd, hroots⟩⟩
  · exact hc name hroots

theorem not_mem_prunedActions_of_wider {domains' : List String} (hdevices : devices ≠ [])
    (hmapped : executionRootsMapped devices input.powerDomains = true)
    (houtage : outageDomains (withExecutionScope input devices) = some domains)
    (hsub : domains ⊆ domains') (hunshared' : sharedCommunicationAffected (scopeWork input) domains'
      (newCommunicationIndex input) = false)
    (hname : name ∈ actionNames (scopeStructuralInputs (withExecutionScope input devices)).1) :
    name ∉ prunedActions input domains' (newCommunicationIndex input) := by
  intro hpruned'
  have hinput : name ∈ actionNames (withExecutionScope input devices) :=
    mem_actionNames_of_scoped hname
  have hsome : domains ≠ [] := by
    obtain ⟨device, hd⟩ := exists_mem_of_ne_nil _ hdevices
    obtain ⟨-, domain, hroots⟩ := executionRootsMapped_eq_true.mp hmapped device hd
    have hmem : domain ∈ domains := (mem_outageDomains houtage).mpr ⟨device, hd, hroots⟩
    exact ne_nil_of_mem hmem
  have hunshared : sharedCommunicationAffected (scopeWork input) domains
      (newCommunicationIndex input) = false := by
    rw [← Bool.not_eq_true] at hunshared' ⊢
    exact fun hs => hunshared' (sharedCommunicationAffected_mono hsub hs)
  have hout := (mem_prunedActions.mp hpruned').2
  have hpruned : name ∈ prunedActions input domains (newCommunicationIndex input) := by
    refine mem_prunedActions.mpr ⟨hinput, ?_⟩
    rw [← Bool.not_eq_true] at hout ⊢
    exact fun hr => hout (retainsAction_mono (outageNodes_mono hsub) hr)
  have hn : input.groupNodes ≠ [] := by
    obtain ⟨-, -, ⟨node, ht⟩, -⟩ := retainsAction_eq_false.mp hout
    obtain ⟨entry, he, -⟩ := touches_iff.mp ht
    exact ne_nil_of_mem he
  rw [scope_withExecutionScope hmapped houtage hsome hn hunshared
    (ne_nil_of_mem hpruned), mem_actionNames_omitActions] at hname
  exact hname.2 hpruned

/-- What an anticipated outage executes, the plan published without an
execution retains. -/
theorem execution_within_preflight (input : StructuralInputs)
    (hpreflight : input.executionScope = none) (devices : List String) (hdevices : devices ≠ [])
    (hanticipated : ∀ device ∈ devices, Anticipated input device) (name : String)
    (hname : name ∈ actionNames (scopeStructuralInputs (withExecutionScope input devices)).1) :
    name ∈ actionNames (scopeStructuralInputs input).1 := by
  have hinput : name ∈ actionNames (withExecutionScope input devices) :=
    mem_actionNames_of_scoped hname
  rcases scope_cases input (newCommunicationIndex input) with
    hsame | ⟨domains', houtage', hunshared', hscoped'⟩
  · rwa [scopeStructuralInputs, hsame]
  · rw [scopeStructuralInputs, hscoped', mem_actionNames_omitActions]
    obtain ⟨domains, houtage⟩ := outageDomains_withExecutionScope input hdevices
    have hsub : domains ⊆ domains' := by
      intro domain hd
      obtain ⟨device, hdevice, hroots⟩ := (mem_outageDomains houtage).mp hd
      exact (hanticipated device hdevice).affects hpreflight houtage' hroots
    have hm : executionRootsMapped devices input.powerDomains = true :=
      executionRootsMapped_eq_true.mpr fun device hdevice =>
        ⟨(hanticipated device hdevice).named, (hanticipated device hdevice).mapped⟩
    exact ⟨hinput, not_mem_prunedActions_of_wider hdevices hm houtage hsub hunshared' hname⟩

theorem rackFlow_execution_within_preflight :
    "drain-a" ∈ actionNames (scopeStructuralInputs (withExecutionScope rackFlow ["ups-a"])).1 ∧
      "drain-a" ∈ actionNames (scopeStructuralInputs rackFlow).1 := by
  have hrun : "drain-a" ∈
      actionNames (scopeStructuralInputs (withExecutionScope rackFlow ["ups-a"])).1 := by decide
  refine ⟨hrun, execution_within_preflight rackFlow rfl ["ups-a"] (by decide) ?_ _ hrun⟩
  intro device hd
  rw [List.mem_singleton] at hd
  subst hd
  refine ⟨by decide, ⟨"rack-a", ?_⟩, .inr (.inl ?_)⟩
  · unfold Roots
    decide
  · decide

theorem actionNames_scoped_mono (input : StructuralInputs) {devices' : List String}
    (hdevices : devices ≠ []) (hsub : devices ⊆ devices') :
    actionNames (scopeStructuralInputs (withExecutionScope input devices)).1 ⊆
      actionNames (scopeStructuralInputs (withExecutionScope input devices')).1 := by
  intro name hname
  have hinput : name ∈ actionNames (withExecutionScope input devices) :=
    mem_actionNames_of_scoped hname
  cases hmapped' : executionRootsMapped devices' input.powerDomains with
  | false =>
    -- an unmapped root keeps all the work
    have hkept : (scopeStructuralInputs (withExecutionScope input devices')).1 =
        withExecutionScope input devices' := by
      simp [scopeStructuralInputs, scopeStructuralInputsWithIndex, withExecutionScope, hmapped']
    rwa [hkept]
  | true =>
    rcases scope_cases (withExecutionScope input devices')
      (newCommunicationIndex (withExecutionScope input devices')) with
      hsame | ⟨domains', houtage', hunshared', hscoped'⟩
    · rwa [scopeStructuralInputs, hsame]
    · rw [sharedCommunicationAffected_withExecutionScope] at hunshared'
      rw [scopeStructuralInputs, hscoped', mem_actionNames_omitActions,
        prunedActions_withExecutionScope]
      obtain ⟨domains, houtage⟩ := outageDomains_withExecutionScope input hdevices
      have hd : domains ⊆ domains' := by
        intro domain hdomain
        obtain ⟨device, hdevice, hroots⟩ := (mem_outageDomains houtage).mp hdomain
        exact (mem_outageDomains houtage').mpr ⟨device, hsub hdevice, hroots⟩
      have hmapped : executionRootsMapped devices input.powerDomains = true :=
        executionRootsMapped_eq_true.mpr fun device hdevice =>
          executionRootsMapped_eq_true.mp hmapped' device (hsub hdevice)
      exact ⟨hinput, not_mem_prunedActions_of_wider hdevices hmapped houtage hd hunshared' hname⟩

theorem survivingInputs_withExecutionScope (hash : StableHash) (structural : StructuralInputs)
    (hdevices : devices ≠ []) :
    survivingInputs hash (withExecutionScope structural devices) =
      (prepareStructuralInputs hash { structural with executionScope := none }).map
        fun normalized =>
          (scopeStructuralInputs (withExecutionScope normalized (sortedUnique devices))).1 := by
  have hsome : sortedUnique devices ≠ [] := by simpa using hdevices
  unfold survivingInputs prepareStructuralInputs normalizeStructuralInputs withExecutionScope
  cases sortTriggers hash (structural.triggers.map normalizeTrigger) with
  | error msg => rfl
  | ok triggers =>
    simp only [Except.map, Option.map_some, Option.map_none, Option.any_some, Option.any_none,
      hsome, decide_false, Bool.false_eq_true, if_false]

/-- A growing outage never drops work: what scoping retains for some devices it retains for
more of them, as a step of its own and in what the compiler schedules. -/
theorem wider_outage_retains (hash : StableHash) (structural : StructuralInputs)
    (devices devices' : List String) (hdevices : devices ≠ []) (hsub : devices ⊆ devices') :
    (∀ name ∈ actionNames (scopeStructuralInputs (withExecutionScope structural devices)).1,
      name ∈ actionNames (scopeStructuralInputs (withExecutionScope structural devices')).1) ∧
    ∀ surviving, survivingInputs hash (withExecutionScope structural devices) = .ok surviving →
      ∃ surviving', survivingInputs hash (withExecutionScope structural devices') =
        .ok surviving' ∧ ∀ name ∈ actionNames surviving, name ∈ actionNames surviving' := by
  refine ⟨actionNames_scoped_mono structural hdevices hsub, ?_⟩
  have hdevs' : devices' ≠ [] := by
    rintro rfl
    exact hdevices (List.subset_nil.mp hsub)
  have hsorted : sortedUnique devices ⊆ sortedUnique devices' := by
    intro device hd
    exact mem_sortedUnique.mpr (hsub (mem_sortedUnique.mp hd))
  intro surviving hs
  rw [survivingInputs_withExecutionScope hash structural hdevices] at hs
  rw [survivingInputs_withExecutionScope hash structural hdevs']
  cases hp : prepareStructuralInputs hash { structural with executionScope := none } with
  | error diagnostics =>
    rw [hp] at hs
    cases hs
  | ok normalized =>
    rw [hp] at hs
    obtain rfl := Except.ok.inj hs
    exact ⟨_, rfl, actionNames_scoped_mono normalized (by simpa using hdevices) hsorted⟩

theorem wider_outage_retains_rack :
    "drain-a" ∈ actionNames (scopeStructuralInputs (withExecutionScope rackFlow ["ups-a"])).1 ∧
      "drain-a" ∈ actionNames
        (scopeStructuralInputs (withExecutionScope rackFlow ["ups-a", "ups-b"])).1 := by
  have hrun : "drain-a" ∈
      actionNames (scopeStructuralInputs (withExecutionScope rackFlow ["ups-a"])).1 := by decide
  exact ⟨hrun, (wider_outage_retains constantHash rackFlow ["ups-a"] ["ups-a", "ups-b"]
    (by decide) (by decide)).1 "drain-a" hrun⟩

def Selects (domains : List PowerDomainMembership) (trigger : Trigger) (device : String) : Prop :=
  (trigger.powerDomains = [] ∧ trigger.upsDevices = []) ∨ device ∈ trigger.upsDevices ∨
    ∃ domain ∈ domains, domain.name ∈ trigger.powerDomains ∧ device ∈ domain.upsDevices

/-- The trigger also names a device that supplies no domain. -/
def strayDeviceFlow : StructuralInputs :=
  { rackFlow with triggers := [{ type := "OnBattery", upsDevices := ["ups-a", "ups-x"] }] }

def sharedDeviceFlow : StructuralInputs :=
  { rackFlow with
    triggers := [{ type := "OnBattery", powerDomains := ["rack-a"] }]
    powerDomains := [{ name := "rack-a", upsDevices := ["ups-a"], nodes := ["node-a"] },
        { name := "rack-b", upsDevices := ["ups-a", "ups-b"], nodes := ["node-b"],
          infrastructure := ["switch-b"] }] }

/-- An execution can run an action that the published plan left out. -/
theorem execution_beyond_preflight :
    (∃ trigger ∈ strayDeviceFlow.triggers,
        Selects strayDeviceFlow.powerDomains trigger "ups-x") ∧
      "drain-b" ∈
        actionNames (scopeStructuralInputs (withExecutionScope strayDeviceFlow ["ups-x"])).1 ∧
      "drain-b" ∉ actionNames (scopeStructuralInputs strayDeviceFlow).1 ∧
    (∃ trigger ∈ sharedDeviceFlow.triggers,
        Selects sharedDeviceFlow.powerDomains trigger "ups-a") ∧
      "drain-b" ∈
        actionNames (scopeStructuralInputs (withExecutionScope sharedDeviceFlow ["ups-a"])).1 ∧
      "drain-b" ∉ actionNames (scopeStructuralInputs sharedDeviceFlow).1 := by
  unfold Selects
  decide

end NutOperator.Planner
