import NutOperator.Controller.Reconcile

/-! Rehearsals. A token is spent while its key is on record, and the record is the
one last execution of the status. -/
namespace NutOperator.Controller

open Data

/-- Passes over a flow that enforces, with one rehearsal asked for all along. A pass
with an eligible trigger compiles the plan for the outage, with a hash of its own. -/
structure SameRehearsal (flow : ShutdownFlow) (configHash : String) (selected : List String)
    (status : ShutdownFlowStatus) (pass : Pass) : Prop where
  name : pass.flow.name = flow.name
  generation : pass.flow.generation = flow.generation
  enforce : effectiveShutdownFlowMode pass.flow.spec.mode = .enforce
  token : (shutdownFlowRehearsalRequest pass.flow).token = (shutdownFlowRehearsalRequest flow).token
  configHash : ∀ compiled, pass.accepted = some compiled →
    (pass.evaluation status compiled).eligible = false → compiled.configHash = configHash
  selected : ∀ compiled, pass.accepted = some compiled →
    rehearsalSelectedUPSDevices pass.flow pass.bundle = selected

def rehearsalKey (identities : Identities) (flow : ShutdownFlow) (configHash : String)
    (selected : List String) : String :=
  identities.digest (.rehearsal flow.name flow.generation ShutdownFlowMode.enforce.text configHash
    (shutdownFlowRehearsalRequest flow).token (sortStrings selected))

def TellsApart (identities : Identities) : Prop :=
  ∀ name generation mode configHash triggers devices other otherGeneration otherMode otherHash
    request selected,
    identities.digest (.episode name generation mode configHash triggers devices) ≠
      identities.digest (.rehearsal other otherGeneration otherMode otherHash request selected)

/-- What an accepting pass asks of the latch, once its worker runs. -/
def Pass.turn (identities : Identities) (status : ShutdownFlowStatus) (pass : Pass)
    (compiled : CompiledFlow) : Turn String :=
  executionTurn identities pass.worker (pass.stored status compiled) pass.workerNow
    pass.bundle.hash compiled.configHash (pass.evaluation status compiled) pass.bundle

/-- The worker runs, there is something to execute for, its input can be read and no
other flow holds a resource of it. -/
def Pass.able (identities : Identities) (status : ShutdownFlowStatus) (pass : Pass)
    (compiled : CompiledFlow) : Bool :=
  pass.workerStart = .ready &&
    match pass.turn identities status compiled with
    | .want _ able => able
    | _ => false

/-- No trigger is eligible, so the rehearsal would be executed if it were not on
record. -/
def Asks (identities : Identities) (status : ShutdownFlowStatus) (pass : Pass) : Prop :=
  ∃ compiled, pass.accepted = some compiled ∧ (pass.evaluation status compiled).eligible = false ∧
    pass.able identities status compiled = true

def Forgets (identities : Identities) (status : ShutdownFlowStatus) (pass : Pass) : Prop :=
  pass.skips = false ∧ pass.accepted = none ∨ ∃ compiled, pass.accepted = some compiled ∧
      (pass.evaluation status compiled).eligible = true ∧
      pass.able identities status compiled = true

section

variable {identities : Identities} {flow : ShutdownFlow} {status : ShutdownFlowStatus}
  {pass : Pass} {compiled : CompiledFlow} {configHash : String} {selected : List String}

theorem requested_iff (flow : ShutdownFlow) : (shutdownFlowRehearsalRequest flow).requested = true ↔
      (shutdownFlowRehearsalRequest flow).token ≠ "" := by
  simp only [shutdownFlowRehearsalRequest]
  split <;> simp_all

theorem SameRehearsal.requested_eq (h : SameRehearsal flow configHash selected status pass) :
    (shutdownFlowRehearsalRequest pass.flow).requested =
      (shutdownFlowRehearsalRequest flow).requested := by
  rw [Bool.eq_iff_iff, requested_iff, requested_iff, h.token]

theorem passTurn_of_accepted (haccepted : pass.accepted = some compiled) :
    passTurn identities status pass =
      if pass.workerStart = .ready then pass.turn identities status compiled else .skip := by
  simp only [passTurn, not_skips_of_accepted haccepted, haccepted, Bool.false_eq_true,
    if_false, Pass.turn]

theorem turn_of_eligible (identities : Identities)
    (heligible : (pass.evaluation status compiled).eligible = true) :
    ∃ able, pass.turn identities status compiled =
      .want (shutdownExecutionDeduplicationKey identities pass.flow
        (pass.evaluation status compiled) compiled.configHash) able := by
  simp only [Pass.turn, executionTurn, occasion, heligible, if_true]
  exact ⟨_, rfl⟩

theorem turn_of_not_eligible (identities : Identities)
    (h : SameRehearsal flow configHash selected status pass)
    (haccepted : pass.accepted = some compiled)
    (heligible : (pass.evaluation status compiled).eligible = false) :
    ((shutdownFlowRehearsalRequest flow).requested = false ∧
        pass.turn identities status compiled = .clear) ∨
      (shutdownFlowRehearsalRequest flow).requested = true ∧
        (pass.turn identities status compiled = .skip ∨
          ∃ able, pass.turn identities status compiled =
            .want (rehearsalKey identities flow configHash selected) able) := by
  have hrequest : shutdownFlowRehearsalRequest (pass.stored status compiled) =
      shutdownFlowRehearsalRequest pass.flow := rfl
  rw [← h.requested_eq]
  have henforce : effectiveShutdownFlowMode (pass.stored status compiled).spec.mode = .enforce :=
    h.enforce
  have hselected : rehearsalSelectedUPSDevices (pass.stored status compiled) pass.bundle =
      selected := h.selected compiled haccepted
  simp only [Pass.turn, executionTurn, occasion, heligible, hrequest, henforce, hselected,
    Bool.false_eq_true, if_false, ne_eq, not_true]
  cases hrequested : (shutdownFlowRehearsalRequest pass.flow).requested with
  | false => exact .inl ⟨rfl, rfl⟩
  | true =>
    simp only [if_true]
    refine .inr ⟨trivial, ?_⟩
    by_cases hempty : selected = []
    · rw [if_pos hempty]
      exact .inl rfl
    · rw [if_neg hempty]
      refine .inr ⟨_, congrArg₂ Turn.want ?_ rfl⟩
      rw [shutdownRehearsalDeduplicationKey, henforce, h.token,
        h.configHash compiled haccepted heligible]
      simp only [rehearsalExecutionEvaluation, Pass.stored, h.name, h.generation]
      rfl

theorem able_iff : pass.able identities status compiled = true ↔
    pass.workerStart = .ready ∧ ∃ key, pass.turn identities status compiled = .want key true := by
  rw [Pass.able, Bool.and_eq_true, decide_eq_true_eq]
  refine and_congr_right fun _ => ?_
  cases pass.turn identities status compiled <;> simp

theorem passTurn_eq_want_true_iff {key : String} :
    passTurn identities status pass = .want key true ↔
      ∃ compiled, pass.accepted = some compiled ∧ pass.able identities status compiled = true ∧
        pass.turn identities status compiled = .want key true := by
  constructor
  · intro hturn
    cases haccepted : pass.accepted with
    | none =>
      rw [passTurn, haccepted] at hturn
      split at hturn <;> cases hturn
    | some compiled =>
      rw [passTurn_of_accepted haccepted] at hturn
      split at hturn
      · rename_i hready
        exact ⟨compiled, rfl, able_iff.mpr ⟨hready, key, hturn⟩, hturn⟩
      · cases hturn
  · rintro ⟨compiled, haccepted, hable, hturn⟩
    rw [passTurn_of_accepted haccepted, if_pos (able_iff.mp hable).1, hturn]

theorem passTurn_eq_rehearsal_iff (hapart : TellsApart identities)
    (h : SameRehearsal flow configHash selected status pass) :
    passTurn identities status pass =
        .want (rehearsalKey identities flow configHash selected) true ↔
      Asks identities status pass := by
  rw [passTurn_eq_want_true_iff, Asks]
  refine exists_congr fun compiled => and_congr_right fun haccepted => ?_
  cases heligible : (pass.evaluation status compiled).eligible with
  | true =>
    obtain ⟨able, hturn⟩ := turn_of_eligible identities heligible
    simp only [hturn, Bool.true_eq_false, false_and, iff_false, not_and, Turn.want.injEq]
    intro _ hkey
    exact absurd hkey (hapart _ _ _ _ _ _ _ _ _ _ _ _)
  | false =>
    refine ⟨fun hboth => ⟨rfl, hboth.1⟩, fun hboth => ⟨hboth.2, ?_⟩⟩
    obtain ⟨key, hturn⟩ := (able_iff.mp hboth.2).2
    rcases turn_of_not_eligible identities h haccepted heligible with
      ⟨-, hclear⟩ | ⟨-, hskip | ⟨able, hwant⟩⟩
    · rw [hclear] at hturn
      cases hturn
    · rw [hskip] at hturn
      cases hturn
    · rw [hwant] at hturn ⊢
      cases hturn
      rfl

theorem requested_of_asks (h : SameRehearsal flow configHash selected status pass)
    (hasks : Asks identities status pass) :
    (shutdownFlowRehearsalRequest flow).requested = true := by
  obtain ⟨compiled, haccepted, heligible, hable⟩ := hasks
  obtain ⟨key, hturn⟩ := (able_iff.mp hable).2
  rcases turn_of_not_eligible identities h haccepted heligible with ⟨-, hclear⟩ | ⟨hrequest, -⟩
  · rw [hclear] at hturn
    cases hturn
  · exact hrequest

theorem passTurn_of_not_accepted (haccepted : pass.accepted = none) :
    passTurn identities status pass = if pass.skips then .skip else .clear := by
  rw [passTurn, haccepted]

theorem passTurn_releases_iff (hapart : TellsApart identities)
    (h : SameRehearsal flow configHash selected status pass)
    (hrequest : (shutdownFlowRehearsalRequest flow).requested = true) :
    (passTurn identities status pass).Releases (rehearsalKey identities flow configHash selected) ↔
      Forgets identities status pass := by
  cases haccepted : pass.accepted with
  | none =>
    rw [passTurn_of_not_accepted haccepted, Forgets, haccepted]
    cases pass.skips <;> simp [Turn.Releases]
  | some compiled =>
    have hforgets : Forgets identities status pass ↔
        (pass.evaluation status compiled).eligible = true ∧
          pass.able identities status compiled = true := by
      simp [Forgets, haccepted]
    rw [hforgets, able_iff, passTurn_of_accepted haccepted]
    by_cases hready : pass.workerStart = .ready
    · rw [if_pos hready]
      cases heligible : (pass.evaluation status compiled).eligible with
      | true =>
        obtain ⟨able, hturn⟩ := turn_of_eligible identities heligible
        have hother : shutdownExecutionDeduplicationKey identities pass.flow
            (pass.evaluation status compiled) compiled.configHash ≠
            rehearsalKey identities flow configHash selected := hapart _ _ _ _ _ _ _ _ _ _ _ _
        simp [hturn, hready, Turn.Releases, hother]
      | false =>
        rcases turn_of_not_eligible identities h haccepted heligible with
          ⟨hunrequested, -⟩ | ⟨-, hskip | ⟨able, hwant⟩⟩
        · rw [hrequest] at hunrequested
          cases hunrequested
        · simp [hskip, Turn.Releases]
        · simp [hwant, Turn.Releases]
    · simp [hready, Turn.Releases]

end

/-- A rehearsal that is not on record is executed at most once exactly when no pass
that forgets it lies between two that ask for it. -/
theorem count_rehearsals_le_one_iff (identities : Identities) (flow : ShutdownFlow)
    (configHash : String) (selected : List String) (status : ShutdownFlowStatus)
    (passes : List Pass) (hapart : TellsApart identities)
    (hfresh : activeKey status.lastExecution ≠
      some (rehearsalKey identities flow configHash selected))
    (hpasses : ∀ step ∈ trail identities status passes,
      SameRehearsal flow configHash selected step.1 step.2) :
    ((started identities status passes).map (·.deduplicationKey)).count
        (rehearsalKey identities flow configHash selected) ≤ 1 ↔
      ¬ ∃ first forgetting last,
        [first, forgetting, last].Sublist (trail identities status passes) ∧
        Asks identities first.1 first.2 ∧ Forgets identities forgetting.1 forgetting.2 ∧
        Asks identities last.1 last.2 := by
  rw [← not_lt, not_iff_not, started_eq_latchRun, ← Nat.succ_le_iff]
  refine (two_le_count_latchRun_map hfresh).trans ?_
  refine exists_congr fun first => exists_congr fun forgetting => exists_congr fun last =>
    and_congr_right fun hsteps => ?_
  have hsame : ∀ step ∈ [first, forgetting, last],
      SameRehearsal flow configHash selected step.1 step.2 :=
    fun step hmem => hpasses step (hsteps.subset hmem)
  simp only [List.forall_mem_cons] at hsame
  obtain ⟨hfirst, hforgets, hlast, -⟩ := hsame
  rw [passTurn_eq_rehearsal_iff hapart hfirst, passTurn_eq_rehearsal_iff hapart hlast]
  refine and_congr_right fun hasks => and_congr_left fun _ => ?_
  exact passTurn_releases_iff hapart hforgets (requested_of_asks hfirst hasks)

theorem tellsApart_plainIdentities : TellsApart plainIdentities := by
  intro name generation mode configHash triggers devices other otherGeneration otherMode otherHash
    request selected h
  have hfirst := congrArg (fun text => text.toList.head?) h
  simp [plainIdentities, plainDigest] at hfirst

def rehearsedFlow : ShutdownFlow :=
  { name := "rack", generation := 1, annotations := [( rehearsalRequestAnnotation, "drill-1")]
    spec :=
      { mode := some .enforce, triggers := [{ type := .onBattery, upsDeviceRefs := ["ups-a"] }] } }

def rehearsedPass (now : Execution.Time) (phase : UPSDevicePhase) (compilation : Compilation) :
    Pass where
  flow := rehearsedFlow
  now := now
  devices := [{ name := "ups-a", phase := some phase }]
  compilation := compilation
  worker := idleWorker

def planned (configHash : String) : Compilation := .compiled { configHash := configHash }

theorem sameRehearsal_rehearsedPass {now : Execution.Time} {phase : UPSDevicePhase}
    {compilation : Compilation} {status : ShutdownFlowStatus}
    (h : compilation = planned "plan" ∨ compilation = .rejected ∨
      compilation = planned "scoped" ∧ ((rehearsedPass now phase compilation).evaluation status
        { configHash := "scoped" }).eligible = true) :
    SameRehearsal rehearsedFlow "plan" ["ups-a"] status (rehearsedPass now phase compilation) where
  name := rfl
  generation := rfl
  enforce := rfl
  token := rfl
  configHash := by
    intro compiled haccepted heligible
    rcases h with rfl | rfl | ⟨rfl, houtage⟩
    · cases haccepted
      rfl
    · cases haccepted
    · cases haccepted
      rw [houtage] at heligible
      cases heligible
  selected := fun _ _ => show rehearsalSelectedUPSDevices rehearsedFlow {} = _ by decide

/-- Passes after the rehearsal that do not forget it: it stays on record. -/
theorem recorded_rehearsal_is_spent_once :
    let passes := [rehearsedPass 1000000000 .online (planned "plan"),
      rehearsedPass 2000000000 .online (planned "plan")]
    let key := rehearsalKey plainIdentities rehearsedFlow "plan" ["ups-a"]
    ((started plainIdentities {} passes).map (·.deduplicationKey)).count key = 1 ∧
      (((started plainIdentities {} passes).map (·.deduplicationKey)).count key ≤ 1 ↔
        ¬ ∃ first forgetting last,
          [first, forgetting, last].Sublist (trail plainIdentities {} passes) ∧
          Asks plainIdentities first.1 first.2 ∧
          Forgets plainIdentities forgetting.1 forgetting.2 ∧
          Asks plainIdentities last.1 last.2) := by
  intro passes key
  refine ⟨by decide, count_rehearsals_le_one_iff plainIdentities rehearsedFlow "plan" ["ups-a"] {}
    passes tellsApart_plainIdentities (by decide) ?_⟩
  simp only [passes, trail, List.forall_mem_cons]
  exact ⟨sameRehearsal_rehearsedPass (.inl rfl), sameRehearsal_rehearsedPass (.inl rfl), by simp⟩

/-- An outage that is executed, with a plan of its own, and ends, and a compile that is
rejected once: after either the rehearsal is executed again. -/
theorem forgotten_rehearsal_is_spent_twice :
    let outage := [rehearsedPass 1000000000 .online (planned "plan"),
      rehearsedPass 2000000000 .onBattery (planned "scoped"),
      rehearsedPass 3000000000 .online (planned "plan")]
    let rejection := [rehearsedPass 1000000000 .online (planned "plan"),
      rehearsedPass 2000000000 .online .rejected, rehearsedPass 3000000000 .online (planned "plan")]
    let key := rehearsalKey plainIdentities rehearsedFlow "plan" ["ups-a"]
    (∀ step ∈ trail plainIdentities {} outage ++ trail plainIdentities {} rejection,
        SameRehearsal rehearsedFlow "plan" ["ups-a"] step.1 step.2) ∧
      ((started plainIdentities {} outage).map (·.deduplicationKey)).count key = 2 ∧
      ((started plainIdentities {} rejection).map (·.deduplicationKey)).count key = 2 := by
  intro outage rejection key
  refine ⟨?_, by decide, by decide⟩
  simp only [outage, rejection, trail, List.cons_append, List.nil_append, List.forall_mem_cons]
  exact ⟨sameRehearsal_rehearsedPass (.inl rfl),
    sameRehearsal_rehearsedPass (.inr (.inr ⟨rfl, by decide⟩)),
    sameRehearsal_rehearsedPass (.inl rfl), sameRehearsal_rehearsedPass (.inl rfl),
    sameRehearsal_rehearsedPass (.inr (.inl rfl)), sameRehearsal_rehearsedPass (.inl rfl), by simp⟩

end NutOperator.Controller
