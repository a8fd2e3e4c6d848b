import NutOperator.Controller.Runs

/-! Passes publish the runs the manager owns. The passes of one flow do not
overlap, but a pass leaves the lock between any two of its requests, and workers
and the passes of other flows go on in between. -/
namespace NutOperator.Controller

open Data Effects
open Execution (Time)

inductive PublishRequest where
  | snapshot (name : String)
  | cancel (name : String)
  | acknowledge (name : String)
  /-- The cadence the cluster asks for. -/
  | cadence (flow : ShutdownFlow)
  | now
  /-- The status of a flow is stored. -/
  | patch (flow : ShutdownFlow)

abbrev PublishReply : PublishRequest → Type
  | .snapshot _ => Option FlowRun
  | .cancel _ => Unit
  | .acknowledge _ => Unit
  | .cadence _ => Duration
  | .now => Time
  | .patch _ => Option String

abbrev Publish := Program PublishRequest PublishReply

def Publish.request (request : PublishRequest) : Publish (PublishReply request) :=
  Program.request request

/-- A run was submitted for another version of the flow, or the flow is going away. -/
def superseded (run : FlowRun) (flow : ShutdownFlow) : Bool :=
  run.flow.uid ≠ flow.uid || run.flow.generation ≠ flow.generation || flow.deletionTimestamp.isSome

def executionRunning (flow : ShutdownFlow) : Bool :=
  flow.status.lastExecution.any fun last => last.phase = .running

def storeStatus (run : FlowRun) (stale : Bool) (flow : ShutdownFlow) (cadence : Duration) :
    Publish (Option (Except String Duration)) := do
  let publishedAt ← Publish.request .now
  match ← Publish.request (.patch { flow with status.lastPublishTime := some publishedAt }) with
  | some error => pure (some (.error error))
  | none =>
    if run.done then Publish.request (.acknowledge flow.name)
    pure (some (.ok (if stale then nanosPerSecond else cadence)))

def publishStatus (run : FlowRun) (stale : Bool) (flow : ShutdownFlow) :
    Publish (Option (Except String Duration)) := do
  if !stale && executionRunning flow then
    let cadence ← Publish.request (.cadence flow)
    storeStatus run stale flow cadence
  else storeStatus run stale flow run.cadence

/-- Nothing is returned when the flow has no run to publish, and otherwise when the
next pass is due. -/
def publishOwnedRun (flow : ShutdownFlow) : Publish (Option (Except String Duration)) := do
  match ← Publish.request (.snapshot flow.name) with
  | none => pure none
  | some run =>
    if superseded run flow then do
      Publish.request (.cancel flow.name)
      if run.done then pure none
      else
        publishStatus run true (setExecutionReadyCondition flow false "ExecutionStopping"
            "waiting for the superseded execution to release its resources")
    else publishStatus run false { flow with status := run.flow.status }

/-- The owned runs, the passes under way by the name of their flow, and the statuses
stored so far. -/
structure Reconciles where
  runs : FlowRuns
  underWay : String → Option (Publish (Option (Except String Duration))) := fun _ => none
  stored : List (String × ShutdownFlowStatus) := []

structure Answers where
  now : Time
  cadence : Duration
  patchError : Option String := none

def Reconciles.answer (r : Reconciles) (answers : Answers) :
    (request : PublishRequest) → PublishReply request
  | .snapshot name => r.runs.snapshot name
  | .cancel _ => ()
  | .acknowledge _ => ()
  | .cadence _ => answers.cadence
  | .now => answers.now
  | .patch _ => answers.patchError

def Reconciles.perform (r : Reconciles) (answers : Answers) : PublishRequest → Reconciles
  | .cancel name => { r with runs := r.runs.step (.cancel name) }
  | .acknowledge name => { r with runs := r.runs.step (.acknowledge name) }
  | .patch flow =>
    if answers.patchError = none then { r with stored := (flow.name, flow.status) :: r.stored }
    else r
  | _ => r

/-- Submissions and the cancellation for a flow that is gone come from a pass that is
not publishing. Only publishing acknowledges. -/
def Reconciles.admits (r : Reconciles) : RunsEvent → Bool
  | .submit flow _ => (r.underWay flow.name).isNone
  | .cancel name => (r.underWay name).isNone
  | .acknowledge _ => false
  | _ => true

inductive ReconcileEvent where
  | other (event : RunsEvent)
  | begin (flow : ShutdownFlow)
  /-- The pass for a name makes its next request. -/
  | advance (name : String) (answers : Answers)

def Reconciles.step (r : Reconciles) : ReconcileEvent → Reconciles
  | .other event => if r.admits event then { r with runs := r.runs.step event } else r
  | .begin flow =>
    if (r.underWay flow.name).isSome then r
    else
      { r with underWay := Function.update r.underWay flow.name (some (publishOwnedRun flow)) }
  | .advance name answers =>
    match r.underWay name with
    | none => r
    | some (.done _) => { r with underWay := Function.update r.underWay name none }
    | some (.ask request next) =>
      let performed := r.perform answers request
      { performed with
        underWay := Function.update r.underWay name (some (next (r.answer answers request))) }

def Reconciles.run (r : Reconciles) (events : List ReconcileEvent) : Reconciles :=
  events.foldl Reconciles.step r

def Reconciles.initial (limit : Nat) : Reconciles := { runs := newFlowRuns limit }

def storedAs (status kept : ShutdownFlowStatus) : Prop :=
  kept = { status with lastPublishTime := kept.lastPublishTime }

instance (status kept : ShutdownFlowStatus) : Decidable (storedAs status kept) :=
  inferInstanceAs (Decidable (_ = _))

inductive Knowledge where
  | nothing
  /-- The run has ended with this status. -/
  | ended (status : ShutdownFlowStatus)
  /-- The run has ended and its last status is stored. -/
  | stored

def Knowledge.after (known : Knowledge) : Exchange PublishReply → Knowledge
  | ⟨.snapshot _, found⟩ =>
    match found with
    | some run => if run.done then .ended run.flow.status else .nothing
    | none => .nothing
  | ⟨.cancel _, _⟩ => .nothing
  | ⟨.acknowledge _, _⟩ => .nothing
  | ⟨.patch flow, error⟩ =>
    match known with
    | .ended status =>
      if error = none ∧ storedAs status flow.status then .stored else .ended status
    | other => other
  | _ => known

def publishMonitor (name : String) : Monitor PublishReply Knowledge where
  advance := Knowledge.after
  allowed known
    | ⟨.snapshot other, _⟩ => other = name
    | ⟨.cancel other, _⟩ => other = name
    | ⟨.acknowledge other, _⟩ => other = name ∧ known = .stored
    | ⟨.patch flow, _⟩ => flow.name = name
    | _ => True

section

variable {name : String} {known : Knowledge} {run : FlowRun} {stale : Bool} {flow : ShutdownFlow}
  (hname : flow.name = name) (hdone : run.done = true → known = .ended flow.status)
include hname hdone

theorem obeys_storeStatus (cadence : Duration) :
    (publishMonitor name).Obeys known (storeStatus run stale flow cadence) := by
  apply Monitor.obeys_request_bind
  intro publishedAt _
  refine ⟨trivial, Monitor.obeys_request_bind ?_⟩
  intro err _
  refine ⟨hname, ?_⟩
  cases err with
  | some err => trivial
  | none =>
    cases hended : run.done with
    | false => trivial
    | true =>
      obtain rfl := hdone hended
      apply Monitor.obeys_request_bind
      intro _ _
      exact ⟨⟨hname, by simp [publishMonitor, Knowledge.after, storedAs]⟩, trivial⟩

theorem obeys_publishStatus : (publishMonitor name).Obeys known (publishStatus run stale flow) := by
  rw [publishStatus]
  split
  · apply Monitor.obeys_request_bind
    intro cadence _
    exact ⟨trivial, obeys_storeStatus hname hdone cadence⟩
  · exact obeys_storeStatus hname hdone run.cadence

end

theorem obeys_publishOwnedRun (flow : ShutdownFlow) :
    (publishMonitor flow.name).Obeys .nothing (publishOwnedRun flow) := by
  apply Monitor.obeys_request_bind
  intro found _
  refine ⟨rfl, ?_⟩
  cases found with
  | none => trivial
  | some run =>
    dsimp only
    split
    · apply Monitor.obeys_request_bind
      intro _ _
      refine ⟨rfl, ?_⟩
      split
      · trivial
      · rename_i hopen
        refine obeys_publishStatus ?_ fun hdone => absurd hdone hopen
        rfl
    · refine obeys_publishStatus ?_ ?_
      · rfl
      · intro hdone
        simp [publishMonitor, Knowledge.after, hdone]

def FlowRuns.Ended (s : FlowRuns) (name : String) (run : FlowRun) : Prop :=
  ∃ number, s.runs.lookup name = some number ∧ s.cells[number]? = some run ∧ run.done = true

def Reconciles.Stored (r : Reconciles) (run : FlowRun) : Prop :=
  ∃ status, (run.flow.name, status) ∈ r.stored ∧ storedAs run.flow.status status

def Knowledge.Holds (r : Reconciles) (name : String) : Knowledge → Prop
  | .nothing => True
  | .ended status => ∃ run, r.runs.Ended name run ∧ run.flow.status = status
  | .stored => ∃ run, r.runs.Ended name run ∧ r.Stored run

theorem FlowRuns.Ended.step {s : FlowRuns} {name : String} {run : FlowRun} {event : RunsEvent}
    (h : s.Ended name run) (hsound : s.Sound) (hcancelled : event ≠ .cancel name)
    (hacknowledged : event ≠ .acknowledge name) : (s.step event).Ended name run := by
  obtain ⟨num, hl, hcell, hdone⟩ := h
  obtain ⟨found, hf, rfl⟩ := hsound.named name num hl
  cases hcell.symm.trans hf
  refine ⟨num, ?_, ?_, hdone⟩
  · rcases (hsound.moves event).lookup_runs hl hcell with hkept | hgone
    · exact hkept
    · cases hgone with
      | acknowledged => exact absurd rfl hacknowledged
      | cancelled => exact absurd rfl hcancelled
      | discarded status hopen => cases hdone.symm.trans hopen
  · obtain ⟨later, hlater, he⟩ := exists_evolves hsound event hcell
    cases he with
    | same => exact hlater
    | publish status hopen => cases hdone.symm.trans hopen
    | complete status hopen => cases hdone.symm.trans hopen
    | cancel => exact absurd rfl hcancelled

def FlowRuns.Kept (s : FlowRuns) (stored : FlowRun → Prop) : Prop :=
  ∀ number run, s.cells[number]? = some run → run.done = true →
    s.runs.lookup run.flow.name = some number ∨ run.discard = true ∨ stored run

theorem getElem?_cells_cancel {s : FlowRuns} {name : String} {num : Nat} {run : FlowRun}
    (hlookup : s.runs.lookup name = some num) (hcell : s.cells[num]? = some run) :
    (s.cancel name).cells[num]? = some { run with discard := true } := by
  simp only [FlowRuns.cancel, hlookup, hcell]
  exact getElem?_set_same hcell _

/-- Only an acknowledgement lets go of a run that nobody discarded. -/
theorem FlowRuns.Kept.step {s : FlowRuns} {stored : FlowRun → Prop} (h : s.Kept stored)
    (hsound : s.Sound) (event : RunsEvent)
    (hacknowledged : ∀ run, event = .acknowledge run.flow.name → s.Ended run.flow.name run →
      stored run) : (s.step event).Kept stored := by
  intro num later hcell hdone
  rcases (hsound.moves event).of_getElem?_cells hcell with ⟨-, -, hf⟩ | ⟨run, hrun, he⟩
  · cases hdone.symm.trans hf
  · cases he with
    | same =>
      rcases h num later hrun hdone with howned | hgone
      · rcases (hsound.moves event).lookup_runs howned hrun with hkept | hgone
        · exact .inl hkept
        · cases hgone with
          | acknowledged => exact .inr (.inr (hacknowledged later rfl ⟨num, howned, hrun, hdone⟩))
          | cancelled =>
            have hm := getElem?_cells_cancel howned hrun
            rw [show (s.cancel later.flow.name).cells[num]? = _ from hcell] at hm
            have hdiscarded := congrArg FlowRun.discard (Option.some.inj hm)
            exact .inr (.inl hdiscarded)
          | discarded status hopen => cases hdone.symm.trans hopen
      · exact .inr hgone
    | publish status hopen => cases hdone.symm.trans hopen
    | complete status hopen =>
      have howned := hsound.working num run (worker_eq_some.mpr ⟨hrun, hopen⟩)
      rcases (hsound.moves (.complete num status)).lookup_runs howned hrun with hkept | hgone
      · exact .inl hkept
      · cases hgone with
        | discarded _ _ hdiscarded => exact .inr (.inl hdiscarded)
    | cancel => exact .inr (.inl rfl)

structure Reconciles.Faithful (r : Reconciles) : Prop where
  sound : r.runs.Sound
  careful : ∀ name program, r.underWay name = some program →
    ∃ known : Knowledge, (publishMonitor name).Obeys known program ∧ known.Holds r name
  kept : r.runs.Kept r.Stored

theorem Reconciles.Stored.mono {r later : Reconciles} {run : FlowRun} (h : r.Stored run)
    (hstored : r.stored ⊆ later.stored) : later.Stored run := by
  obtain ⟨status, hmem, hsame⟩ := h
  exact ⟨status, hstored hmem, hsame⟩

theorem Knowledge.Holds.mono {r later : Reconciles} {name : String} {known : Knowledge}
    (h : known.Holds r name) (hended : ∀ run, r.runs.Ended name run → later.runs.Ended name run)
    (hstored : r.stored ⊆ later.stored) : known.Holds later name := by
  cases known with
  | nothing => trivial
  | ended status =>
    obtain ⟨run, hrun, hs⟩ := h
    exact ⟨run, hended run hrun, hs⟩
  | stored =>
    obtain ⟨run, hrun, hmem⟩ := h
    exact ⟨run, hended run hrun, hmem.mono hstored⟩

section

variable {r : Reconciles} {name : String} {known : Knowledge} {answers : Answers}
  {request : PublishRequest}

theorem stored_perform (r : Reconciles) (answers : Answers) (request : PublishRequest) :
    r.stored ⊆ (r.perform answers request).stored := by
  cases request with
  | patch flow =>
    rw [Reconciles.perform]
    split
    · exact List.subset_cons_self _ _
    · exact List.Subset.refl _
  | _ => exact List.Subset.refl _

theorem ended_perform (h : r.Faithful)
    (hallowed : (publishMonitor name).allowed known ⟨request, r.answer answers request⟩)
    {other : String} (hne : other ≠ name) {run : FlowRun} (hended : r.runs.Ended other run) :
    (r.perform answers request).runs.Ended other run := by
  cases request with
  | cancel asked =>
    obtain rfl : asked = name := hallowed
    apply hended.step h.sound
    · rintro ⟨⟩
      exact hne rfl
    · nofun
  | acknowledge asked =>
    obtain rfl : asked = name := hallowed.1
    apply hended.step h.sound
    · nofun
    · rintro ⟨⟩
      exact hne rfl
  | patch flow =>
    rw [Reconciles.perform]
    split <;> exact hended
  | _ => exact hended

theorem holds_perform (h : r.Faithful) (hholds : known.Holds r name)
    (hallowed : (publishMonitor name).allowed known ⟨request, r.answer answers request⟩) :
    ((publishMonitor name).advance known ⟨request, r.answer answers request⟩).Holds
      (r.perform answers request) name := by
  cases request with
  | snapshot asked =>
    obtain rfl : asked = name := hallowed
    cases ho : r.runs.owned asked with
    | none => simp [publishMonitor, Knowledge.after, Reconciles.answer, FlowRuns.snapshot, ho,
        Knowledge.Holds]
    | some run =>
      obtain ⟨num, hlookup, hcell⟩ := Option.bind_eq_some_iff.mp ho
      cases hdone : run.done with
      | false => simp [publishMonitor, Knowledge.after, Reconciles.answer, FlowRuns.snapshot, ho,
          hdone, Knowledge.Holds]
      | true =>
        simp only [publishMonitor, Knowledge.after, Reconciles.answer, FlowRuns.snapshot, ho,
          hdone, Option.map_some, if_true, Knowledge.Holds]
        exact ⟨run, ⟨num, hlookup, hcell, hdone⟩, rfl⟩
  | patch flow =>
    obtain rfl : flow.name = name := hallowed
    have hkept : known.Holds (r.perform answers (.patch flow)) flow.name := by
      refine hholds.mono ?_ (stored_perform r answers _)
      intro run hended
      rw [Reconciles.perform]
      split <;> exact hended
    cases known with
    | ended status =>
      simp only [publishMonitor, Knowledge.after, Reconciles.answer]
      split
      · rename_i hw
        obtain ⟨run, hended, rfl⟩ := hkept
        refine ⟨run, hended, flow.status, ?_, hw.2⟩
        obtain ⟨num, hlookup, hcell, -⟩ := hended
        rw [Reconciles.perform, if_pos hw.1] at hlookup hcell ⊢
        obtain ⟨found, hf, hname⟩ := h.sound.named flow.name num hlookup
        cases hcell.symm.trans hf
        rw [hname]
        exact List.mem_cons_self
      · exact hkept
    | _ => exact hkept
  | cadence flow => exact hholds
  | now => exact hholds
  | _ => trivial

theorem sound_perform (h : r.Faithful) (request : PublishRequest) :
    (r.perform answers request).runs.Sound := by
  cases request with
  | cancel asked => exact h.sound.step (.cancel asked)
  | acknowledge asked => exact h.sound.step (.acknowledge asked)
  | patch flow =>
    rw [Reconciles.perform]
    split <;> exact h.sound
  | _ => exact h.sound

theorem kept_perform (h : r.Faithful) (hholds : known.Holds r name)
    (hallowed : (publishMonitor name).allowed known ⟨request, r.answer answers request⟩) :
    (r.perform answers request).runs.Kept (r.perform answers request).Stored := by
  cases request with
  | cancel asked =>
    apply h.kept.step h.sound (.cancel asked)
    rintro run ⟨⟩
  | acknowledge asked =>
    obtain ⟨rfl, rfl⟩ := hallowed
    apply h.kept.step h.sound (.acknowledge asked)
    rintro run ⟨⟩ ⟨num, hl, hcell, -⟩
    obtain ⟨stored, ⟨owned, ho, hf, -⟩, hs⟩ := hholds
    cases hl.symm.trans ho
    cases hcell.symm.trans hf
    exact hs
  | patch flow =>
    have hmono : ∀ run, r.Stored run → (r.perform answers (.patch flow)).Stored run :=
      fun run hrun => hrun.mono (stored_perform r answers _)
    intro num run hcell hdone
    have hruns : (r.perform answers (.patch flow)).runs = r.runs := by
      rw [Reconciles.perform]
      split <;> rfl
    rw [hruns] at hcell ⊢
    exact (h.kept num run hcell hdone).imp_right (Or.imp_right (hmono run))
  | _ => exact h.kept

end

theorem faithful_initial (limit : Nat) : (Reconciles.initial limit).Faithful where
  sound := sound_newFlowRuns limit
  careful := nofun
  kept := by
    intro num run hcell
    cases hcell

theorem forall_underWay_update
    {underWay : String → Option (Publish (Option (Except String Duration)))}
    {name : String} {replaced : Option (Publish (Option (Except String Duration)))}
    {prop : String → Publish (Option (Except String Duration)) → Prop}
    (hself : ∀ program, replaced = some program → prop name program)
    (hothers : ∀ other program, other ≠ name → underWay other = some program →
      prop other program) (other : String) (program : Publish (Option (Except String Duration)))
    (h : Function.update underWay name replaced other = some program) : prop other program := by
  by_cases hsame : other = name
  · subst hsame
    rw [Function.update_self] at h
    exact hself program h
  · rw [Function.update_of_ne hsame] at h
    exact hothers other program hsame h

theorem Reconciles.Faithful.step {r : Reconciles} (h : r.Faithful) (event : ReconcileEvent) :
    (r.step event).Faithful := by
  cases event with
  | other event =>
    rw [Reconciles.step]
    split
    · rename_i hadmitted
      refine ⟨h.sound.step event, ?_, ?_⟩
      · intro name program hunderWay
        obtain ⟨known, hobeys, hholds⟩ := h.careful name program hunderWay
        refine ⟨known, hobeys, hholds.mono ?_ (List.Subset.refl _)⟩
        intro run hended
        apply hended.step h.sound
        · rintro rfl
          have hfree : (r.underWay name).isNone = true := hadmitted
          rw [hunderWay] at hfree
          cases hfree
        · rintro rfl
          cases hadmitted
      · apply h.kept.step h.sound
        rintro run rfl
        cases hadmitted
    · exact h
  | «begin» flow =>
    rw [Reconciles.step]
    split
    · exact h
    · refine ⟨h.sound, forall_underWay_update ?_ ?_, h.kept⟩
      · rintro program ⟨⟩
        exact ⟨.nothing, obeys_publishOwnedRun flow, trivial⟩
      · exact fun other program _ => h.careful other program
  | advance name answers =>
    rw [Reconciles.step]
    split
    · exact h
    · exact ⟨h.sound, forall_underWay_update nofun fun other program _ =>
        h.careful other program, h.kept⟩
    · rename_i request next ha
      obtain ⟨known, hobeys, hholds⟩ := h.careful name _ ha
      obtain ⟨hallowed, hnext⟩ := hobeys (r.answer answers request) trivial
      refine ⟨sound_perform h request, forall_underWay_update ?_ ?_, kept_perform h hholds hallowed⟩
      · rintro program ⟨⟩
        exact ⟨_, hnext, holds_perform h hholds hallowed⟩
      · intro other program hsame hunderWay
        obtain ⟨told, ho, htold⟩ := h.careful other program hunderWay
        exact ⟨told, ho, htold.mono (fun run => ended_perform h hallowed hsame)
          (stored_perform r answers request)⟩

theorem Reconciles.Faithful.run {r : Reconciles} (h : r.Faithful) (events : List ReconcileEvent) :
    (r.run events).Faithful := by
  induction events generalizing r with
  | nil => exact h
  | cons event rest ih => exact ih (h.step event)

theorem exists_run_runs (limit : Nat) (events : List ReconcileEvent) :
    ∃ past, ((Reconciles.initial limit).run events).runs = (newFlowRuns limit).run past := by
  induction events using List.reverseRecOn with
  | nil => exact ⟨[], rfl⟩
  | append_singleton before event ih =>
    obtain ⟨past, hpast⟩ := ih
    have hmore : ∀ next, ∃ past,
        ((Reconciles.initial limit).run before).runs.step next = (newFlowRuns limit).run past := by
      intro next
      refine ⟨past ++ [next], ?_⟩
      rw [hpast, FlowRuns.run, FlowRuns.run, List.foldl_append]
      rfl
    rw [Reconciles.run, List.foldl_append]
    change ∃ past, (((Reconciles.initial limit).run before).step event).runs = _
    cases event with
    | other event =>
      rw [Reconciles.step]
      split
      · exact hmore event
      · exact ⟨past, hpast⟩
    | «begin» flow =>
      rw [Reconciles.step]
      split <;> exact ⟨past, hpast⟩
    | advance name answers =>
      rw [Reconciles.step]
      split
      · exact ⟨past, hpast⟩
      · exact ⟨past, hpast⟩
      · rename_i request next ha
        cases request with
        | cancel asked => exact hmore (.cancel asked)
        | acknowledge asked => exact hmore (.acknowledge asked)
        | patch flow =>
          dsimp only [Reconciles.perform]
          split <;> exact ⟨past, hpast⟩
        | _ => exact ⟨past, hpast⟩

def FlowRuns.Live (s : FlowRuns) (number : Nat) (run : FlowRun) : Prop :=
  s.cells[number]? = some run ∧ (s.runs.lookup run.flow.name = some number ∨ run.done = false)

structure FlowRuns.Orderly (limit : Nat) (past : List RunsEvent) (s : FlowRuns) : Prop where
  bounded : s.runs.keys.length ≤ limit
  single : ∀ first second run other, s.Live first run → s.Live second other →
    run.flow.name = other.flow.name → first = second
  /-- No run is added for a name that a worker still works for. -/
  refused : ∀ number run, s.worker number = some run → ∀ flow cadence,
    flow.name = run.flow.name → s.submit flow cadence = (s, false)
  /-- The run of a worker that returns stays, unless it is to be discarded. -/
  completed : ∀ number run status, s.worker number = some run → run.discard = false →
    (s.complete number status).owned run.flow.name =
      some { run with flow.status := status, done := true }
  kept : ∀ event name number run, s.runs.lookup name = some number → s.cells[number]? = some run →
    (s.step event).runs.lookup name = some number ∨ run.GivenUp number event
  discarded : ∀ (number : Nat) (run : FlowRun), s.cells[number]? = some run → run.discard = true →
    RunsEvent.cancel run.flow.name ∈ past
  /-- A worker that is refused a key changes nothing. -/
  unclaimed : ∀ number run keys message, s.worker number = some run →
    s.claim run.flow.name keys = .error message → s.step (.claim number keys) = s
  claimed : ∀ number run keys later, s.worker number = some run →
    s.claim run.flow.name keys = .ok later → s.step (.claim number keys) = later ∧
      ∀ key ∈ keys, later.claims.lookup key = some run.flow.name
  /-- Claims stay until the worker of their owner returns. -/
  held : ∀ event key owner, s.claims.lookup key = some owner →
    (s.step event).claims.lookup key = some owner ∨
      ∃ number run status, event = .complete number status ∧ s.worker number = some run ∧
        run.flow.name = owner
  released : ∀ number run status, s.worker number = some run → ∀ key,
    (s.complete number status).claims.lookup key ≠ some run.flow.name
  /-- No claim is left without a worker. -/
  working : ∀ key owner, s.claims.lookup key = some owner →
    ∃ number run, s.worker number = some run ∧ run.flow.name = owner

theorem FlowRuns.Sound.live {s : FlowRuns} (h : s.Sound) {number : Nat} {run : FlowRun}
    (hlive : s.Live number run) : s.runs.lookup run.flow.name = some number := by
  obtain ⟨hcell, ho | hopen⟩ := hlive
  · exact ho
  · exact h.working number run (worker_eq_some.mpr ⟨hcell, hopen⟩)

theorem orderly_run (limit : Nat) (events : List RunsEvent) :
    ((newFlowRuns limit).run events).Orderly limit events := by
  have hsound := sound_run limit events
  refine
    { bounded := ?_
      single := ?_
      refused := fun num run => submit_of_worker hsound
      completed := fun num run status hworker hd =>
        owned_complete hsound hworker hd status
      kept := fun event name num run => (hsound.moves event).lookup_runs
      discarded := fun num run => cancel_mem_of_discard
      unclaimed := ?_
      claimed := ?_
      held := fun event key owner => (hsound.moves event).lookup_claims
      released := fun num run status hworker => lookup_claims_complete hworker status
      working := hsound.held }
  · exact hsound.bounded.trans_eq (limit_run _ events)
  · intro first second run other hf hs hname
    have ho := hsound.live hf
    rw [hname, hsound.live hs] at ho
    exact (Option.some.inj ho).symm
  · intro num run keys msg hworker hc
    rw [FlowRuns.step, FlowRuns.claimFor, hworker]
    dsimp only
    rw [hc]
  · intro num run keys later hworker hc
    refine ⟨claimFor_eq_of_ok hworker hc, ?_⟩
    obtain ⟨claims, hclaim, rfl⟩ := claim_eq_ok.mp hc
    exact fun key => Claims.lookup_of_claimed hclaim

/-- Whatever the order of events, the runs are orderly; and whatever passes do in
between, the last status of a run that nobody discarded is stored before the run is
given up. -/
theorem runs_stay_owned (limit : Nat) :
    (∀ events, ((newFlowRuns limit).run events).Orderly limit events) ∧
      ∀ events : List ReconcileEvent,
        (∃ past, ((Reconciles.initial limit).run events).runs = (newFlowRuns limit).run past) ∧
        ∀ (number : Nat) (run : FlowRun),
          ((Reconciles.initial limit).run events).runs.cells[number]? = some run →
          run.done = true →
          ((Reconciles.initial limit).run events).runs.runs.lookup run.flow.name = some number ∨
            run.discard = true ∨ ((Reconciles.initial limit).run events).Stored run := by
  refine ⟨orderly_run limit, ?_⟩
  intro events
  exact ⟨exists_run_runs limit events, ((faithful_initial limit).run events).kept⟩

end NutOperator.Controller
