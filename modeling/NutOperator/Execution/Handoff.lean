import NutOperator.Execution.Folding
import NutOperator.Execution.Sequential

/-! Evidence of a handoff. A party's ghost state holds what was read again for the
group it runs and what the runner was called with; a handoff with effect and a
record of a released node are checked against it. -/
namespace NutOperator.Execution

open Effects List

/-- What a group's attempt has asked: the releases read again, each with the one
it was asked for, and the call of the runner with its outcome. -/
structure Attempted where
  reads : List (NodeRelease × NodeRelease) := []
  call : Option (Action × ActionOutcome) := none

structure HandoffState where
  current : Attempted := {}
  recorded : Attempted := {}
  /-- Node, agent and verdict of the release recorded last. -/
  release : Option (String × String × Bool) := none

def readOf (selected : NodeRelease) : Except String NodeRelease → List (NodeRelease × NodeRelease)
  | .ok read => [(selected, read)]
  | .error _ => []

def handoffAdvance (state : HandoffState) : Exchange Reply → HandoffState
  | ⟨.refreshNodeRelease _ selected, (reply : Except String NodeRelease)⟩ =>
    { state with current := { state.current with
        reads := state.current.reads ++ readOf selected reply } }
  | ⟨.runAction _ action, (reply : ActionOutcome × Option String)⟩ =>
    { state with current := { state.current with call := some (action, reply.1) } }
  | ⟨.record _ (.group _), _⟩ => { state with current := {}, recorded := state.current }
  | ⟨.record _ (.nodeRelease entry), _⟩ =>
    { state with release := some (entry.nodeName, entry.nodePowerAgent, entry.released) }
  | _ => state

/-- The release handed to the runner: the role in the handoff and the quorum stay
as selected, everything else is as read. -/
def handedRelease (read : NodeRelease × NodeRelease) : NodeRelease :=
  { read.2 with
    terminalHandoff := read.1.terminalHandoff, controlPlaneNodes := read.1.controlPlaneNodes
    quorumMembers := read.1.quorumMembers }

structure Reread (selected : List NodeRelease) (reads : List (NodeRelease × NodeRelease))
    (releases : List NodeRelease) : Prop where
  asked : reads.map Prod.fst = selected
  same : ∀ read ∈ reads, sameReleaseIdentity read.2 read.1 = true
  handed : releases = reads.map handedRelease

def Evidenced (input : Input) (reads : List (NodeRelease × NodeRelease)) (group : Group) : Prop :=
  (∃ declared ∈ input.groups, declared.name = group.name ∧ ∃ terminal,
    Reread (declared.nodeReleases.map fun release => { release with terminalHandoff := terminal })
      reads group.nodeReleases) ∧
    ∀ read ∈ reads, read.2.agentReady = true ∧ read.2.telemetryFresh = true ∧ read.2.cleared = true

def PublishedFor (release : NodeRelease) (outcome : ActionOutcome) : Prop :=
  ∃ result ∈ outcome.signalResults, result.nodeName = release.nodeName ∧
    result.nodePowerAgent = release.nodePowerAgent ∧
    result.signalSecretNamespace = release.signalSecretNamespace ∧
    result.signalSecretName = release.signalSecretName ∧
    result.signalSecretKey = release.signalSecretKey ∧ result.published = true

def Released (input : Input) (attempted : Attempted) (nodeName nodePowerAgent : String) : Prop :=
  ∃ action outcome, attempted.call = some (action, outcome) ∧ action.dryRun = false ∧
    Evidenced input attempted.reads action.group ∧
    ∃ read ∈ attempted.reads, read.2.nodeName = nodeName ∧
      read.2.nodePowerAgent = nodePowerAgent ∧ PublishedFor read.2 outcome

def handoffAllowed (input : Input) (state : HandoffState) : Exchange Reply → Prop
  | ⟨.runAction _ action, _⟩ => action.dryRun = false → action.group.action = actionAgentShutdown →
        Evidenced input state.current.reads action.group
  | ⟨.record _ (.nodeRelease entry), _⟩ => entry.released = true →
      Released input state.recorded entry.nodeName entry.nodePowerAgent
  | ⟨.record _ (.nodeSignalHandoff entry), _⟩ => (entry.accepted = true →
      Released input state.recorded entry.nodeName entry.nodePowerAgent) ∧
        state.release = some (entry.nodeName, entry.nodePowerAgent, entry.accepted)
  | _ => True

def handoff (input : Input) : Monitor Reply HandoffState where
  advance := handoffAdvance
  allowed := handoffAllowed input

def Fresh (state : HandoffState) : Prop := state.current = {}

section

variable {input : Input} {reads : List (NodeRelease × NodeRelease)}

def Reading (reads : List (NodeRelease × NodeRelease)) (state : HandoffState) : Prop :=
  state.current = { reads := reads }

def Unrelated : Request → Prop
  | .refreshNodeRelease _ _ => False
  | .runAction _ _ => False
  | .record _ (.group _) => False
  | .record _ (.nodeRelease _) => False
  | .record _ (.nodeSignalHandoff _) => False
  | _ => True

theorem keeps_unrelated (pre : HandoffState → Prop) (request : Request) (h : Unrelated request) :
    (handoff input).Keeps pre request := by
  intro state reply hpre _
  cases request with
  | refreshNodeRelease context selected => exact h.elim
  | runAction context action => exact h.elim
  | record context entry =>
    cases entry with
    | group entry => exact h.elim
    | nodeRelease entry => exact h.elim
    | nodeSignalHandoff entry => exact h.elim
    | _ => exact ⟨trivial, hpre⟩
  | _ => exact ⟨trivial, hpre⟩

theorem triple_unrelated {request : Request} (pre : HandoffState → Prop) (h : Unrelated request) :
    Triple (handoff input) pre (ask request) fun _ => pre :=
  triple_request fun state reply hs ha =>
    keeps_unrelated pre request h state reply hs ha

theorem reread_nil : Reread [] [] [] := ⟨rfl, by simp, rfl⟩

theorem Reread.cons {selected releases : List NodeRelease} (h : Reread selected reads releases)
    (read : NodeRelease × NodeRelease) (hsame : sameReleaseIdentity read.2 read.1 = true) :
    Reread (read.1 :: selected) (read :: reads) (handedRelease read :: releases) where
  asked := by rw [map_cons, h.asked]
  same := forall_mem_cons.mpr ⟨hsame, h.same⟩
  handed := by rw [map_cons, ← h.handed]

/-- The reads so far, and what a successful refresh made of them. -/
def Refreshing (reads : List (NodeRelease × NodeRelease)) (selected : List NodeRelease)
    (result : Except String (List NodeRelease)) (state : HandoffState) : Prop :=
  ∃ more, Reading (reads ++ more) state ∧
    ∀ refreshed, result = .ok refreshed → Reread selected more refreshed

theorem triple_refreshReleases (context : Context) (selected : List NodeRelease) :
    Triple (handoff input) (Reading reads) (refreshReleases context selected)
      (Refreshing reads selected) := by
  induction selected generalizing reads with
  | nil =>
    apply triple_pure
    intro state hstate
    refine ⟨[], by rwa [append_nil], ?_⟩
    rintro refreshed ⟨⟩
    exact reread_nil
  | cons first rest ih =>
    have hcheck : Triple (handoff input) (Reading reads) (contextErr context)
        fun _ => Reading reads := triple_unrelated _ trivial
    have hread : Triple (handoff input) (Reading reads)
        (ask (.refreshNodeRelease context first)) fun reply =>
          Reading (reads ++ readOf first reply) := by
      apply triple_request
      intro state reply hstate _
      refine ⟨trivial, ?_⟩
      unfold Reading at hstate ⊢
      simp [handoff, handoffAdvance, hstate]
    have hstop : ∀ more error, Triple (handoff input) (Reading (reads ++ more))
        (pure (.error error)) (Refreshing reads (first :: rest)) :=
      fun more error => triple_pure fun state hstate => ⟨more, hstate, nofun⟩
    unfold refreshReleases
    refine hcheck.bind fun error => ?_
    cases error with
    | some error => exact (hstop [] _).of_pre fun state h => by rwa [append_nil]
    | none =>
      refine hread.bind fun reply => ?_
      cases reply with
      | error error => exact hstop _ _
      | ok read =>
        dsimp only
        split
        · rename_i hsame
          refine ih.bind fun result => ?_
          cases result with
          | error error =>
            apply triple_pure
            rintro state ⟨more, hstate, _⟩
            exact ⟨(first, read) :: more, by simpa [readOf] using hstate, nofun⟩
          | ok releases =>
            apply triple_pure
            rintro state ⟨more, hstate, hrest⟩
            refine ⟨(first, read) :: more, by simpa [readOf] using hstate, ?_⟩
            rintro refreshed ⟨⟩
            exact (hrest releases rfl).cons (first, read) hsame
        · exact hstop _ _

/-- Between the stages of an attempt: the runner was not called, and a handoff
that may go on has been read again. -/
structure Staged (dryRun : Bool) (group : Group) (attempt : GroupAttempt)
    (state : HandoffState) : Prop where
  keeps : Keeps group attempt.group
  uncalled : state.current.call = none
  unsignalled : attempt.outcome.signalResults = []
  evidence : group.action = actionAgentShutdown → dryRun = false → attempt.actionErr = none →
    Reread group.nodeReleases state.current.reads attempt.group.nodeReleases ∧
      ∀ release ∈ attempt.group.nodeReleases, clearedForRelease release = true

theorem joinErrors_eq_none {first second : Option String} :
    joinErrors first second = none ↔ first = none ∧ second = none := by
  cases first <;> cases second <;> simp [joinErrors]

theorem clearedForRelease_of_reason {release : NodeRelease} (h : withholdingReason release = none) :
    clearedForRelease release = true := by
  unfold withholdingReason at h
  unfold clearedForRelease
  split at h
  · cases h
  · split at h
    · cases h
    · split at h
      · cases h
      · simp_all

theorem ready_of_readinessError {group : Group}
    (h : agentShutdownReadinessError false group = none) :
    ∀ release ∈ group.nodeReleases, clearedForRelease release = true := by
  have hfold : ∀ (releases : List NodeRelease) (err : Option String),
      releases.foldl (fun err release =>
        joinErrors err ((withholdingReason release).map fun reason =>
          s!"node {Planner.quote release.nodeName} is not ready for AgentShutdown: {reason}"))
        err = none →
      err = none ∧ ∀ release ∈ releases, withholdingReason release = none := by
    intro releases
    induction releases with
    | nil => exact fun err h => ⟨h, by simp⟩
    | cons release rest ih =>
      intro err h
      obtain ⟨hj, hrest⟩ := ih _ h
      obtain ⟨herr, hr⟩ := joinErrors_eq_none.mp hj
      exact ⟨herr, forall_mem_cons.mpr ⟨by simpa using hr, hrest⟩⟩
  exact fun release hmem => clearedForRelease_of_reason ((hfold _ _ h).2 release hmem)

section

variable {dryRun : Bool} {group : Group} {attempt : GroupAttempt}

theorem Staged.block {state : HandoffState} (h : Staged dryRun group attempt state)
    (err : String) : Staged dryRun group (attempt.block err) state :=
  ⟨h.keeps, h.uncalled, rfl, fun _ _ hnone => absurd hnone (by simp [GroupAttempt.block])⟩

def GroupReread (group : Group) (result : Group × Option String) (state : HandoffState) : Prop :=
  Keeps group result.1 ∧ state.current.call = none ∧
    (result.2 = none → Reread group.nodeReleases state.current.reads result.1.nodeReleases)

variable {executor : Executor} {attempted : Attempted}

theorem triple_refreshReleaseEvidence (hrefresh : executor.refreshNodeRelease = true)
    (context : Context) (group : Group) :
    Triple (handoff input) Fresh (executor.refreshReleaseEvidence context group)
      (GroupReread group) := by
  have hread : Triple (handoff input) Fresh (refreshReleases context group.nodeReleases)
      (Refreshing [] group.nodeReleases) := triple_refreshReleases context group.nodeReleases
  unfold Executor.refreshReleaseEvidence
  rw [if_pos hrefresh]
  refine hread.bind fun result => ?_
  cases result with
  | error error =>
    apply triple_pure
    rintro state ⟨more, hs, _⟩
    exact ⟨⟨rfl, rfl⟩, by rw [hs], nofun⟩
  | ok releases =>
    apply triple_pure
    rintro state ⟨more, hs, hr⟩
    refine ⟨⟨rfl, rfl⟩, by rw [hs], fun _ => ?_⟩
    rw [hs]
    exact hr releases rfl

theorem triple_confirmReleases (hrefresh : executor.refreshNodeRelease = true) (context : Context)
    (dryRun : Bool) (group : Group) :
    Triple (handoff input) Fresh (executor.confirmReleases context dryRun group)
      (Staged dryRun group) := by
  unfold Executor.confirmReleases
  split
  · refine (triple_refreshReleaseEvidence hrefresh context group).bind ?_
    rintro ⟨refreshed, refreshErr⟩
    have hblocked : ∀ state, GroupReread group (refreshed, refreshErr) state →
        ∀ outcome : ActionOutcome, outcome.signalResults = [] → ∀ err : String,
          Staged dryRun group { group := refreshed, outcome := outcome, actionErr := some err }
            state :=
      fun state hstate outcome hs err => ⟨hstate.1, hstate.2.1, hs, nofun⟩
    dsimp only
    cases refreshErr with
    | some err => exact triple_pure fun state hstate => hblocked state hstate _ rfl err
    | none =>
      dsimp only
      split
      · exact triple_pure fun state hstate => hblocked state hstate _ rfl _
      · rename_i hr
        apply triple_pure
        rintro state ⟨hk, hc, hreread⟩
        refine ⟨hk, hc, rfl, fun _ hdry _ => ⟨hreread rfl, ?_⟩⟩
        subst hdry
        exact ready_of_readinessError hr
  · rename_i ha
    apply triple_pure
    intro state hstate
    exact ⟨⟨rfl, rfl⟩, by rw [hstate], rfl, fun h => absurd h ha⟩

theorem triple_holdWait (context : Context) (wait : Data.Duration) :
    Triple (handoff input) (Staged dryRun group attempt) (holdWait context dryRun wait attempt)
      (Staged dryRun group) := by
  unfold holdWait
  split
  · rename_i hw
    refine Triple.bind (triple_unrelated _ trivial) fun reply => ?_
    cases reply with
    | some err => exact triple_pure fun state hs => hs.block _
    | none =>
      apply triple_pure
      intro state hs
      refine ⟨hs.keeps, hs.uncalled, rfl, fun ha => ?_⟩
      -- A wait is no handoff.
      rw [← hs.keeps.2, hw.1] at ha
      exact absurd ha (by decide)
  · exact triple_pure fun _ h => h

theorem triple_checkContext (context : Context) :
    Triple (handoff input) (Staged dryRun group attempt) (checkContext context attempt)
      (Staged dryRun group) := by
  unfold checkContext
  split
  · refine Triple.bind (triple_unrelated _ trivial) fun reply => ?_
    cases reply with
    | some err => exact triple_pure fun state hs => hs.block _
    | none => exact triple_pure fun _ h => h
  · exact triple_pure fun _ h => h

def Declared (input : Input) (group : Group) : Prop :=
  group.action = actionAgentShutdown → ∃ declared ∈ input.groups, declared.name = group.name ∧
    ∃ terminal, group.nodeReleases =
      declared.nodeReleases.map fun release => { release with terminalHandoff := terminal }

/-- After the runner had its chance: signals come from a call that was evidenced. -/
structure Concluded (input : Input) (dryRun : Bool) (group : Group) (attempt : GroupAttempt)
    (attempted : Attempted) : Prop where
  keeps : Keeps group attempt.group
  signals : group.action = actionAgentShutdown → dryRun = false →
    attempt.outcome.signalResults ≠ [] → ∃ action outcome,
      attempted.call = some (action, outcome) ∧ action.dryRun = false ∧
        attempt.outcome.signalResults = outcome.signalResults ∧
        Evidenced input attempted.reads action.group ∧
        attempt.group.nodeReleases = attempted.reads.map handedRelease

theorem Staged.evidenced {state : HandoffState} (h : Staged dryRun group attempt state)
    (hdeclared : Declared input group) (haction : group.action = actionAgentShutdown)
    (hdry : dryRun = false) (hnone : attempt.actionErr = none) :
    Evidenced input state.current.reads attempt.group := by
  obtain ⟨hr, hready⟩ := h.evidence haction hdry hnone
  obtain ⟨declared, hmem, hname, terminal, hreleases⟩ := hdeclared haction
  refine ⟨⟨declared, hmem, hname.trans h.keeps.1.symm, terminal, hreleases ▸ hr⟩, ?_⟩
  intro read hread
  have hc := hready (handedRelease read) (by
    rw [hr.handed]
    exact mem_map_of_mem hread)
  simpa [clearedForRelease, handedRelease, and_assoc] using hc

theorem Staged.concluded {state : HandoffState} (h : Staged dryRun group attempt state) :
    Concluded input dryRun group attempt state.current :=
  ⟨h.keeps, fun _ _ hs => absurd h.unsignalled hs⟩

theorem triple_dispatchAction (executor : Executor) (config : GroupRunConfig) (context : Context)
    (hdeclared : Declared input group) :
    Triple (handoff input) (Staged config.dryRun group attempt)
      (executor.dispatchAction config context attempt)
      fun dispatched state => Concluded input config.dryRun group dispatched state.current := by
  unfold Executor.dispatchAction
  split
  · rename_i hrun
    split
    · have hcalled : Triple (handoff input) (Staged config.dryRun group attempt)
          (ask (.runAction context (config.actionFor attempt.group))) fun reply state =>
            Concluded input config.dryRun group { attempt with
              outcome := settleOutcome reply.1 reply.2, actionErr := reply.2 } state.current := by
        apply triple_request
        intro state reply hstate _
        constructor
        · intro hdry ha
          exact hstate.evidenced hdeclared (hstate.keeps.2 ▸ ha) hdry hrun.2
        · refine ⟨hstate.keeps, fun ha hdry _ => ?_⟩
          refine ⟨_, reply.1, rfl, hdry, ?_, hstate.evidenced hdeclared ha hdry hrun.2,
            (hstate.evidence ha hdry hrun.2).1.handed⟩
          cases reply.2 <;> rfl
      refine hcalled.bind ?_
      rintro ⟨outcome, actionErr⟩
      exact triple_pure fun _ h => h
    · exact triple_pure fun state hstate => (hstate.block _).concluded
  · exact triple_pure fun state hstate => hstate.concluded

theorem triple_checkTimeout (actionContext context : Context) (effectiveTimeout : Data.Duration)
    (hconcluded : Concluded input dryRun group attempt attempted) :
    Triple (handoff input) (fun state => state.current = attempted)
      (checkTimeout actionContext context effectiveTimeout attempt)
      fun timed state => state.current = attempted ∧
        Concluded input dryRun group timed attempted := by
  have hsame : ∀ state : HandoffState, state.current = attempted →
      state.current = attempted ∧ Concluded input dryRun group attempt attempted :=
    fun state hstate => ⟨hstate, hconcluded⟩
  unfold checkTimeout
  split
  · refine Triple.bind (triple_unrelated _ trivial) fun err => ?_
    cases err with
    | none => exact triple_pure hsame
    | some err =>
      refine Triple.bind (triple_unrelated _ trivial) fun parentErr => ?_
      cases parentErr with
      | some err => exact triple_pure hsame
      | none =>
        exact triple_pure fun state hstate => ⟨hstate, hconcluded.keeps, hconcluded.signals⟩
  · exact triple_pure hsame

theorem triple_attemptGroup (hrefresh : executor.refreshNodeRelease = true)
    (config : GroupRunConfig) (hdeclared : Declared input group) :
    Triple (handoff input) Fresh (executor.attemptGroup config group)
      fun attempt state => Concluded input config.dryRun group attempt state.current := by
  unfold Executor.attemptGroup
  refine (triple_confirmReleases hrefresh _ config.dryRun group).bind fun confirmed => ?_
  refine (triple_holdWait _ _).bind fun held => ?_
  refine (triple_checkContext _).bind fun checked => ?_
  refine (triple_dispatchAction executor config _ hdeclared).bind fun dispatched => ?_
  apply triple_of_forall
  intro known hc
  refine ((triple_checkTimeout _ _ _ hc).of_pre ?_).imp ?_
  · rintro state rfl
    rfl
  · rintro attempt state ⟨hs, hend⟩
    rw [hs]
    exact hend

theorem publishedFor_of_released {release : NodeRelease} {outcome : ActionOutcome}
    {observedAt : Time} (h : (publicationOf release dryRun outcome observedAt).released = true) :
    dryRun = false ∧ PublishedFor release outcome := by
  simp only [publicationOf, Bool.and_eq_true, Bool.not_eq_true'] at h
  refine ⟨h.1.2, ?_⟩
  cases hf : signalResultForRelease outcome.signalResults release with
  | none => simp [hf] at h
  | some result =>
    have hm := List.find?_some hf
    simp only [Bool.and_eq_true, decide_eq_true_iff] at hm
    refine ⟨result, mem_of_find?_eq_some hf, hm.1.1.1.1, hm.1.1.1.2, hm.1.1.2,
      hm.1.2, hm.2, ?_⟩
    simpa [hf] using h.2

theorem Concluded.released {release : NodeRelease} {observedAt : Time}
    (h : Concluded input dryRun group attempt attempted)
    (haction : attempt.group.action = actionAgentShutdown)
    (hmem : release ∈ attempt.group.nodeReleases)
    (hreleased : (publicationOf release dryRun attempt.outcome observedAt).released = true) :
    Released input attempted release.nodeName release.nodePowerAgent := by
  obtain ⟨hdry, result, hr, hp⟩ := publishedFor_of_released hreleased
  obtain ⟨action, out, hc, he, hs, hevidenced, hh⟩ :=
    h.signals (h.keeps.2 ▸ haction) hdry (ne_nil_of_mem hr)
  rw [hh] at hmem
  obtain ⟨read, hread, rfl⟩ := mem_map.mp hmem
  exact ⟨action, out, hc, he, hevidenced, read, hread, rfl, rfl, result, hs ▸ hr, hp⟩

def Recorded (attempted : Attempted) (state : HandoffState) : Prop :=
  state.current = {} ∧ state.recorded = attempted

theorem triple_recordReleases_handoff (context : Context) (config : Input) (executionID : String)
    (observedAt : Time) {releases : List NodeRelease} (hreleased : ∀ release ∈ releases,
      (publicationOf release dryRun attempt.outcome observedAt).released = true →
        Released input attempted release.nodeName release.nodePowerAgent)
    (recordErr : Option String) :
    Triple (handoff input) (Recorded attempted) (recordReleases context config executionID dryRun
      attempt.group attempt.outcome observedAt releases recordErr)
      fun _ => Recorded attempted := by
  induction releases generalizing recordErr with
  | nil => exact triple_skip
  | cons release rest ih =>
    have hrest := ih fun other hmem => hreleased other (mem_cons_of_mem _ hmem)
    unfold recordReleases
    split
    · exact hrest _
    · dsimp only
      generalize hp : publicationOf release dryRun attempt.outcome observedAt = publication
      have hallowed := hreleased release mem_cons_self
      rw [hp] at hallowed
      refine Triple.bind (triple_unrelated _ trivial) fun releaseID => ?_
      have hrelease : Triple (handoff input) (Recorded attempted) (record context (.nodeRelease
          (nodeReleaseRecord config executionID dryRun attempt.group release publication observedAt
            releaseID))) fun _ state => Recorded attempted state ∧
              state.release = some (release.nodeName, release.nodePowerAgent,
                publication.released) := by
        apply triple_request
        rintro state reply hstate _
        refine ⟨fun h => ?_, hstate, rfl⟩
        rw [hstate.2]
        exact hallowed h
      refine hrelease.bind fun releaseErr => ?_
      refine Triple.bind (triple_unrelated _ trivial) fun handoffID => ?_
      have hhanded : Triple (handoff input) (fun state => Recorded attempted state ∧
          state.release = some (release.nodeName, release.nodePowerAgent, publication.released))
          (record context (.nodeSignalHandoff (nodeSignalHandoff config executionID dryRun
            attempt.group release publication observedAt handoffID)))
          fun _ => Recorded attempted := by
        apply triple_request
        rintro state reply ⟨hstate, hlast⟩ _
        refine ⟨⟨fun h => ?_, hlast⟩, hstate⟩
        rw [hstate.2]
        exact hallowed h
      exact hhanded.bind fun handoffErr => hrest _

theorem triple_recordReleasesOf_handoff (config : GroupRunConfig) (completedAt : Time)
    (hconcluded : Concluded input config.dryRun group attempt attempted) :
    Triple (handoff input) (Recorded attempted) (config.recordReleasesOf attempt completedAt)
      fun _ => Recorded attempted := by
  unfold GroupRunConfig.recordReleasesOf
  split
  · rename_i ha
    unfold recordNodeReleases
    refine Triple.bind (triple_recordReleases_handoff _ _ _ _
      (fun release hmem => hconcluded.released ha hmem) _) fun recordErr => ?_
    exact triple_skip
  · exact triple_skip

theorem triple_executeGroup_handoff (hrefresh : executor.refreshNodeRelease = true)
    (config : GroupRunConfig) (hdeclared : Declared input group) :
    Triple (handoff input) Fresh (executor.executeGroup config group) fun _ => Fresh := by
  unfold Executor.executeGroup
  refine Triple.bind (triple_unrelated _ trivial) fun startedAt => ?_
  refine (triple_attemptGroup hrefresh config hdeclared).bind fun attempt => ?_
  apply triple_of_forall
  intro known hconcluded
  refine Triple.bind (triple_unrelated _ trivial) fun completedAt => ?_
  refine Triple.bind (triple_unrelated _ trivial) fun recordID => ?_
  have hr : Triple (handoff input) (· = known) (record config.recordContext
      (.group (config.groupRecord group attempt startedAt completedAt recordID)))
      fun _ => Recorded known.current := by
    apply triple_request
    rintro state reply rfl _
    exact ⟨trivial, rfl, rfl⟩
  refine hr.bind fun groupErr => ?_
  unfold GroupRunConfig.concludeGroup
  refine Triple.bind (triple_unrelated _ trivial) fun attemptID => ?_
  refine Triple.bind (triple_unrelated _ trivial) fun attemptErr => ?_
  refine (triple_recordReleasesOf_handoff config completedAt hconcluded).bind fun releases => ?_
  exact triple_pure fun state hs => hs.1

end

theorem declared_dispatchedGroup {groups : List Group} {resolved : ResolvedGroups}
    (hgroups : groups = input.groups) (hresolved : ResolvedFrom groups resolved)
    (config : WaveRunConfig) (wave : Wave) (name : String) :
    Declared input (dispatchedGroup config wave (resolved.get name)) := by
  unfold dispatchedGroup
  split
  · rename_i haction
    intro _
    have hsome : (resolved.get name).action ≠ "" := by
      rw [haction]
      decide
    obtain ⟨declared, hmem, hname, _, hr⟩ := hresolved.declared hsome
    refine ⟨declared, hgroups ▸ hmem, hname,
      decide (wave.groups.length = 1) && config.terminalWave, ?_⟩
    rw [hr]
  · rename_i haction
    exact fun h => absurd h haction

theorem unrelated_of_reports {progress : Progress} (request : Request)
    (h : Reports progress request) : Unrelated request := by
  cases request <;> trivial

section

variable {executor : Executor} (hrefresh : executor.refreshNodeRelease = true)
include hrefresh

theorem waveFolds_handoff {config : WaveRunConfig} (hgroups : config.groups = input.groups)
    (wave : Wave)
    (state : WaveAdaptiveState) :
    WaveFolds executor (handoff input) (fun _ => Fresh) (fun _ _ => Fresh) config wave state where
  own := by
    intro _ request hasks
    apply keeps_unrelated
    cases request with
    | record context entry => cases entry <;> trivial
    | refreshNodeRelease context release => exact hasks.elim
    | runAction context action => exact hasks.elim
    | _ => trivial
  grouped := fun _ _ _ name hr => triple_executeGroup_handoff hrefresh _
    (declared_dispatchedGroup hgroups hr config wave name)
  reported := fun _ _ => (((asks_reportProgress executor _).mono unrelated_of_reports).triple
    (keeps_unrelated _)).imp fun _ _ h => h.2

theorem folds_handoff : Folds executor input (handoff input) fun _ => Fresh where
  quiet := by
    intro _ request hasks
    apply keeps_unrelated
    cases request with
    | record context entry => cases entry <;> trivial
    | refreshNodeRelease context release => exact hasks.elim
    | runAction context action => exact hasks.elim
    | _ => trivial
  received := fun _ _ => triple_unrelated _ trivial
  selected := fun _ _ _ => triple_unrelated _ trivial
  ran := fun counts _ wave _ _ _ _ state hp =>
    (waveFolds_handoff hrefresh hp.groups wave state).runWave counts

end

end

def handoffState (actor : Option Nat) (history : History) : HandoffState :=
  (view actor history).foldl handoffAdvance {}

/-- Handoffs and the records of released nodes stand on evidence that the party
itself has just read. -/
structure HandoffsEvidenced (input : Input) (history : History) : Prop where
  called : ∀ before actor context action reply after,
    history = before ++ ⟨actor, .runAction context action, reply⟩ :: after →
      action.dryRun = false → action.group.action = actionAgentShutdown →
        Evidenced input (handoffState actor before).current.reads action.group
  released : ∀ before actor context entry reply after,
    history = before ++ ⟨actor, .record context (.nodeRelease entry), reply⟩ :: after →
      entry.released = true →
        Released input (handoffState actor before).recorded entry.nodeName entry.nodePowerAgent
  /-- The handoff record repeats the verdict of the release record before it. -/
  accepted : ∀ before actor context entry reply after,
    history = before ++ ⟨actor, .record context (.nodeSignalHandoff entry), reply⟩ :: after →
      (entry.accepted = true →
        Released input (handoffState actor before).recorded entry.nodeName entry.nodePowerAgent) ∧
      (handoffState actor before).release =
        some (entry.nodeName, entry.nodePowerAgent, entry.accepted)

section

variable {executor : Executor} {input : Input} {execution : ExecutionMachine}
  {history before after : History}

theorem Executes.handoff_allowed {actor : Option Nat} {exchange : Exchange Reply}
    (h : Executes executor input (before ++ ⟨actor, exchange⟩ :: after) execution)
    (hrefresh : executor.refreshNodeRelease = true) :
    handoffAllowed input (handoffState actor before) exchange := by
  have ha : (handoff input).Accepts {} _ :=
    h.accepts_monitor (folds_handoff hrefresh) (by rfl) (fun _ _ => trivial) actor
  rw [view_append, view_cons_self] at ha
  exact ha.split

/-- With a refresh of releases installed, whatever is read, whatever the runner
answers and in every order of steps, nodes are handed off and recorded as released
only on evidence. -/
theorem handoffs_need_fresh_evidence (h : Executes executor input history execution)
    (hrefresh : executor.refreshNodeRelease = true) : HandoffsEvidenced input history where
  called := by
    rintro before actor context action reply after rfl
    exact h.handoff_allowed hrefresh
  released := by
    rintro before actor context entry reply after rfl
    exact h.handoff_allowed hrefresh
  accepted := by
    rintro before actor context entry reply after rfl
    exact h.handoff_allowed hrefresh

end

def releasingInput : Input :=
  { hookedInput with
    waves := [{ index := 0, groups := ["release"] }]
    groups :=
      [{ name := "release", action := actionAgentShutdown
         nodeReleases := [{ nodeName := "node-a", nodePowerAgent := "agent-a" }] }] }

def publishingReply : (request : Request) → Reply request
  | .refreshNodeRelease _ release =>
    .ok { release with agentReady := true, telemetryFresh := true, cleared := true }
  | .runAction _ action =>
    ({ signalResults := action.group.nodeReleases.map fun release =>
        { nodeName := release.nodeName, nodePowerAgent := release.nodePowerAgent
          signalSecretNamespace := release.signalSecretNamespace
          signalSecretName := release.signalSecretName
          signalSecretKey := release.signalSecretKey, published := true } }, none)
  | request => failingReply [] request

theorem releasingInput_is_evidenced :
    let run := simulate { runner := true, refreshNodeRelease := true } releasingInput
      (fun _ => publishingReply) (List.replicate 40 none)
    HandoffsEvidenced releasingInput run.1 ∧
      (actions (view none run.1)).map (fun action => (action.group.name, action.dryRun)) =
        [("release", false)] ∧
      run.1.filterMap (fun event => match event.exchange with
        | ⟨.record _ (.nodeRelease entry), _⟩ => some (entry.nodeName, entry.released)
        | _ => none) = [("node-a", true)] :=
  ⟨handoffs_need_fresh_evidence (executes_simulate _ _ _ _) rfl, by decide, by decide⟩

end NutOperator.Execution
