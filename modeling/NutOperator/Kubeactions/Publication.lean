import NutOperator.Controller.ReleaseQuorum

/-! The whole AgentShutdown action. Releases are signalled one after the other; those
that end the control plane go out together, in one mutation of their Secret. -/
namespace NutOperator.Kubeactions

open Data Effects Execution Nodeagent List
open Planner (quote)

abbrev Handed := ActionOutcome × Option String

def blockedWith (error : String) (results : List NodeSignalResult) : Handed :=
  ({ (blocked error).1 with signalResults := results }, some error)

def signalResult (release : NodeRelease) : NodeSignalResult :=
  { nodeName := release.nodeName, nodePowerAgent := release.nodePowerAgent
    signalSecretNamespace := release.signalSecretNamespace
    signalSecretName := release.signalSecretName, signalSecretKey := release.signalSecretKey }

def issuedResult (action : Action) (issued : Time) (published : Bool) (release : NodeRelease) :
    NodeSignalResult :=
  { signalResult release with
    published := published, issuedAt := issued, skipSync := action.tierOverrunning }

def handedOff (action : Action) (results : List NodeSignalResult) (details : Details) : Handed :=
  ({ outcome := outcomeSucceeded
     signalResults := results, details := [("handoff", .text "ProjectedSecretSignal"),
       ("syncSkipped", .flag action.tierOverrunning),
       ("nodeReleases", .number action.group.nodeReleases.length)] ++ details }, none)

def secretKey (release : NodeRelease) : ObjectKey :=
  (release.signalSecretNamespace, release.signalSecretName)

def reportWritten (runner : Runner) (action : Action) (issued : Time) :
    List NodeRelease → Handoff Unit
  | [] => pure ()
  | release :: rest =>
    if runner.signalWritten then do
      Handoff.request
        (.signalWritten release.nodeName action.shutdownFlow action.executionID issued)
      reportWritten runner action issued rest
    else reportWritten runner action issued rest

section

variable (runner : Runner) (compact : ShutdownSignal → String) (action : Action)

def handoffReleases (observedAt : Time) : List NodeRelease → List NodeSignalResult → Handoff Handed
  | [], results =>
    pure (handedOff action results [("signalSecrets",
      .number (action.group.nodeReleases.map secretKey).dedup.length)])
  | release :: rest, results =>
    if !addressed release then
      let error := s!"AgentShutdown release for node {quote release.nodeName} " ++
        "requires signal Secret namespace, name, and key"
      pure (blockedWith error (results ++ [{ signalResult release with error := error }]))
    else do
      let payload := runner.signals.encode (shutdownSignal runner.times action release observedAt)
      match ← upsertSignalSecret runner action release payload with
      | some error =>
        pure (blockedWith error
          (results ++ [{ issuedResult action observedAt false release with error := error }]))
      | none => do
        reportWritten runner action observedAt [release]
        handoffReleases observedAt rest
          (results ++ [issuedResult action observedAt true release])

def terminalControlPlaneHandoff : Bool :=
  action.group.nodeReleases.any fun release => release.terminalHandoff &&
    (release.nodeName ∈ release.controlPlaneNodes || release.nodeName ∈ release.quorumMembers)

def batchable (first : NodeRelease) (releases : List NodeRelease) : Bool :=
  (releases.all fun release => release.terminalHandoff && addressed release &&
    secretKey release = secretKey first && release.nodePowerAgent = first.nodePowerAgent) &&
    (releases.map (·.signalSecretKey)).Nodup

def validateAll : List NodeRelease → Handoff (Option String)
  | [] => pure none
  | release :: rest => do
    match ← Handoff.request (.validate release) with
    | some error => pure (some error)
    | none => validateAll rest

def mutate (create : Bool) (key : ObjectKey) (secret : Secret) : Handoff (Option String) :=
  if create then Handoff.request (.createSecret key secret)
  else Handoff.request (.updateSecret key secret)

def batchSecret (payload : NodeRelease → String) (releases : List NodeRelease) (secret : Secret) :
    Secret :=
  releases.foldl (fun secret release => secret.withData release.signalSecretKey (payload release))
    secret

def publishBatch (first : NodeRelease) (create : Bool) (secret : Secret) : Handoff Handed := do
  let releases := action.group.nodeReleases
  let issued ← Handoff.request .now
  match ← validateAll releases with
  | some error => pure (blocked error)
  | none => do
    let payload := fun release => compact (shutdownSignal runner.times action release issued)
    match ← mutate create (secretKey first) (batchSecret payload releases
        (secret.withLabels (signalSecretLabels action first))) with
    | some error => pure (blockedWith error (releases.map (issuedResult action issued false)))
    | none => do
      reportWritten runner action issued releases
      pure (handedOff action (releases.map (issuedResult action issued true))
        [("terminalBatch", .flag true), ("signalSecrets", .number 1)])

def terminalHandoff (first : NodeRelease) : Handoff Handed := do
  match ← Handoff.request .acquire with
  | some error => pure (blocked error)
  | none =>
    if !runner.validateNodeRelease then
      pure (blocked "terminal handoff requires a live node release validator")
    else if !batchable first action.group.nodeReleases then
      pure (blocked ("terminal control-plane handoff requires distinct node keys " ++
        "in one agent signal Secret"))
    else
      match ← Handoff.request (.getSecret (secretKey first)) with
      | .failed error => pure (blocked error)
      | .notFound => publishBatch runner compact action first true {}
      | .found secret => publishBatch runner compact action first false secret

def agentShutdownHandoff : Handoff Handed :=
  match action.group.nodeReleases with
  | [] => pure (blocked "AgentShutdown requires at least one selected node release")
  | first :: _ =>
    if !identified action then
      pure (blocked "AgentShutdown requires execution ID, shutdown flow, and plan config hash")
    else if terminalControlPlaneHandoff action then terminalHandoff runner compact action first
    else do
      let observedAt ← Handoff.request .now
      handoffReleases runner action observedAt action.group.nodeReleases []

end

abbrev HandoffTrace := List (Exchange HandoffReply)

def mutation : Exchange HandoffReply → Option ((ObjectKey × Secret) × Bool)
  | ⟨.createSecret key secret, (reply : Option String)⟩ => some ((key, secret), reply.isNone)
  | ⟨.updateSecret key secret, (reply : Option String)⟩ => some ((key, secret), reply.isNone)
  | _ => none

def mutations (trace : HandoffTrace) : List ((ObjectKey × Secret) × Bool) :=
  trace.filterMap mutation

def written (trace : HandoffTrace) : List (ObjectKey × Secret) :=
  ((mutations trace).filter Prod.snd).map Prod.fst

def refusedRelease : Exchange HandoffReply → Bool
  | ⟨.validate _, (reply : Option String)⟩ => reply.isSome
  | _ => false

def Signals (payload : NodeRelease → String) (release : NodeRelease)
    (write : ObjectKey × Secret) : Prop :=
  write.1 = secretKey release ∧ write.2.data.lookup release.signalSecretKey = some (payload release)

def anyHandoffReply : Exchange HandoffReply → Prop := fun _ => True

section

variable {runner : Runner} {compact : ShutdownSignal → String} {action : Action}

theorem mutations_append (first second : HandoffTrace) :
    mutations (first ++ second) = mutations first ++ mutations second := filterMap_append

theorem written_append (first second : HandoffTrace) :
    written (first ++ second) = written first ++ written second := by
  simp only [written, mutations_append, filter_append, map_append]

theorem ensures_handoff (request : HandoffRequest) :
    Ensures anyHandoffReply (Handoff.request request) fun trace reply =>
      trace = [⟨request, reply⟩] :=
  ensures_request fun _ _ => rfl

theorem quiet_reportWritten (issued : Time) (releases : List NodeRelease) :
    Ensures anyHandoffReply (reportWritten runner action issued releases) fun trace _ =>
      mutations trace = [] ∧ ∀ exchange ∈ trace, refusedRelease exchange = false := by
  induction releases with
  | nil => exact ensures_pure ⟨rfl, forall_mem_nil _⟩
  | cons release rest ih =>
    unfold reportWritten
    split
    · refine (ensures_handoff _).bind fun asking _ ha => ?_
      subst ha
      exact ih.imp fun trace _ h => ⟨h.1, forall_mem_cons.mpr ⟨rfl, h.2⟩⟩
    · exact ih

theorem quiet_validateAll (releases : List NodeRelease) :
    Ensures anyHandoffReply (validateAll releases) fun trace result => mutations trace = [] ∧
      (result = none → ∀ exchange ∈ trace, refusedRelease exchange = false) := by
  induction releases with
  | nil => exact ensures_pure ⟨rfl, fun _ => forall_mem_nil _⟩
  | cons release rest ih =>
    refine (ensures_handoff _).bind fun asking reply ha => ?_
    subst ha
    cases reply with
    | some err => exact ensures_pure ⟨rfl, nofun⟩
    | none =>
      exact ih.imp fun trace _ h => ⟨h.1, fun hnone => forall_mem_cons.mpr ⟨rfl, h.2 hnone⟩⟩

theorem ensures_upsertSignalSecret (release : NodeRelease) (payload : String) :
    Ensures anyHandoffReply (upsertSignalSecret runner action release payload) fun trace result =>
      if result = none then ∃ write, written trace = [write] ∧
        Signals (fun _ => payload) release write
      else written trace = [] := by
  have hsign : ∀ secret : Secret, Signals (fun _ => payload) release
      (secretKey release, secret.signed action release payload) :=
    fun secret => ⟨rfl, AList.lookup_insert _⟩
  refine (ensures_handoff _).bind fun _ acquired h => ?_
  subst h
  cases acquired with
  | some err => exact ensures_pure rfl
  | none =>
    dsimp only
    split
    · exact ensures_pure rfl
    · refine (ensures_handoff _).bind fun _ found h => ?_
      subst h
      cases found with
      | failed err => exact ensures_pure rfl
      | notFound =>
        refine (ensures_handoff _).bind fun _ refused h => ?_
        subst h
        cases refused with
        | some err => exact ensures_pure rfl
        | none =>
          refine (ensures_handoff _).bind fun _ reply h => ?_
          subst h
          cases reply with
          | some err => exact ensures_pure rfl
          | none => exact ensures_pure ⟨_, rfl, hsign {}⟩
      | found secret =>
        refine (ensures_handoff _).bind fun _ refused h => ?_
        subst h
        cases refused with
        | some err => exact ensures_pure rfl
        | none =>
          refine (ensures_handoff _).bind fun _ reply h => ?_
          subst h
          cases reply with
          | some err => exact ensures_pure rfl
          | none => exact ensures_pure ⟨_, rfl, hsign secret⟩

theorem ensures_handoffReleases (observedAt : Time) (releases : List NodeRelease)
    (results : List NodeSignalResult) :
    Ensures anyHandoffReply (handoffReleases runner action observedAt releases results)
      fun trace result => ∃ released rest failing, releases = released ++ rest ∧
        result.1.signalResults =
          results ++ released.map (issuedResult action observedAt true) ++ failing ∧
        (∀ failed ∈ failing, failed.published = false) ∧
        List.Forall₂ (Signals fun release =>
          runner.signals.encode (shutdownSignal runner.times action release observedAt))
          released (written trace) := by
  induction releases generalizing results with
  | nil => exact ensures_pure ⟨[], [], [], rfl, by simp [handedOff], nofun, .nil⟩
  | cons release rest ih =>
    unfold handoffReleases
    split
    · exact ensures_pure ⟨[], _, _, rfl, congrArg (· ++ _) (append_nil results).symm,
        forall_mem_singleton.mpr rfl, .nil⟩
    · refine (ensures_upsertSignalSecret release _).bind fun upserting upserted hu => ?_
      cases upserted with
      | some err =>
        refine ensures_pure ⟨[], _, _, rfl, congrArg (· ++ _) (append_nil results).symm,
          forall_mem_singleton.mpr rfl, ?_⟩
        rw [append_nil, (hu : written upserting = [])]
        exact .nil
      | none =>
        obtain ⟨write, hw, hs⟩ := hu
        refine (quiet_reportWritten observedAt [release]).bind fun reporting _ hq => ?_
        refine (ih _).imp fun trace result h => ?_
        obtain ⟨released, rest, failing, rfl, hr, hfail, hsign⟩ := h
        refine ⟨release :: released, rest, failing, rfl, by simp [hr], hfail, ?_⟩
        rw [written_append, written_append, hw, written, hq.1]
        exact .cons hs hsign

theorem lookup_batchSecret {payload : NodeRelease → String} {releases : List NodeRelease}
    (hkeys : (releases.map (·.signalSecretKey)).Nodup) (secret : Secret) :
    (∀ release ∈ releases, (batchSecret payload releases secret).data.lookup
      release.signalSecretKey = some (payload release)) ∧
    ∀ key ∉ releases.map (·.signalSecretKey),
      (batchSecret payload releases secret).data.lookup key = secret.data.lookup key := by
  induction releases generalizing secret with
  | nil => exact ⟨forall_mem_nil _, fun _ _ => rfl⟩
  | cons release rest ih =>
    obtain ⟨hnew, hrest⟩ := nodup_cons.mp hkeys
    obtain ⟨hsign, hkept⟩ := ih hrest (secret.withData release.signalSecretKey (payload release))
    refine ⟨forall_mem_cons.mpr ⟨(hkept _ hnew).trans (AList.lookup_insert _), hsign⟩,
      fun key hkey => ?_⟩
    obtain ⟨ho, hkey⟩ := not_or.mp (mt mem_cons.mpr hkey)
    exact (hkept key hkey).trans (AList.lookup_insert_ne ho)

/-- What a terminal handoff does: nothing, or, once everything is validated, one mutation
that carries every signal. -/
def Batch (runner : Runner) (compact : ShutdownSignal → String) (action : Action)
    (trace : HandoffTrace) (results : List NodeSignalResult) : Prop :=
  (mutations trace = [] ∧ results = []) ∨ ∃ write accepted issued,
    mutations trace = [(write, accepted)] ∧ runner.validateNodeRelease = true ∧
    (∃ first, batchable first action.group.nodeReleases = true) ∧
    (∀ exchange ∈ trace, refusedRelease exchange = false) ∧
    (∀ release ∈ action.group.nodeReleases, Signals (fun release =>
      compact (shutdownSignal runner.times action release issued)) release write) ∧
    results = action.group.nodeReleases.map (issuedResult action issued accepted)

theorem ensures_mutate (create : Bool) (key : ObjectKey) (secret : Secret) :
    Ensures anyHandoffReply (mutate create key secret) fun trace reply =>
      mutations trace = [((key, secret), reply.isNone)] ∧ ∀ exchange ∈ trace,
        refusedRelease exchange = false := by
  cases create with
  | _ =>
    refine (ensures_handoff _).imp fun trace reply h => ?_
    subst h
    exact ⟨rfl, forall_mem_singleton.mpr rfl⟩

theorem ensures_publishBatch {first : NodeRelease} (create : Bool) (secret : Secret)
    (hvalidator : runner.validateNodeRelease = true)
    (hbatch : batchable first action.group.nodeReleases = true) :
    Ensures anyHandoffReply (publishBatch runner compact action first create secret)
      fun trace result => Batch runner compact action trace result.1.signalResults := by
  obtain ⟨hall, hkeys⟩ := Bool.and_eq_true_iff.mp hbatch
  refine (ensures_handoff _).bind fun _ issued h => ?_
  subst h
  refine (quiet_validateAll _).bind fun validating refused hvalidated => ?_
  cases refused with
  | some err => exact ensures_pure (.inl ⟨by rw [append_nil]; exact hvalidated.1, rfl⟩)
  | none =>
    refine (ensures_mutate create _ _).bind fun mutating reply hmutated => ?_
    have hsignal : ∀ release ∈ action.group.nodeReleases, Signals (fun release =>
        compact (shutdownSignal runner.times action release issued)) release (secretKey first,
          batchSecret (fun release => compact (shutdownSignal runner.times action release issued))
            action.group.nodeReleases (secret.withLabels (signalSecretLabels action first))) := by
      intro release hmem
      have hsame := all_eq_true.mp hall release hmem
      simp only [Bool.and_eq_true, decide_eq_true_eq] at hsame
      exact ⟨hsame.1.2.symm, (lookup_batchSecret (of_decide_eq_true hkeys) _).1 release hmem⟩
    have hrun : ∀ rest : HandoffTrace, mutations rest = [] →
        (∀ exchange ∈ rest, refusedRelease exchange = false) →
        Batch runner compact action ([⟨.now, issued⟩] ++ (validating ++ (mutating ++ rest)))
          (action.group.nodeReleases.map (issuedResult action issued reply.isNone)) := by
      intro rest hrest hquiet
      refine .inr ⟨_, _, issued, ?_, hvalidator, ⟨first, hbatch⟩, ?_, hsignal, rfl⟩
      · rw [mutations_append, mutations_append, mutations_append, hvalidated.1, hmutated.1, hrest]
        rfl
      · intro exchange hmem
        simp only [mem_append, mem_singleton] at hmem
        obtain rfl | hmem | hmem | hmem := hmem
        · rfl
        · exact hvalidated.2 rfl exchange hmem
        · exact hmutated.2 exchange hmem
        · exact hquiet exchange hmem
    cases reply with
    | some err => exact ensures_pure (hrun [] rfl (forall_mem_nil _))
    | none =>
      refine (quiet_reportWritten issued _).bind fun reporting _ hr => ensures_pure ?_
      rw [append_nil]
      exact hrun reporting hr.1 hr.2

end

/-- What any other handoff does: the published results are those of the first releases,
whose signals, and no others, were written. -/
def InOrder (runner : Runner) (action : Action) (trace : HandoffTrace)
    (results : List NodeSignalResult) : Prop :=
  ∃ released rest failing observedAt, action.group.nodeReleases = released ++ rest ∧
    results = released.map (issuedResult action observedAt true) ++ failing ∧
    (∀ failed ∈ failing, failed.published = false) ∧
    List.Forall₂ (Signals fun release =>
      runner.signals.encode (shutdownSignal runner.times action release observedAt))
      released (written trace)

section

variable {runner : Runner} {compact : ShutdownSignal → String} {action : Action}

theorem ensures_terminalHandoff (first : NodeRelease) :
    Ensures anyHandoffReply (terminalHandoff runner compact action first)
      fun trace result => Batch runner compact action trace result.1.signalResults := by
  have hquiet : ∀ (head : Exchange HandoffReply) {trace : HandoffTrace}
      {results : List NodeSignalResult}, mutation head = none → refusedRelease head = false →
      Batch runner compact action trace results →
      Batch runner compact action ([head] ++ trace) results := by
    rintro head trace results hnone hr (⟨hm, hresult⟩ | h)
    · exact .inl ⟨(filterMap_cons_none hnone).trans hm, hresult⟩
    · obtain ⟨write, accepted, issued, hm, hvalidated, hbatch, hall, hrest⟩ := h
      exact .inr ⟨write, accepted, issued, (filterMap_cons_none hnone).trans hm,
        hvalidated, hbatch, forall_mem_cons.mpr ⟨hr, hall⟩, hrest⟩
  refine (ensures_handoff _).bind fun _ acquired h => ?_
  subst h
  cases acquired with
  | some err => exact ensures_pure (.inl ⟨rfl, rfl⟩)
  | none =>
    dsimp only
    split
    · exact ensures_pure (.inl ⟨rfl, rfl⟩)
    · rename_i hvalidated
      split
      · exact ensures_pure (.inl ⟨rfl, rfl⟩)
      · rename_i hbatch
        rw [Bool.not_eq_true, Bool.not_eq_false'] at hvalidated hbatch
        refine (ensures_handoff _).bind fun _ found h => ?_
        subst h
        cases found with
        | failed err => exact ensures_pure (.inl ⟨rfl, rfl⟩)
        | notFound =>
          exact (ensures_publishBatch true {} hvalidated hbatch).imp fun _ _ h =>
            hquiet _ rfl rfl (hquiet _ rfl rfl h)
        | found secret =>
          exact (ensures_publishBatch false secret hvalidated hbatch).imp fun _ _ h =>
            hquiet _ rfl rfl (hquiet _ rfl rfl h)

end

/-- In every run of the action, whatever the API server answers: a terminal handoff
sends one mutation with all the signals, and none if a release is refused; any other
publishes its first releases, in their order. -/
theorem published_exactly_what_was_written {runner : Runner} {compact : ShutdownSignal → String}
    {action : Action} {trace : HandoffTrace} {result : Handed}
    (hrun : Runs (agentShutdownHandoff runner compact action) trace result) :
    (terminalControlPlaneHandoff action = true →
      Batch runner compact action trace result.1.signalResults) ∧
    (terminalControlPlaneHandoff action = false →
      InOrder runner action trace result.1.signalResults) := by
  have hn : ∀ error, (Batch runner compact action [] (blocked error).1.signalResults) ∧
      InOrder runner action [] (blocked error).1.signalResults :=
    fun error => ⟨.inl ⟨rfl, rfl⟩, [], _, [], 0, rfl, rfl, nofun, .nil⟩
  unfold agentShutdownHandoff at hrun
  split at hrun
  · obtain ⟨rfl, rfl⟩ := runs_pure_iff.mp hrun
    exact (hn _).imp (fun h _ => h) fun h _ => h
  · split at hrun
    · obtain ⟨rfl, rfl⟩ := runs_pure_iff.mp hrun
      exact (hn _).imp (fun h _ => h) fun h _ => h
    · split at hrun
      · rename_i ht
        refine ⟨fun _ => ensures_terminalHandoff _ trace result (fun _ _ => trivial) hrun,
          fun hnot => ?_⟩
        cases ht.symm.trans hnot
      · rename_i ht
        refine ⟨fun h => absurd h ht, fun _ => ?_⟩
        obtain ⟨observedAt, later, rfl, hl⟩ := runs_request_bind_iff.mp hrun
        obtain ⟨released, rest, failing, hr, hresult, hfail, hsign⟩ :=
          ensures_handoffReleases observedAt _ _ later result (fun _ _ => trivial) hl
        exact ⟨released, rest, failing, observedAt, hr, hresult, hfail, hsign⟩

def acceptingReply : (request : HandoffRequest) → HandoffReply request
  | .now => (0 : Int)
  | .acquire => none
  | .getSecret _ => .notFound
  | .validate _ => none
  | .createSecret _ _ => none
  | .updateSecret _ _ => none
  | .signalWritten _ _ _ _ => ()

def batchAction : Action :=
  { Controller.rackAction with
    group := { nodeReleases := ["a", "b"].map fun node =>
      { Controller.rackRelease node with terminalHandoff := true } } }

def batchRun : HandoffTrace × Handed := perform (fun _ => acceptingReply) []
    (agentShutdownHandoff Controller.signalRunner Controller.signalTexts.encode batchAction)

theorem control_plane_signalled_at_once :
    (mutations batchRun.1).length = 1 ∧ Batch Controller.signalRunner
      Controller.signalTexts.encode batchAction batchRun.1 batchRun.2.1.signalResults :=
  ⟨by decide, (published_exactly_what_was_written (runs_perform _ _ _)).1 (by decide)⟩

end NutOperator.Kubeactions
