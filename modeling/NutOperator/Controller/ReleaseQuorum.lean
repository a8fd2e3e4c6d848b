import NutOperator.Effects.Monitor
import NutOperator.Kubeactions.Handoff
import Mathlib.Data.Finset.Card

/-! The control plane at run time. Every release is validated right before its signal
is written, against the nodes and the signals that the cluster then has. -/
namespace NutOperator.Controller

open Data Effects Execution Kubeactions Nodeagent List
open Planner (quote)

structure NodeCondition where
  (type status : String)

structure LiveNode where
  conditions : List NodeCondition := []
  deleting : Bool := false

def LiveNode.ready (node : LiveNode) : Bool :=
  node.conditions.any fun condition => condition.type = "Ready" && condition.status = "True"

abbrev LiveNodes := AList fun _ : String => LiveNode

abbrev LiveSecrets := AList fun _ : ObjectKey => Secret

def managedSecret (secret : Secret) : Bool :=
  secret.labels.lookup labelManagedBy = some "nut-operator"

def carriesSignals (secret : Secret) : Bool := (secret.data.lookup deliveryChannelMarker).isSome ||
    (secret.labels.lookup labelNodePowerAgent).getD "" ≠ ""

def signalledNodes (decode : String → Option ShutdownSignal) (key : ObjectKey) (secret : Secret) :
    Except String (List String) :=
  (secret.data.entries.filter fun entry => entry.1 ≠ deliveryChannelMarker).mapM fun entry =>
    match decode entry.2 with
    | none => .error s!"invalid pending shutdown signal in Secret {key.1}/{key.2}"
    | some signal => .ok signal.nodeName

def pendingReleases (decode : String → Option ShutdownSignal) (secrets : LiveSecrets) :
    Except String (List String) := do
  let listed := secrets.entries.filter fun entry =>
    managedSecret entry.2 && carriesSignals entry.2
  let names ← listed.mapM fun entry => signalledNodes decode entry.1 entry.2
  return names.flatten

def controlPlaneMembers (release : NodeRelease) : List String :=
  (release.controlPlaneNodes ++ release.quorumMembers).dedup

def readyMembers (release : NodeRelease) (pending : List String) (nodes : LiveNodes) :
    List (Sigma fun _ : String => LiveNode) :=
  nodes.entries.filter fun node =>
    node.1 ∈ controlPlaneMembers release && node.1 ∉ pending && !node.2.deleting && node.2.ready

def validateControlPlaneRelease (decode : String → Option ShutdownSignal)
    (nodes : Except String LiveNodes) (secrets : Except String LiveSecrets)
    (release : NodeRelease) : Except String Unit :=
  if release.nodeName ∉ controlPlaneMembers release then .ok ()
  else if release.terminalHandoff then .ok ()
  else
    match nodes with
    | .error error => .error s!"read control-plane readiness: {error}"
    | .ok nodes =>
      match secrets with
      | .error error => .error s!"read pending control-plane releases: {error}"
      | .ok secrets =>
        match pendingReleases decode secrets with
        | .error error => .error error
        | .ok pending =>
          let totalVoters := release.quorumMembers.dedup.length
          if 1 < (controlPlaneMembers release).length ∧ totalVoters = 0 then
            .error ("control-plane quorum membership is undeclared; release requires " ++
              "terminal handoff")
          else
            let ready := readyMembers release (release.nodeName :: pending) nodes
            let readyVoters := (ready.filter fun node => node.1 ∈ release.quorumMembers).length
            if ready.length = 0 ∨ (0 < totalVoters ∧ readyVoters < totalVoters / 2 + 1) then
              .error (s!"release of {quote release.nodeName} would leave {ready.length} ready " ++
                s!"control-plane nodes and {readyVoters} of {totalVoters} quorum members " ++
                "before terminal handoff")
            else .ok ()

variable {release : NodeRelease}

theorem of_validateControlPlaneRelease {decode : String → Option ShutdownSignal}
    {nodes : Except String LiveNodes} {secrets : Except String LiveSecrets}
    (h : validateControlPlaneRelease decode nodes secrets release = .ok ())
    (hmember : release.nodeName ∈ controlPlaneMembers release)
    (hterminal : release.terminalHandoff = false) :
    ∃ live stored pending, nodes = .ok live ∧ secrets = .ok stored ∧
      pendingReleases decode stored = .ok pending ∧
      ¬(1 < (controlPlaneMembers release).length ∧ release.quorumMembers = []) ∧
      readyMembers release (release.nodeName :: pending) live ≠ [] ∧
      (release.quorumMembers ≠ [] → release.quorumMembers.dedup.length / 2 + 1 ≤
        ((readyMembers release (release.nodeName :: pending) live).filter
          fun node => node.1 ∈ release.quorumMembers).length) := by
  unfold validateControlPlaneRelease at h
  rw [if_neg (not_not.mpr hmember), hterminal] at h
  cases hn : nodes with
  | error error => simp [hn] at h
  | ok live =>
  cases hs : secrets with
  | error error => simp [hn, hs] at h
  | ok stored =>
  cases hpending : pendingReleases decode stored with
  | error error => simp [hn, hs, hpending] at h
  | ok pending =>
  simp only [hn, hs, hpending, Bool.false_eq_true, if_false] at h
  split at h
  · cases h
  · rename_i hd
    split at h
    · cases h
    · rename_i hr
      have hvote : release.quorumMembers.dedup.length = 0 ↔ release.quorumMembers = [] := by
        rw [length_eq_zero_iff, dedup_eq_nil]
      refine ⟨live, stored, pending, rfl, rfl, hpending, ?_, ?_, ?_⟩
      · exact fun hu => hd ⟨hu.1, hvote.mpr hu.2⟩
      · exact fun hnone => hr (.inl (by rw [hnone]; rfl))
      · intro hsome
        have hpos := Nat.pos_of_ne_zero (mt hvote.mp hsome)
        exact not_lt.mp fun hfew => hr (.inr ⟨hpos, hfew⟩)

structure AgentNodeStatus where
  nodeName : String := ""
  ready : Bool := false
  podName : String := ""

structure AgentEvidence where
  (generation observedGeneration : Int := 0)
  (signalNamespace signalSecretName : String := "")
  nodeStatuses : List AgentNodeStatus := []

structure PodEvidence where
  (nodeName phase : String := "")
  ready : Bool := false
  /-- Its actuator runs under the mode and the policy of the agent. -/
  matchesAgent : Bool := false

structure ReleaseEvidence where
  context : Option String := none
  agent : Except String AgentEvidence
  managementCluster : Option String := none
  pod : ObjectKey → Except String PodEvidence
  telemetryFreshness : Except String (Bool × String)
  clearanceExemptNamespaces : Except String (List String)
  nodeClearance : List String → Except String (Bool × String × List String)
  nodes : Except String LiveNodes
  secrets : Except String LiveSecrets
  authorization : Option String := none

def nodePowerAgentSignalKey (nodeName : String) : String := nodeName ++ ".json"

def nodePowerAgentStatusByNode (statuses : List AgentNodeStatus) (nodeName : String) :
    Option AgentNodeStatus :=
  (statuses.reverse.filter fun status => status.nodeName ≠ "").find?
    fun status => status.nodeName = nodeName

def refuseIf (refused : Bool) (error : String) : Except String Unit :=
  if refused then .error error else .ok ()

def failed : Option String → Except String Unit
  | none => .ok ()
  | some error => .error error

def validateNodeRelease (decode : String → Option ShutdownSignal) (evidence : ReleaseEvidence)
    (release : NodeRelease) : Except String Unit := do
  failed evidence.context
  let agent ← evidence.agent
  refuseIf (agent.observedGeneration ≠ agent.generation)
    "agent status has not observed the current specification"
  failed evidence.managementCluster
  refuseIf (release.signalSecretNamespace ≠ agent.signalNamespace ||
      release.signalSecretName ≠ agent.signalSecretName ||
      release.signalSecretKey ≠ nodePowerAgentSignalKey release.nodeName)
    "node signal destination no longer matches the agent"
  let status := nodePowerAgentStatusByNode agent.nodeStatuses release.nodeName
  let podName := (status.map AgentNodeStatus.podName).getD ""
  refuseIf (!(status.any AgentNodeStatus.ready) || podName = "")
    s!"agent has no ready pod for node {quote release.nodeName}"
  let pod ← evidence.pod (agent.signalNamespace, podName)
  refuseIf (pod.nodeName ≠ release.nodeName || pod.phase ≠ "Running" || !pod.ready)
    s!"agent pod is not currently ready on node {quote release.nodeName}"
  refuseIf (!pod.matchesAgent) "agent pod actuator configuration does not match current policy"
  let freshness ← evidence.telemetryFreshness
  refuseIf (!freshness.1) s!"agent telemetry is not fresh: {freshness.2}"
  let exempt ← evidence.clearanceExemptNamespaces
  let clearance ← evidence.nodeClearance exempt
  let workloads := " ".intercalate clearance.2.2
  refuseIf (!clearance.1) s!"node clearance refused: {clearance.2.1} ([{workloads}])"
  validateControlPlaneRelease decode evidence.nodes evidence.secrets release
  failed evidence.authorization

theorem of_validateNodeRelease {decode : String → Option ShutdownSignal}
    {evidence : ReleaseEvidence} (h : validateNodeRelease decode evidence release = .ok ()) :
    release.signalSecretKey = nodePowerAgentSignalKey release.nodeName ∧
      validateControlPlaneRelease decode evidence.nodes evidence.secrets release = .ok () := by
  obtain ⟨_, _, h⟩ := exists_ok_of_bind h
  obtain ⟨agent, _, h⟩ := exists_ok_of_bind h
  obtain ⟨_, _, h⟩ := exists_ok_of_bind h
  obtain ⟨_, _, h⟩ := exists_ok_of_bind h
  obtain ⟨_, hdest, h⟩ := exists_ok_of_bind h
  obtain ⟨_, _, h⟩ := exists_ok_of_bind h
  obtain ⟨pod, _, h⟩ := exists_ok_of_bind h
  obtain ⟨_, _, h⟩ := exists_ok_of_bind h
  obtain ⟨_, _, h⟩ := exists_ok_of_bind h
  obtain ⟨freshness, _, h⟩ := exists_ok_of_bind h
  obtain ⟨_, _, h⟩ := exists_ok_of_bind h
  obtain ⟨exempt, _, h⟩ := exists_ok_of_bind h
  obtain ⟨clearance, _, h⟩ := exists_ok_of_bind h
  obtain ⟨_, _, h⟩ := exists_ok_of_bind h
  obtain ⟨_, hc, _⟩ := exists_ok_of_bind h
  refine ⟨?_, hc⟩
  by_contra hkey
  simp [refuseIf, hkey] at hdest

structure ReleaseCluster where
  nodes : LiveNodes := ∅
  secrets : LiveSecrets := ∅

def ReleaseCluster.store (cluster : ReleaseCluster) (key : ObjectKey) (secret : Secret) :
    ReleaseCluster :=
  { cluster with secrets := cluster.secrets.insert key secret }

def ReleaseEvidence.Reads (evidence : ReleaseEvidence) (cluster : ReleaseCluster) : Prop :=
  (∀ nodes, evidence.nodes = .ok nodes → nodes = cluster.nodes) ∧
    ∀ secrets, evidence.secrets = .ok secrets → secrets = cluster.secrets

def refusal : Except String Unit → Option String
  | .ok () => none
  | .error error => some error

def ReleaseCluster.ReadAs (cluster : ReleaseCluster) (key : ObjectKey) : SecretRead → Prop
  | .found secret => cluster.secrets.lookup key = some secret
  | .notFound => cluster.secrets.lookup key = none
  | .failed _ => True

def releaseMonitor (decode : String → Option ShutdownSignal) :
    Monitor HandoffReply ReleaseCluster where
  advance := fun cluster exchange =>
    match exchange with
    | ⟨.createSecret key secret, none⟩ => cluster.store key secret
    | ⟨.updateSecret key secret, none⟩ => cluster.store key secret
    | _ => cluster
  assumed := fun cluster exchange =>
    match exchange with
    | ⟨.getSecret key, reply⟩ => cluster.ReadAs key reply
    | ⟨.validate release, reply⟩ => ∃ evidence : ReleaseEvidence, evidence.Reads cluster ∧
        reply = refusal (validateNodeRelease decode evidence release)
    | _ => True
  allowed := fun _ _ => True

def Validated (decode : String → Option ShutdownSignal) (release : NodeRelease)
    (cluster : ReleaseCluster) : Prop :=
  ∃ evidence : ReleaseEvidence, evidence.Reads cluster ∧
    validateNodeRelease decode evidence release = .ok ()

theorem validated_of_accepted {decode : String → Option ShutdownSignal} {runner : Runner}
    {action : Action} {payload : String} {cluster : ReleaseCluster}
    {trace : List (Exchange HandoffReply)}
    (h : Runs (upsertSignalSecret runner action release payload) trace none)
    (hassumes : (releaseMonitor decode).Assumes cluster trace) :
    Validated decode release cluster ∧ ∃ secret : Secret,
      (cluster.secrets.lookup (release.signalSecretNamespace, release.signalSecretName) =
        some secret ∨ secret = {}) ∧
      (releaseMonitor decode).after cluster trace =
        cluster.store (release.signalSecretNamespace, release.signalSecretName)
          (secret.signed action release payload) := by
  have hvalidated : ∀ {reply}, (∃ evidence : ReleaseEvidence, evidence.Reads cluster ∧
      reply = refusal (validateNodeRelease decode evidence release)) → reply = none →
        Validated decode release cluster := by
    rintro _ ⟨evidence, hr, rfl⟩ hnone
    refine ⟨evidence, hr, ?_⟩
    cases hvalue : validateNodeRelease decode evidence release with
    | error error => simp [hvalue, refusal] at hnone
    | ok value => rfl
  unfold upsertSignalSecret at h
  obtain ⟨acquired, later, rfl, hread⟩ := runs_request_bind_iff.mp h
  cases acquired with
  | some err => cases (runs_pure_iff.mp hread).2
  | none =>
  dsimp only at hread
  split at hread
  · cases (runs_pure_iff.mp hread).2
  obtain ⟨found, later, rfl, hvalue⟩ := runs_request_bind_iff.mp hread
  cases found with
  | failed err => cases (runs_pure_iff.mp hvalue).2
  | notFound =>
    obtain ⟨refused, later, rfl, hwrite⟩ := runs_request_bind_iff.mp hvalue
    cases refused with
    | some err => cases (runs_pure_iff.mp hwrite).2
    | none =>
      obtain ⟨reply, later, rfl, hend⟩ := runs_request_bind_iff.mp hwrite
      cases reply with
      | some err => cases (runs_pure_iff.mp hend).2
      | none =>
        obtain rfl := (runs_pure_iff.mp hend).1
        exact ⟨hvalidated hassumes.2.2.1 rfl, {}, .inr rfl, rfl⟩
  | found secret =>
    obtain ⟨refused, later, rfl, hwrite⟩ := runs_request_bind_iff.mp hvalue
    cases refused with
    | some err => cases (runs_pure_iff.mp hwrite).2
    | none =>
      obtain ⟨reply, later, rfl, hend⟩ := runs_request_bind_iff.mp hwrite
      cases reply with
      | some err => cases (runs_pure_iff.mp hend).2
      | none =>
        obtain rfl := (runs_pure_iff.mp hend).1
        exact ⟨hvalidated hassumes.2.2.1 rfl, secret, .inl hassumes.2.1, rfl⟩

structure ControlPlaneDeclaration where
  (controlPlaneNodes quorumMembers : List String)

def ControlPlaneDeclaration.members (declared : ControlPlaneDeclaration) : List String :=
  (declared.controlPlaneNodes ++ declared.quorumMembers).dedup

def SignalsNode (decode : String → Option ShutdownSignal) (secret : Secret) (node : String) :
    Prop :=
  ∃ name data signal, secret.data.lookup name = some data ∧ name ≠ deliveryChannelMarker ∧
    decode data = some signal ∧ signal.nodeName = node

def Signalled (decode : String → Option ShutdownSignal) (cluster : ReleaseCluster)
    (node : String) : Prop :=
  ∃ key secret, cluster.secrets.lookup key = some secret ∧ SignalsNode decode secret node

def Available (decode : String → Option ShutdownSignal) (cluster : ReleaseCluster)
    (node : String) : Prop :=
  ¬Signalled decode cluster node ∧ ∃ live, cluster.nodes.lookup node = some live ∧
    live.ready = true ∧ live.deleting = false

def SignalsListed (decode : String → Option ShutdownSignal) (declared : ControlPlaneDeclaration)
    (cluster : ReleaseCluster) : Prop :=
  ∀ key secret, cluster.secrets.lookup key = some secret →
    ∀ node ∈ declared.members, SignalsNode decode secret node →
      managedSecret secret = true ∧ carriesSignals secret = true

open Classical in
structure Quorate (decode : String → Option ShutdownSignal) (declared : ControlPlaneDeclaration)
    (cluster : ReleaseCluster) : Prop where
  controlPlane : ∃ node ∈ declared.members, Available decode cluster node
  majority : declared.quorumMembers ≠ [] → declared.quorumMembers.toFinset.card / 2 + 1 ≤
    (declared.quorumMembers.toFinset.filter (Available decode cluster)).card

section

variable {decode : String → Option ShutdownSignal} {declared : ControlPlaneDeclaration}
  {cluster : ReleaseCluster} {action : Action} {payload node : String}
  {secret : Secret}

variable {key : ObjectKey} {later : ReleaseCluster}

theorem mem_signalledNodes {names : List String} (h : signalledNodes decode key secret = .ok names)
    (hsignal : SignalsNode decode secret node) : node ∈ names := by
  obtain ⟨name, data, signal, hl, hm, hd, rfl⟩ := hsignal
  have he : (⟨name, data⟩ : Sigma fun _ : String => String) ∈
      secret.data.entries.filter fun entry => entry.1 ≠ deliveryChannelMarker :=
    mem_filter.mpr ⟨AList.mem_lookup_iff.mp hl, by simpa using hm⟩
  obtain ⟨found, hf, hv⟩ := exists_mem_of_mapM_eq_ok h he
  rw [hd] at hv
  cases hv
  exact hf

theorem mem_pendingReleases {pending : List String}
    (hlisted : SignalsListed decode declared cluster)
    (h : pendingReleases decode cluster.secrets = .ok pending) (hmember : node ∈ declared.members)
    (hsignalled : Signalled decode cluster node) : node ∈ pending := by
  obtain ⟨key, secret, hl, hs⟩ := hsignalled
  obtain ⟨names, hn, h⟩ := exists_ok_of_bind h
  cases h
  have hread := hlisted key secret hl node hmember hs
  have he : (⟨key, secret⟩ : Sigma fun _ : ObjectKey => Secret) ∈
      cluster.secrets.entries.filter fun entry =>
        managedSecret entry.2 && carriesSignals entry.2 :=
    mem_filter.mpr ⟨AList.mem_lookup_iff.mp hl, by simp [hread]⟩
  obtain ⟨found, hf, hv⟩ := exists_mem_of_mapM_eq_ok hn he
  exact mem_flatten.mpr ⟨found, hf, mem_signalledNodes hv hs⟩

theorem managedSecret_signed : managedSecret (secret.signed action release payload) = true := by
  simp [managedSecret, Secret.signed, Secret.withData, Secret.withLabels, signalSecretLabels,
    AList.lookup_insert_ne, labelManagedBy, labelShutdownFlow, labelShutdownFlowExecution,
    labelNodePowerAgent]

theorem carriesSignals_signed : carriesSignals (secret.signed action release payload) = true := by
  simp [carriesSignals, Secret.signed, Secret.withData, Secret.withLabels, signalSecretLabels,
    labelValue_ne_empty]

theorem signalsNode_of_signed {signal : ShutdownSignal} (hdecoded : decode payload = some signal)
    (h : SignalsNode decode (secret.signed action release payload) node) :
    node = signal.nodeName ∨ SignalsNode decode secret node := by
  obtain ⟨name, data, found, hl, hm, hf, rfl⟩ := h
  by_cases hname : name = release.signalSecretKey
  · subst hname
    rw [Secret.signed, Secret.withData, AList.lookup_insert] at hl
    cases hl
    rw [hdecoded] at hf
    cases hf
    exact .inl rfl
  · rw [Secret.signed, Secret.withData, AList.lookup_insert_ne hname] at hl
    exact .inr ⟨name, data, found, hl, hm, hf, rfl⟩

theorem signalled_of_store {signal : ShutdownSignal} (hdecoded : decode payload = some signal)
    (hsecret : cluster.secrets.lookup key = some secret ∨ secret = {})
    (h : Signalled decode (cluster.store key (secret.signed action release payload)) node) :
    node = signal.nodeName ∨ Signalled decode cluster node := by
  obtain ⟨other, found, hlookup, hsignal⟩ := h
  by_cases hkey : other = key
  · subst hkey
    rw [ReleaseCluster.store, AList.lookup_insert] at hlookup
    cases hlookup
    cases signalsNode_of_signed hdecoded hsignal with
    | inl hnode => exact .inl hnode
    | inr hb =>
      cases hsecret with
      | inl hs => exact .inr ⟨other, secret, hs, hb⟩
      | inr hnew =>
        obtain ⟨name, data, _, he, _⟩ := hb
        rw [hnew] at he
        cases he
  · rw [ReleaseCluster.store, AList.lookup_insert_ne hkey] at hlookup
    exact .inr ⟨other, found, hlookup, hsignal⟩

theorem SignalsListed.store (h : SignalsListed decode declared cluster) :
    SignalsListed decode declared (cluster.store key (secret.signed action release payload)) := by
  intro other found hl node hm hs
  by_cases hkey : other = key
  · subst hkey
    rw [ReleaseCluster.store, AList.lookup_insert] at hl
    cases hl
    exact ⟨managedSecret_signed, carriesSignals_signed⟩
  · rw [ReleaseCluster.store, AList.lookup_insert_ne hkey] at hl
    exact h other found hl node hm hs

theorem Quorate.mono (h : Quorate decode declared cluster)
    (hkept : ∀ node ∈ declared.members, Available decode cluster node →
      Available decode later node) : Quorate decode declared later := by
  classical
  constructor
  · obtain ⟨node, hm, ha⟩ := h.controlPlane
    exact ⟨node, hm, hkept node hm ha⟩
  · intro hvote
    refine (h.majority hvote).trans (Finset.card_le_card fun node hnode => ?_)
    have hnode := Finset.mem_filter.mp hnode
    have hm : node ∈ declared.members := by
      simpa [ControlPlaneDeclaration.members] using .inr (mem_toFinset.mp hnode.1)
    exact Finset.mem_filter.mpr ⟨hnode.1, hkept node hm hnode.2⟩

def ControlPlaneDeclaration.DeclaredBy (declared : ControlPlaneDeclaration)
    (release : NodeRelease) : Prop :=
  release.controlPlaneNodes = declared.controlPlaneNodes ∧
    release.quorumMembers = declared.quorumMembers

theorem controlPlaneMembers_eq (h : declared.DeclaredBy release) :
    controlPlaneMembers release = declared.members := by
  rw [controlPlaneMembers, ControlPlaneDeclaration.members, h.1, h.2]

theorem available_of_mem_readyMembers {pending : List String}
    {entry : Sigma fun _ : String => LiveNode} (hdeclared : declared.DeclaredBy release)
    (hlisted : SignalsListed decode declared cluster)
    (hpending : pendingReleases decode cluster.secrets = .ok pending)
    (hnodes : later.nodes = cluster.nodes) (hsignalled : ∀ node, Signalled decode later node →
      node = release.nodeName ∨ Signalled decode cluster node)
    (h : entry ∈ readyMembers release (release.nodeName :: pending) cluster.nodes) :
    entry.1 ∈ declared.members ∧ Available decode later entry.1 := by
  obtain ⟨hentry, hc⟩ := mem_filter.mp h
  simp only [Bool.and_eq_true, decide_eq_true_eq, Bool.not_eq_true', mem_cons,
    not_or, controlPlaneMembers_eq hdeclared] at hc
  obtain ⟨⟨⟨hm, hnot⟩, hd⟩, hr⟩ := hc
  refine ⟨hm, ?_, entry.2, ?_, hr, hd⟩
  · intro hl
    cases hsignalled _ hl with
    | inl hreleased => exact hnot.1 hreleased
    | inr hb => exact hnot.2 (mem_pendingReleases hlisted hpending hm hb)
  · rw [hnodes]
    exact AList.mem_lookup_iff.mpr hentry

theorem quorate_of_validated (hdeclared : declared.DeclaredBy release)
    (hterminal : release.terminalHandoff = false) (hmember : release.nodeName ∈ declared.members)
    (hlisted : SignalsListed decode declared cluster)
    (hvalidated : Validated decode release cluster)
    (hsignalled : ∀ node, Signalled decode later node →
      node = release.nodeName ∨ Signalled decode cluster node)
    (hnodes : later.nodes = cluster.nodes) :
    Quorate decode declared later ∧
      ¬(1 < declared.members.length ∧ declared.quorumMembers = []) := by
  classical
  obtain ⟨evidence, hr, hv⟩ := hvalidated
  obtain ⟨live, stored, pending, hlive, hs, hpending, hq, hready, hvote⟩ :=
    of_validateControlPlaneRelease (of_validateNodeRelease hv).2
      (controlPlaneMembers_eq hdeclared ▸ hmember) hterminal
  obtain rfl := hr.1 live hlive
  obtain rfl := hr.2 stored hs
  rw [controlPlaneMembers_eq hdeclared, hdeclared.2] at hq
  refine ⟨⟨?_, ?_⟩, hq⟩
  · obtain ⟨entry, hentry⟩ := exists_mem_of_ne_nil _ hready
    exact ⟨entry.1, available_of_mem_readyMembers hdeclared hlisted hpending hnodes
      hsignalled hentry⟩
  · intro hsome
    have hm := hvote (hdeclared.2 ▸ hsome)
    rw [hdeclared.2] at hm
    rw [card_toFinset]
    refine hm.trans ?_
    -- the names of the counted voters are distinct, and each is in the set
    have hd : (((readyMembers release (release.nodeName :: pending) cluster.nodes).filter
        fun node => node.1 ∈ declared.quorumMembers).map Sigma.fst).Nodup :=
      cluster.nodes.nodupKeys.sublist (filter_sublist.trans filter_sublist)
    rw [← length_map Sigma.fst, ← toFinset_card_of_nodup hd]
    apply Finset.card_le_card
    intro node hnode
    obtain ⟨entry, hentry, rfl⟩ := mem_map.mp (mem_toFinset.mp hnode)
    obtain ⟨hentry, hvoter⟩ := mem_filter.mp hentry
    exact Finset.mem_filter.mpr ⟨mem_toFinset.mpr (of_decide_eq_true hvoter),
      (available_of_mem_readyMembers hdeclared hlisted hpending hnodes hsignalled hentry).2⟩

end

def signalPayload (runner : Runner) (action : Action) (release : NodeRelease)
    (observedAt : Time) : String :=
  runner.signals.encode (shutdownSignal runner.times action release observedAt)

/-- Accepted releases outside a terminal handoff, each checked and written in one step.
In between the cluster may change, but not whether a member is ready or signalled. -/
inductive ReleaseRun (runner : Runner) (declared : ControlPlaneDeclaration)
    (start : ReleaseCluster) : List NodeRelease → ReleaseCluster → Prop where
  | start : ReleaseRun runner declared start [] start
  | release {releases : List NodeRelease} {cluster : ReleaseCluster} {action : Action}
      {release : NodeRelease} {observedAt : Time} {trace : List (Exchange HandoffReply)}
      (hrun : ReleaseRun runner declared start releases cluster)
      (hdeclared : declared.DeclaredBy release) (hterminal : release.terminalHandoff = false)
      (haccepted : Runs (upsertSignalSecret runner action release
        (signalPayload runner action release observedAt)) trace none)
      (hassumes : (releaseMonitor runner.signals.decode).Assumes cluster trace) :
      ReleaseRun runner declared start (releases ++ [release])
        ((releaseMonitor runner.signals.decode).after cluster trace)
  | other {releases : List NodeRelease} {cluster later : ReleaseCluster}
      (hrun : ReleaseRun runner declared start releases cluster)
      (hnodes : ∀ node ∈ declared.members, later.nodes.lookup node = cluster.nodes.lookup node)
      (hsignals : ∀ node ∈ declared.members, Signalled runner.signals.decode later node ↔
        Signalled runner.signals.decode cluster node)
      (hlisted : SignalsListed runner.signals.decode declared cluster →
        SignalsListed runner.signals.decode declared later) :
      ReleaseRun runner declared start releases later

theorem quorate_of_accepted {runner : Runner} {declared : ControlPlaneDeclaration}
    {cluster : ReleaseCluster} {action : Action} {observedAt : Time}
    {trace : List (Exchange HandoffReply)} (hdeclared : declared.DeclaredBy release)
    (hterminal : release.terminalHandoff = false)
    (haccepted : Runs (upsertSignalSecret runner action release
      (signalPayload runner action release observedAt)) trace none)
    (hassumes : (releaseMonitor runner.signals.decode).Assumes cluster trace)
    (hlisted : SignalsListed runner.signals.decode declared cluster) :
    SignalsListed runner.signals.decode declared
        ((releaseMonitor runner.signals.decode).after cluster trace) ∧
      (Quorate runner.signals.decode declared cluster ∨ release.nodeName ∈ declared.members →
        Quorate runner.signals.decode declared
          ((releaseMonitor runner.signals.decode).after cluster trace)) ∧
      (release.nodeName ∈ declared.members →
        ¬(1 < declared.members.length ∧ declared.quorumMembers = [])) := by
  obtain ⟨hvalidated, secret, hs, hafter⟩ := validated_of_accepted haccepted hassumes
  rw [hafter]
  have hsignalled : ∀ node, Signalled runner.signals.decode (cluster.store
      (release.signalSecretNamespace, release.signalSecretName) (secret.signed action release
        (signalPayload runner action release observedAt))) node →
      node = release.nodeName ∨ Signalled runner.signals.decode cluster node :=
    fun node => signalled_of_store (Codec.decode_encode _ _) hs
  refine ⟨hlisted.store, fun hq => ?_, fun hm => (quorate_of_validated hdeclared
    hterminal hm hlisted hvalidated hsignalled rfl).2⟩
  by_cases hm : release.nodeName ∈ declared.members
  · exact (quorate_of_validated hdeclared hterminal hm hlisted hvalidated hsignalled rfl).1
  · -- the signal of a worker takes no member away
    apply (hq.resolve_right hm).mono
    intro node hnode ha
    refine ⟨fun hafter => ?_, ha.2⟩
    cases hsignalled node hafter with
    | inl hr => exact hm (hr ▸ hnode)
    | inr hb => exact ha.1 hb

theorem ReleaseRun.create {runner : Runner} {declared : ControlPlaneDeclaration}
    {start cluster : ReleaseCluster} {releases : List NodeRelease}
    (hrun : ReleaseRun runner declared start releases cluster)
    (hrunner : runner.validateNodeRelease = true) (hdeclared : declared.DeclaredBy release)
    (hterminal : release.terminalHandoff = false)
    (hvalidated : Validated runner.signals.decode release cluster)
    (hnew : cluster.secrets.lookup (release.signalSecretNamespace, release.signalSecretName) =
      none) (action : Action) (observedAt : Time) :
    ReleaseRun runner declared start (releases ++ [release])
      (cluster.store (release.signalSecretNamespace, release.signalSecretName)
        (({} : Secret).signed action release
          (signalPayload runner action release observedAt))) := by
  have haccepted : Runs (upsertSignalSecret runner action release
      (signalPayload runner action release observedAt)) [⟨.acquire, none⟩,
      ⟨.getSecret (release.signalSecretNamespace, release.signalSecretName), .notFound⟩,
      ⟨.validate release, none⟩,
      ⟨.createSecret (release.signalSecretNamespace, release.signalSecretName)
        (({} : Secret).signed action release
          (signalPayload runner action release observedAt)), none⟩] none := by
    unfold upsertSignalSecret
    apply Runs.ask
    dsimp only
    rw [hrunner]
    apply Runs.ask
    apply Runs.ask
    apply Runs.ask
    exact Runs.done none
  obtain ⟨evidence, hr, hv⟩ := hvalidated
  exact hrun.release hdeclared hterminal haccepted
    ⟨trivial, hnew, ⟨evidence, hr, by rw [hv]; rfl⟩, trivial, trivial⟩

/-- Over whole runs. -/
theorem quorum_kept_by_releases {runner : Runner} {declared : ControlPlaneDeclaration}
    {start final : ReleaseCluster} {releases : List NodeRelease}
    (hlisted : SignalsListed runner.signals.decode declared start)
    (hrun : ReleaseRun runner declared start releases final) :
    (Quorate runner.signals.decode declared start ∨
        (∃ release ∈ releases, release.nodeName ∈ declared.members) →
      Quorate runner.signals.decode declared final) ∧
    (1 < declared.members.length → declared.quorumMembers = [] →
      ∀ release ∈ releases, release.nodeName ∉ declared.members) := by
  have hkept : SignalsListed runner.signals.decode declared final ∧
      (Quorate runner.signals.decode declared start ∨
          (∃ release ∈ releases, release.nodeName ∈ declared.members) →
        Quorate runner.signals.decode declared final) ∧
      ∀ release ∈ releases, release.nodeName ∈ declared.members →
        ¬(1 < declared.members.length ∧ declared.quorumMembers = []) := by
    induction hrun with
    | start => exact ⟨hlisted, fun hquorate => hquorate.resolve_right (by simp), by simp⟩
    | release hrun hd ht ha hassumes ih =>
      obtain ⟨hlisted, hquorum, hundeclared⟩ := ih
      have hstep := quorate_of_accepted hd ht ha hassumes hlisted
      refine ⟨hstep.1, fun hquorate => hstep.2.1 ?_, ?_⟩
      · rcases hquorate with hs | ⟨released, hmem, hmember⟩
        · exact .inl (hquorum (.inl hs))
        · cases List.mem_append.mp hmem with
          | inl he => exact .inl (hquorum (.inr ⟨released, he, hmember⟩))
          | inr hlast => exact .inr (List.mem_singleton.mp hlast ▸ hmember)
      · exact List.forall_mem_append.mpr ⟨hundeclared, List.forall_mem_singleton.mpr hstep.2.2⟩
    | other hrun hn hsignal hk ih =>
      obtain ⟨hlisted, hquorum, hundeclared⟩ := ih
      refine ⟨hk hlisted, fun hquorate => (hquorum hquorate).mono ?_, hundeclared⟩
      intro node hmember havailable
      exact ⟨mt (hsignal node hmember).mp havailable.1, by rw [hn node hmember]; exact havailable.2⟩
  exact ⟨hkept.2.1, fun hmany hnone release hmem hmember =>
    hkept.2.2 release hmem hmember ⟨hmany, hnone⟩⟩

def signalTexts : Codec ShutdownSignal String where
  encode := fun signal => texts.encode ([signal.executionID, signal.nodeName,
    signal.planConfigHash, signal.reason, signal.shutdownFlow, signal.timestamp,
    if signal.skipSync then "skip" else ""] ++ signal.selectedUPSDevices)
  decode := fun text =>
    match texts.decode text with
    | some (executionID :: nodeName :: planConfigHash :: reason :: shutdownFlow :: timestamp ::
        skipSync :: selectedUPSDevices) =>
        some { executionID, nodeName, planConfigHash, reason, selectedUPSDevices, shutdownFlow,
               timestamp, skipSync := skipSync = "skip" }
    | _ => none
  decode_encode := by
    intro signal
    rw [Codec.decode_encode]
    cases hskip : signal.skipSync <;> simp [← hskip]

def signalRunner : Runner where
  validateNodeRelease := true
  signalWritten := false
  times := signedDecimals
  signals := signalTexts

def rackAction : Action where
  executionID := "run-1"
  shutdownFlow := "rack"
  triggerReason := "TriggerEligible"
  planConfigHash := "plan"
  selectedUPSDevices := ["ups-a"]
  waveIndex := 0
  group := {}
  dryRun := false
  powerObservation := {}
  tierOverrunning := false

def rackRelease (nodeName : String) : NodeRelease where
  nodeName := nodeName
  nodePowerAgent := "rack"
  controlPlaneNodes := ["a", "b", "c"]
  quorumMembers := ["a", "b", "c"]
  signalSecretNamespace := "power"
  signalSecretName := "rack-signals"
  signalSecretKey := nodePowerAgentSignalKey nodeName

def rackDeclaration : ControlPlaneDeclaration := ⟨["a", "b", "c"], ["a", "b", "c"]⟩

def rackEvidence (nodeName : String) (cluster : ReleaseCluster) : ReleaseEvidence where
  agent := .ok {
    signalNamespace := "power"
    signalSecretName := "rack-signals"
    nodeStatuses := [{ nodeName := nodeName, ready := true, podName := "actuator" }] }
  pod := fun _ => .ok
    { nodeName := nodeName, phase := "Running", ready := true, matchesAgent := true }
  telemetryFreshness := .ok (true, "")
  clearanceExemptNamespaces := .ok []
  nodeClearance := fun _ => .ok (true, "", [])
  nodes := .ok cluster.nodes
  secrets := .ok cluster.secrets

def readyNode : LiveNode := { conditions := [⟨"Ready", "True"⟩] }

def rackCluster (ready : List String) : ReleaseCluster where
  nodes := ["a", "b", "c"].foldl
    (fun nodes name => nodes.insert name (if name ∈ ready then readyNode else {})) ∅

theorem validated_rackRelease (nodeName : String) (cluster : ReleaseCluster)
    (hname : nodeName ≠ "") (hcontrolPlane : validateControlPlaneRelease signalTexts.decode
      (.ok cluster.nodes) (.ok cluster.secrets) (rackRelease nodeName) = .ok ()) :
    Validated signalTexts.decode (rackRelease nodeName) cluster := by
  refine ⟨rackEvidence nodeName cluster, ⟨?_, ?_⟩, ?_⟩
  · intro nodes hn
    cases hn
    rfl
  · intro secrets hs
    cases hs
    rfl
  · unfold rackRelease at hcontrolPlane
    simp [validateNodeRelease, rackEvidence, rackRelease, nodePowerAgentStatusByNode, refuseIf,
      failed, hname, hcontrolPlane, bind, Except.bind]

theorem signalsListed_rackCluster (ready : List String) :
    SignalsListed signalTexts.decode rackDeclaration (rackCluster ready) :=
  fun _ _ hl => by cases hl

theorem releaseRun_rackRelease {nodeName : String} {cluster : ReleaseCluster}
    (hname : nodeName ≠ "") (hcontrolPlane : validateControlPlaneRelease signalTexts.decode
      (.ok cluster.nodes) (.ok cluster.secrets) (rackRelease nodeName) = .ok ())
    (hnew : cluster.secrets.lookup ("power", "rack-signals") = none) :
    ∃ secret, ReleaseRun signalRunner rackDeclaration cluster [rackRelease nodeName]
      (cluster.store ("power", "rack-signals") secret) := by
  have hv : Validated signalRunner.signals.decode (rackRelease nodeName) cluster :=
    validated_rackRelease nodeName cluster hname hcontrolPlane
  have hd : rackDeclaration.DeclaredBy (rackRelease nodeName) := ⟨rfl, rfl⟩
  have hrun := ReleaseRun.start.create rfl hd rfl hv hnew rackAction 0
  exact ⟨_, hrun⟩

/-- A worker is released while no control-plane node is ready. -/
theorem worker_released_without_quorum : ∃ final,
    SignalsListed signalRunner.signals.decode rackDeclaration (rackCluster []) ∧
    ReleaseRun signalRunner rackDeclaration (rackCluster []) [rackRelease "worker"] final ∧
    ∀ node ∈ rackDeclaration.members, ¬Available signalRunner.signals.decode final node := by
  have hc : validateControlPlaneRelease signalTexts.decode
      (.ok (rackCluster []).nodes) (.ok (rackCluster []).secrets) (rackRelease "worker") =
        .ok () := by decide
  obtain ⟨secret, hrun⟩ := releaseRun_rackRelease (by decide) hc rfl
  refine ⟨_, signalsListed_rackCluster [], hrun, ?_⟩
  rintro node hm ⟨_, live, hl, hr, _⟩
  have hnone : ∀ name ∈ rackDeclaration.members,
      ((rackCluster []).nodes.lookup name).map LiveNode.ready = some false := by decide
  have hlive := hnone node hm
  rw [show (rackCluster []).nodes.lookup node = some live from hl, Option.map_some, hr] at hlive
  cases hlive

def unlabelledSecret : Secret where
  data := ((∅ : AList fun _ : String => String).insert "c" (signalTexts.encode
    { nodeName := "c" })).insert "b" (signalTexts.encode { nodeName := "b" })

def unlabelledCluster : ReleaseCluster :=
  (rackCluster ["a", "b", "c"]).store ("power", "copied-signals") unlabelledSecret

theorem signalsNode_unlabelledSecret {node : String} (h : node = "b" ∨ node = "c") :
    SignalsNode signalTexts.decode unlabelledSecret node := by
  refine ⟨node, _, { nodeName := node }, ?_, ?_, Codec.decode_encode _ _, rfl⟩
  all_goals rcases h with rfl | rfl
  · exact AList.lookup_insert _
  · rw [unlabelledSecret, AList.lookup_insert_ne (by decide)]
    exact AList.lookup_insert _
  · decide
  · decide

/-- Signals that the check does not list let the last voter go. -/
theorem unlabelled_signals_lose_quorum : ∃ final,
    ReleaseRun signalRunner rackDeclaration unlabelledCluster [rackRelease "a"] final ∧
      ¬Quorate signalRunner.signals.decode rackDeclaration final := by
  have hc : validateControlPlaneRelease signalTexts.decode (.ok unlabelledCluster.nodes)
      (.ok unlabelledCluster.secrets) (rackRelease "a") = .ok () := by decide
  obtain ⟨secret, hrun⟩ := releaseRun_rackRelease (by decide) hc rfl
  refine ⟨_, hrun, fun hquorate => ?_⟩
  classical
  have hsignalled : ∀ node, node = "b" ∨ node = "c" → Signalled signalTexts.decode
      (unlabelledCluster.store ("power", "rack-signals") secret) node := by
    intro node h
    refine ⟨("power", "copied-signals"), unlabelledSecret, ?_, signalsNode_unlabelledSecret h⟩
    rw [ReleaseCluster.store, AList.lookup_insert_ne (by decide)]
    exact AList.lookup_insert _
  have hleft : rackDeclaration.quorumMembers.toFinset.filter (Available signalTexts.decode
      (unlabelledCluster.store ("power", "rack-signals") secret)) ⊆ {"a"} := by
    intro node hnode
    obtain ⟨hmember, havailable⟩ := Finset.mem_filter.mp hnode
    have hnode : node = "a" ∨ node = "b" ∨ node = "c" := by simpa [rackDeclaration] using hmember
    exact Finset.mem_singleton.mpr
      (hnode.resolve_right fun h => havailable.1 (hsignalled node h))
  have := (hquorate.majority (by decide)).trans (Finset.card_le_card hleft)
  revert this
  decide

/-- The first voter of three is released while all are ready. -/
theorem quorum_kept_by_releases_rack : ∃ final,
    ReleaseRun signalRunner rackDeclaration (rackCluster ["a", "b", "c"]) [rackRelease "a"] final ∧
    Quorate signalRunner.signals.decode rackDeclaration final := by
  have hc : validateControlPlaneRelease signalTexts.decode
      (.ok (rackCluster ["a", "b", "c"]).nodes) (.ok (rackCluster ["a", "b", "c"]).secrets)
      (rackRelease "a") = .ok () := by decide
  obtain ⟨secret, hrun⟩ := releaseRun_rackRelease (by decide) hc rfl
  have hm : (rackRelease "a").nodeName ∈ rackDeclaration.members := by decide
  have hl : SignalsListed signalRunner.signals.decode rackDeclaration
      (rackCluster ["a", "b", "c"]) := signalsListed_rackCluster _
  have hkept := (quorum_kept_by_releases hl hrun).1
  exact ⟨_, hrun, hkept (.inr ⟨rackRelease "a", List.mem_singleton_self _, hm⟩)⟩

end NutOperator.Controller
