import NutOperator.Kubeactions.Nodes

/-! What a drain leaves on a node, and what the clearance check before its power-off does
not wait for. -/
namespace NutOperator.Controller

open Data Effects Kubeactions
open Planner (quote)

structure AgentPlacement where
  name : String
  «namespace» : String := ""
  /-- The name in `managementClusterRef`, or none. -/
  managementCluster : String := ""

/-- What both sides read: the agents, and the operand namespace that a cluster declares. -/
structure PlacementReads where
  managerNamespace : String
  agents : List AgentPlacement
  operandNamespace : String → Except String String

def defaultOperandNamespace : String := "power-system"

def nonempty (names : List String) : List String := names.filter (· ≠ "")

def nodePowerAgentOperandNamespace (reads : PlacementReads) (agent : AgentPlacement) :
    Except String String :=
  if agent.namespace ≠ "" then .ok agent.namespace
  else if agent.managementCluster ≠ "" then
    match reads.operandNamespace agent.managementCluster with
    | .error error => .error (s!"get PowerManagementCluster {quote agent.managementCluster} " ++
        s!"for self-exclusion: {error}")
    | .ok declared => .ok (if declared ≠ "" then declared else defaultOperandNamespace)
  else .ok defaultOperandNamespace

def protectedNamespaces (reads : PlacementReads) : Except String (List String) := do
  let placed ← reads.agents.mapM (nodePowerAgentOperandNamespace reads)
  return nonempty [reads.managerNamespace] ++ placed

def getNodePowerAgentManagementCluster (reads : PlacementReads) (agent : AgentPlacement) :
    Except String (Option String) :=
  if agent.managementCluster = "" then .ok none
  else
    match reads.operandNamespace agent.managementCluster with
    | .error error => .error (s!"get PowerManagementCluster {quote agent.managementCluster} " ++
        s!"for NodePowerAgent {quote agent.name}: {error}")
    | .ok declared => .ok (some declared)

def nodePowerAgentNamespace (agent : AgentPlacement) (cluster : Option String) : String :=
  if agent.namespace ≠ "" then agent.namespace
  else if cluster.getD "" ≠ "" then cluster.getD "" else defaultOperandNamespace

def clearanceExemptNamespaces (reads : PlacementReads) : Except String (List String) := do
  let placed ← reads.agents.mapM fun agent => do
    let cluster ← getNodePowerAgentManagementCluster reads agent
    return nodePowerAgentNamespace agent cluster
  return nonempty [reads.managerNamespace] ++ placed

/-- A pod with its mirror annotation, which a drain reads as a value and clearance as
present or not. -/
structure ListedPod extends Pod where
  mirrorAnnotation : Option String := none
  configMirror_eq : configMirror = mirrorAnnotation.getD ""

def podIsTerminal (pod : ListedPod) : Bool := pod.phase = "Succeeded" || pod.phase = "Failed"

def isDaemonSetPod (pod : ListedPod) : Bool :=
  pod.ownerReferences.any fun owner => owner.kind = "DaemonSet"

def isMirrorPod (pod : ListedPod) : Bool := pod.mirrorAnnotation.isSome

def nodeClearance («protected» : List String) (pods : List ListedPod) :
    Bool × String × List String :=
  let blocking := pods.filter fun pod =>
    !(podIsTerminal pod || isDaemonSetPod pod || isMirrorPod pod) && pod.namespace ∉ «protected»
  if blocking = [] then (true, "", [])
  else (false, "NodeNotCleared",
    sortStrings (blocking.map fun pod => pod.namespace ++ "/" ++ pod.name))

def BlocksClearance («protected» : List String) (pod : ListedPod) : Prop :=
  (nodeClearance «protected» [pod]).1 = false

def TriesToEvict («protected» : List String) (pod : ListedPod) : Prop :=
  ∃ trace result reply, Runs (evictPods pod.nodeName «protected» [pod.toPod] {}) trace result ∧
    ⟨.evict pod.toPod, reply⟩ ∈ trace

def appsDaemonSet (owner : OwnerReference) : Prop :=
  owner.apiVersion = "apps/v1" ∧ owner.kind = "DaemonSet"

section

variable {«protected» exempt : List String} {pod : ListedPod} {reads : PlacementReads}

theorem protectedNamespaces_eq (h : clearanceExemptNamespaces reads = .ok exempt) :
    protectedNamespaces reads = .ok exempt := by
  obtain ⟨placed, hp, h⟩ := exists_ok_of_bind h
  have hsame : reads.agents.mapM (nodePowerAgentOperandNamespace reads) = .ok placed := by
    refine mapM_eq_ok_of_forall (fun agent placed hp => ?_) hp
    obtain ⟨clus, hc, hp⟩ := exists_ok_of_bind hp
    cases hp
    rw [getNodePowerAgentManagementCluster] at hc
    rw [nodePowerAgentOperandNamespace, nodePowerAgentNamespace]
    grind
  rw [protectedNamespaces, hsame]
  exact h

theorem blocksClearance_iff :
    BlocksClearance «protected» pod ↔ podIsTerminal pod = false ∧ isDaemonSetPod pod = false ∧
      isMirrorPod pod = false ∧ pod.namespace ∉ «protected» := by
  simp [BlocksClearance, nodeClearance, apply_ite Prod.fst, and_assoc]

theorem triesToEvict_iff : TriesToEvict «protected» pod ↔
      evictablePod pod.toPod = true ∧ pod.namespace ∉ «protected» := by
  rw [TriesToEvict, evictPods]
  by_cases he : evictablePod pod.toPod = true
  · by_cases hp : pod.namespace ∈ «protected»
    · simp [he, hp, evictPods, runs_pure_iff]
    · simp only [he, hp, ne_eq, not_true, Bool.not_true, Bool.false_eq_true,
        or_false, if_false, not_false_eq_true, and_self, iff_true]
      have hrest : Runs (evictPods pod.nodeName «protected» [] {}) [] (.ok {}) := .done _
      exact ⟨_, _, .notFound, runs_bind_iff.mpr ⟨[_], [], .notFound, rfl, .ask _ (.done _), hrest⟩,
        List.mem_cons_self⟩
  · simp [he, evictPods, runs_pure_iff]

end

/-- Drain and clearance agree exactly on these pods. -/
theorem drain_matches_clearance_iff {reads : PlacementReads} {drained exempt : List String}
    (hdrained : protectedNamespaces reads = .ok drained)
    (hexempt : clearanceExemptNamespaces reads = .ok exempt) (pod : ListedPod) :
    (BlocksClearance exempt pod ↔ TriesToEvict drained pod) ↔
      pod.phase = "Succeeded" ∨ pod.phase = "Failed" ∨ pod.namespace ∈ exempt ∨
        pod.configMirror ≠ "" ∨ (∃ owner ∈ pod.ownerReferences, appsDaemonSet owner) ∨
        pod.mirrorAnnotation = none ∧ ∀ owner ∈ pod.ownerReferences, owner.kind ≠ "DaemonSet" := by
  rw [protectedNamespaces_eq hexempt] at hdrained
  cases hdrained
  have hm := pod.configMirror_eq
  rw [blocksClearance_iff, triesToEvict_iff]
  simp only [podIsTerminal, isDaemonSetPod, isMirrorPod, evictablePod, Bool.or_eq_false_iff,
    decide_eq_false_iff_not, List.any_eq_false, decide_eq_true_eq, Option.isSome_eq_false_iff,
    Option.isNone_iff_eq_none, Bool.and_eq_true, List.all_eq_true, Bool.not_eq_true',
    Bool.and_eq_false_imp, appsDaemonSet]
  grind

def rackReads : PlacementReads where
  managerNamespace := "nut-operator-system"
  agents := [{ name := "rack", managementCluster := "home" }]
  operandNamespace := fun _ => .ok ""

def jobPod : ListedPod :=
  { «namespace» := "media", name := "job", nodeName := "n1", configMirror_eq := rfl }

/-- A pod without owners blocks clearance, and a drain evicts it. -/
theorem drain_matches_clearance_job :
    BlocksClearance ["nut-operator-system", "power-system"] jobPod ↔
      TriesToEvict ["nut-operator-system", "power-system"] jobPod :=
  (@drain_matches_clearance_iff rackReads _ _ rfl rfl jobPod).mpr (by simp [jobPod])

/-- A pod of a DaemonSet of another API group is evicted, but clearance does not wait for
it. -/
theorem foreign_daemonSet_not_waited_for :
    let pod := { jobPod with
      ownerReferences := [⟨"apps.kruise.io/v1alpha1", "DaemonSet"⟩] }
    clearanceExemptNamespaces rackReads = .ok ["nut-operator-system", "power-system"] ∧
      protectedNamespaces rackReads = .ok ["nut-operator-system", "power-system"] ∧
      TriesToEvict ["nut-operator-system", "power-system"] pod ∧
      ¬BlocksClearance ["nut-operator-system", "power-system"] pod := by
  intro pod
  refine ⟨rfl, rfl, triesToEvict_iff.mpr (by decide), ?_⟩
  rw [BlocksClearance]
  decide

end NutOperator.Controller
