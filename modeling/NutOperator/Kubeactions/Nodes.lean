import NutOperator.Data.Sorting
import NutOperator.Effects.Program
import NutOperator.Execution.Types
import NutOperator.Planner.Text

/-! The pods that a drain evicts from a node. -/
namespace NutOperator.Kubeactions

open Data Effects Execution List
open Planner (quote)

structure OwnerReference where
  (apiVersion kind : String)
deriving Repr, DecidableEq

structure Pod where
  «namespace» : String
  (name nodeName : String)
  phase : String := "Running"
  configMirror : String := ""
  ownerReferences : List OwnerReference := []
deriving Repr, DecidableEq

def evictablePod (pod : Pod) : Bool :=
  pod.phase ≠ "Succeeded" && pod.phase ≠ "Failed" && pod.configMirror = "" &&
    pod.ownerReferences.all fun owner => !(owner.apiVersion = "apps/v1" && owner.kind = "DaemonSet")

inductive Removal where
  | done
  | notFound
  /-- A disruption budget refuses. -/
  | budgetDenied (error : String)
  | failed (error : String)
deriving Repr, DecidableEq

inductive NodesRequest where
  | evict (pod : Pod)
  | delete (pod : Pod)

@[reducible] def NodesReply : NodesRequest → Type
  | .evict _ => Removal
  | .delete _ => Removal

abbrev Nodes := Program NodesRequest NodesReply

def Nodes.request (request : NodesRequest) : Nodes (NodesReply request) := Program.request request

structure Evicted where
  count : Nat := 0
  (skippedNamespaces budgetOverrides : List String := [])
deriving Repr, DecidableEq

/-- A budget gives way to a deletion, which still lets the pod end in good order. -/
def evictPods (nodeName : String) («protected» : List String) :
    List Pod → Evicted → Nodes (Except String Evicted)
  | [], evicted => pure (.ok evicted)
  | pod :: rest, evicted =>
      if pod.nodeName ≠ nodeName ∨ !evictablePod pod then evictPods nodeName «protected»
        rest evicted
      else if pod.namespace ∈ «protected» then
        evictPods nodeName «protected» rest
          { evicted with skippedNamespaces := evicted.skippedNamespaces ++ [pod.namespace] }
      else do
        match ← Nodes.request (.evict pod) with
        | .done =>
            evictPods nodeName «protected» rest { evicted with count := evicted.count + 1 }
        | .notFound => evictPods nodeName «protected» rest evicted
        | .failed error => pure (.error s!"evict Pod {pod.namespace}/{pod.name}: {error}")
        | .budgetDenied _ =>
            let failure := fun (error : String) =>
              s!"delete Pod {pod.namespace}/{pod.name} after its PodDisruptionBudget refused " ++
                s!"eviction: {error}"
            match ← Nodes.request (.delete pod) with
            | .notFound => evictPods nodeName «protected» rest evicted
            | .failed error => pure (.error (failure error))
            | .budgetDenied error => pure (.error (failure error))
            | .done =>
                evictPods nodeName «protected» rest
                  { evicted with
                    count := evicted.count + 1
                    budgetOverrides :=
                      evicted.budgetOverrides ++ [pod.namespace ++ "/" ++ pod.name] }

def blocked (error : String) : ActionOutcome × Option String :=
  ({ outcome := outcomeBlocked, error := error }, some error)

end NutOperator.Kubeactions
