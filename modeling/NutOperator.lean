import NutOperator.Adaptive.Comparison
import NutOperator.Audit.History
import NutOperator.Capability.Quirks
import NutOperator.Controller.Approval
import NutOperator.Controller.Clearance
import NutOperator.Controller.DeviceChanges
import NutOperator.Controller.Durations
import NutOperator.Controller.FinalRecord
import NutOperator.Controller.Publishing
import NutOperator.Controller.Reentry
import NutOperator.Controller.Rehearsals
import NutOperator.Controller.Requeue
import NutOperator.Controller.RuntimeBudget
import NutOperator.Controller.Signals
import NutOperator.Controller.Telemetry
import NutOperator.Controller.TriggerEdits
import NutOperator.Controller.TriggerTargets
import NutOperator.Execution.Budget
import NutOperator.Execution.Failures
import NutOperator.Execution.Handoff
import NutOperator.Execution.Preemption
import NutOperator.Kubeactions.Hooks
import NutOperator.Kubeactions.Publication
import NutOperator.NodeActuator.Watch
import NutOperator.Nutserver.Config
import NutOperator.Nutsupervisor.Applied
import NutOperator.Planner.BudgetComplete
import NutOperator.Planner.Diagrams
import NutOperator.Planner.Identity
import NutOperator.Planner.Layers
import NutOperator.Planner.Preflight
import NutOperator.Planner.Quorum
import NutOperator.Planner.ScopedOrder
import NutOperator.Planner.ScopedTiers
import NutOperator.Shutdownflow.TargetIdentity
