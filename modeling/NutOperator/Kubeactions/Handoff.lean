import NutOperator.Kubeactions.Nodes
import NutOperator.Nodeagent.Signal

/-! The AgentShutdown action: one signal for each release of a group. The signals of
an agent share a Secret, and every release is validated right before its write. -/
namespace NutOperator.Kubeactions

open Data Effects Execution Nodeagent
open Planner (quote)

/-- The signal of a release. It carries the time at which the action began. -/
def shutdownSignal (times : Codec Time String) (action : Action) (release : NodeRelease)
    (observedAt : Time) : ShutdownSignal :=
  { executionID := action.executionID, nodeName := release.nodeName
    planConfigHash := action.planConfigHash, reason := "ReleaseApproved"
    selectedUPSDevices := action.selectedUPSDevices, shutdownFlow := action.shutdownFlow
    timestamp := times.encode observedAt, skipSync := action.tierOverrunning }

def identified (action : Action) : Bool :=
  action.executionID ≠ "" && action.shutdownFlow ≠ "" && action.planConfigHash ≠ ""

def addressed (release : NodeRelease) : Bool :=
  release.nodeName ≠ "" && release.signalSecretNamespace ≠ "" && release.signalSecretName ≠ "" &&
    release.signalSecretKey ≠ ""

structure Secret where
  (labels data : AList (fun _ : String => String) := ∅)

abbrev ObjectKey := String × String

inductive SecretRead where
  | found (secret : Secret)
  | notFound
  | failed (error : String)

inductive HandoffRequest where
  | now
  /-- The gate that serializes the check of a release and its write. -/
  | acquire
  | getSecret (key : ObjectKey)
  | validate (release : NodeRelease)
  | createSecret (key : ObjectKey) (secret : Secret)
  | updateSecret (key : ObjectKey) (secret : Secret)
  | signalWritten (nodeName shutdownFlow executionID : String) (writtenAt : Time)

@[reducible] def HandoffReply : HandoffRequest → Type
  | .now => Time
  | .acquire => Option String
  | .getSecret _ => SecretRead
  | .validate _ => Option String
  | .createSecret _ _ => Option String
  | .updateSecret _ _ => Option String
  | .signalWritten _ _ _ _ => Unit

abbrev Handoff := Program HandoffRequest HandoffReply

def Handoff.request (request : HandoffRequest) : Handoff (HandoffReply request) :=
  Program.request request

/-- What a handoff needs of the runner: a validator, someone to tell of signals, and
the texts of times and signals. -/
structure Runner where
  (validateNodeRelease signalWritten : Bool)
  times : Codec Time String
  signals : Codec ShutdownSignal String

def labelManagedBy : String := "app.kubernetes.io/managed-by"

def labelShutdownFlow : String := "power.zalud.io/shutdownflow"

def labelShutdownFlowExecution : String := "power.zalud.io/execution"

def labelNodePowerAgent : String := "power.zalud.io/nodepoweragent"

def trimLabel (text : List Char) : List Char :=
  let punctuation := fun c : Char => decide (c ∈ ['-', '_', '.'])
  ((text.dropWhile punctuation).reverse.dropWhile punctuation).reverse

def labelValue (value : String) : String :=
  let kept := trimLabel (value.toList.map fun c =>
    if c.isAlphanum ∨ c ∈ ['-', '_', '.'] then c else '-')
  let cut := if 63 < kept.length then trimLabel (kept.take 63) else kept
  if cut = [] then "unknown" else String.ofList cut

theorem labelValue_ne_empty (value : String) : labelValue value ≠ "" := by
  have hc : ∀ cut : List Char, (if cut = [] then "unknown" else String.ofList cut) ≠ "" := by
    intro cut he
    split at he
    · exact absurd he (by decide)
    · rename_i hcut
      exact hcut (String.ofList_eq_empty_iff.mp he)
  exact hc _

def signalSecretLabels (action : Action) (release : NodeRelease) : List (String × String) :=
  [(labelManagedBy, "nut-operator"), (labelShutdownFlow, labelValue action.shutdownFlow),
    (labelShutdownFlowExecution, labelValue action.executionID),
    (labelNodePowerAgent, labelValue release.nodePowerAgent)]

def Secret.withLabels (secret : Secret) (labels : List (String × String)) : Secret :=
  { secret with
    labels := labels.foldl (fun labels label => labels.insert label.1 label.2) secret.labels }

def Secret.withData (secret : Secret) (key data : String) : Secret :=
  { secret with data := secret.data.insert key data }

def Secret.signed (secret : Secret) (action : Action) (release : NodeRelease) (payload : String) :
    Secret :=
  (secret.withLabels (signalSecretLabels action release)).withData release.signalSecretKey payload

/-- Check a release and write its signal, under the gate. The text is the error. -/
def upsertSignalSecret (runner : Runner) (action : Action) (release : NodeRelease)
    (payload : String) : Handoff (Option String) := do
  let key := (release.signalSecretNamespace, release.signalSecretName)
  let written := fun secret : Secret => secret.signed action release payload
  let refused := fun (error : String) =>
    s!"validate release for node {quote release.nodeName}: {error}"
  match ← Handoff.request .acquire with
  | some error => pure (some error)
  | none =>
    if !runner.validateNodeRelease then
      pure (some "AgentShutdown requires a live node release validator")
    else
      match ← Handoff.request (.getSecret key) with
      | .failed error => pure (some s!"get signal Secret {key.1}/{key.2}: {error}")
      | .notFound =>
        match ← Handoff.request (.validate release) with
        | some error => pure (some (refused error))
        | none =>
          match ← Handoff.request (.createSecret key (written {})) with
          | some error => pure (some s!"create signal Secret {key.1}/{key.2}: {error}")
          | none => pure none
      | .found secret =>
        match ← Handoff.request (.validate release) with
        | some error => pure (some (refused error))
        | none =>
          match ← Handoff.request (.updateSecret key (written secret)) with
          | some error =>
            pure (some (s!"update signal Secret {key.1}/{key.2} key " ++
              s!"{quote release.signalSecretKey}: {error}"))
          | none => pure none

end NutOperator.Kubeactions
