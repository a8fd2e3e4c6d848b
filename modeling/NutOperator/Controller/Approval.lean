import NutOperator.Controller.Flow
import NutOperator.Execution.Enforcement

/-! Approval while an execution is running. Admission asks for the approval
annotation; the check at a wave boundary reads other fields of the live flow. -/
namespace NutOperator.Controller

open Data Effects Execution List

inductive FieldErrorType where
  | required
  | invalid
deriving Repr, DecidableEq

structure FieldError where
  type : FieldErrorType
  field : String
  badValue : String := ""
  detail : String
  origin : String := ""
deriving Repr, DecidableEq

/-- `isQualifiedName` gives the complaints about a key. -/
def validateAnnotationKey (isQualifiedName : String → List String) (path value : String) :
    List FieldError :=
  if value = "" then []
  else
    (isQualifiedName value).map fun message =>
      { type := .invalid, field := path, badValue := value, detail := message }

def validatePositiveDuration (path : String) : Option Duration → List FieldError
  | none => []
  | some duration =>
    if duration ≤ 0 then
      [{ type := .invalid, field := path, badValue := formatDuration duration,
         detail := "must be greater than zero" }]
    else []

def validateFlowSafety (isQualifiedName : String → List String) (path : String)
    (flow : ShutdownFlow) : List FieldError :=
  let safety := flow.spec.safety
  validateAnnotationKey isQualifiedName (path ++ ".approvalAnnotation") safety.approvalAnnotation ++
    validatePositiveDuration (path ++ ".maxEstimatedDuration") safety.maxEstimatedDuration ++
    if flow.spec.mode = some .enforce then
      (if safety.requireManualApproval = some false then
        [{ type := .invalid, field := path ++ ".requireManualApproval", badValue := "false",
           detail := "Enforce mode requires manual approval" }]
      else []) ++
      if safety.approvalAnnotation = "" then
        [{ type := .required, field := path ++ ".approvalAnnotation",
           detail := "required when mode is Enforce", origin := "ApprovalAnnotationRequired" }]
      else if flow.annotation safety.approvalAnnotation ≠ "true" then
        [{ type := .invalid, field := "metadata.annotations[" ++ safety.approvalAnnotation ++ "]",
           badValue := flow.annotation safety.approvalAnnotation,
           detail := "must be set to \"true\" when mode is Enforce", origin := "FlowNotApproved" }]
      else []
    else []

def annotated (flow : ShutdownFlow) : Bool :=
  flow.annotation flow.spec.safety.approvalAnnotation = "true"

/-- The check at a wave boundary. `current` is the live flow as it is read then. -/
def approvalChecker (flow : ShutdownFlow) (current : Except String ShutdownFlow) :
    Except String Bool :=
  match current with
  | .error message => .error message
  | .ok current =>
    if current.uid ≠ flow.uid ∨ current.generation ≠ flow.generation ∨
        current.deletionTimestamp.isSome then
      .ok false
    else .ok (effectiveShutdownFlowMode current.spec.mode = .enforce)

structure Stands (flow current : ShutdownFlow) : Prop where
  uid : current.uid = flow.uid
  generation : current.generation = flow.generation
  kept : current.deletionTimestamp = none
  mode : effectiveShutdownFlowMode current.spec.mode = .enforce

theorem approvalChecker_eq_true {flow : ShutdownFlow} {current : Except String ShutdownFlow} :
    approvalChecker flow current = .ok true ↔ ∃ live, current = .ok live ∧ Stands flow live := by
  cases current with
  | error message => simp [approvalChecker]
  | ok live =>
    simp only [approvalChecker, Except.ok.injEq, exists_eq_left']
    constructor
    · intro h
      split at h
      · cases Except.ok.inj h
      · rename_i hsame
        simp only [not_or, not_not, Bool.not_eq_true, Option.isSome_eq_false_iff,
          Option.isNone_iff_eq_none] at hsame
        exact ⟨hsame.1, hsame.2.1, hsame.2.2, of_decide_eq_true (Except.ok.inj h)⟩
    · rintro ⟨huid, hgeneration, hkept, hmode⟩
      simp [huid, hgeneration, hkept, hmode]

def ChecksLive (flow : ShutdownFlow) (current : Except String ShutdownFlow) : Exchange Reply → Prop
  | ⟨.approve _, (reply : Except String Bool)⟩ => reply = approvalChecker flow current
  | _ => True

instance ChecksLive.decidable (flow : ShutdownFlow) (current : Except String ShutdownFlow) :
    DecidablePred (ChecksLive flow current) := by
  rintro ⟨request, reply⟩
  cases request with
  | approve context => exact inferInstanceAs (Decidable (reply = approvalChecker flow current))
  | _ => exact isTrue trivial

def isCheck : Exchange Reply → Bool
  | ⟨.approve _, _⟩ => true
  | _ => false

/-- `live position` is what a read of the flow gives at that point of the history. -/
def Reads (flow : ShutdownFlow) (live : Nat → Except String ShutdownFlow) (history : History) :
    Prop :=
  ∀ before event after, history = before ++ event :: after →
    ChecksLive flow (live before.length) event.exchange

/-- The next wave dispatched is one whose boundary is not before this exchange: its
approval check, or the dispatch of an earlier wave. -/
def atBoundary (exchange : Exchange Reply) : Bool :=
  isCheck exchange || (dispatchOf exchange).isSome

/-- A wave is dispatched, and at its boundary or an earlier one the live flow was
without the annotation. -/
structure WithdrawnBefore (live : Nat → Except String ShutdownFlow) (history before : History)
    (dispatched : Dispatched) : Prop where
  boundary : ∃ past event between, before = past ++ event :: between ∧
    atBoundary event.exchange = true ∧
    ∃ current, live past.length = .ok current ∧ annotated current = false
  dispatch : ∃ exchange after, history = before ++ ⟨none, exchange⟩ :: after ∧
    dispatchOf exchange = some dispatched

/-- Once the annotation is withdrawn, no wave whose boundary comes later has effect. -/
def WithdrawalStops (live : Nat → Except String ShutdownFlow) (history : History) : Prop :=
  ∀ before dispatched, WithdrawnBefore live history before dispatched → dispatched.dryRun = true

/-- At one of the checks so far the read failed or the live flow did not stand. -/
def Lapsed (flow : ShutdownFlow) (live : Nat → Except String ShutdownFlow) (events : History) :
    Prop :=
  ∃ before event after, events = before ++ event :: after ∧ isCheck event.exchange = true ∧
    ¬ ∃ current, live before.length = .ok current ∧ Stands flow current

section

variable {executor : Executor} {input : Input} {execution : ExecutionMachine}
  {flow : ShutdownFlow} {live : Nat → Except String ShutdownFlow} {history before after : History}

theorem Reads.of_append (h : Reads flow live (before ++ after)) : Reads flow live before := by
  rintro front event back rfl
  exact h front event (back ++ after) (by simp)

theorem refusalOf_eq_true {current : Except String ShutdownFlow} {exchange : Exchange Reply}
    (h : ChecksLive flow current exchange) :
    refusalOf exchange = true ↔
      isCheck exchange = true ∧ ¬ ∃ read, current = .ok read ∧ Stands flow read := by
  obtain ⟨request, reply⟩ := exchange
  cases request with
  | approve context =>
    have hreply : reply = approvalChecker flow current := h
    rw [← approvalChecker_eq_true, ← hreply]
    simp only [refusalOf, isCheck, true_and]
    rcases reply with message | approved
    · simp [granted]
    · cases approved <;> simp [granted]
  | _ => simp [refusalOf, isCheck]

/-- A dispatched wave is without effect exactly when a check before it lapsed. -/
theorem dryRun_iff_lapsed {exchange : Exchange Reply} {dispatched : Dispatched}
    (h : Executes executor input (before ++ ⟨none, exchange⟩ :: after) execution)
    (happroved : effectiveDryRun input = false)
    (hreads : Reads flow live (before ++ ⟨none, exchange⟩ :: after))
    (hdispatch : dispatchOf exchange = some dispatched) :
    dispatched.dryRun = true ↔ Lapsed flow live before := by
  rw [h.dryRun_of_dispatch hdispatch, happroved, Bool.false_or, any_eq_true]
  constructor
  · rintro ⟨refused, hmem, hrefused⟩
    obtain ⟨front, back, rfl⟩ := append_of_mem (mem_view.mp hmem)
    have hlapsed := (refusalOf_eq_true (hreads.of_append front _ back rfl)).mp hrefused
    exact ⟨front, _, back, rfl, hlapsed⟩
  · rintro ⟨front, event, back, rfl, hlapsed⟩
    have hrefused := (refusalOf_eq_true (hreads.of_append front event back rfl)).mpr hlapsed
    have hactor : event.actor = none := by
      rw [append_assoc, cons_append] at h
      exact h.actor_of_refusal hrefused
    refine ⟨event.exchange, mem_view.mpr ?_, hrefused⟩
    rw [← hactor]
    exact mem_append_right _ mem_cons_self

/-- Withdrawing the annotation stops effects exactly when, by the boundary of every
wave that follows, a check has failed to read the flow or has found another flow,
another generation, a deletion or another mode. -/
theorem withdrawal_stops_iff_lapsed (h : Executes executor input history execution)
    (happroved : effectiveDryRun input = false) (hreads : Reads flow live history) :
    WithdrawalStops live history ↔
      ∀ before dispatched, WithdrawnBefore live history before dispatched →
        Lapsed flow live before := by
  refine forall_congr' fun before => forall_congr' fun dispatched => forall_congr' fun hwave => ?_
  obtain ⟨-, exchange, rest, rfl, hdispatch⟩ := hwave
  exact dryRun_iff_lapsed h happroved hreads hdispatch

end

def rackFlow : ShutdownFlow :=
  { name := "rack", uid := "1", generation := 1, annotations := [("example.com/approved", "true")]
    spec := { mode := some .enforce, safety := { approvalAnnotation := "example.com/approved" } } }

def editedAt (moment : Nat) (flow edited : ShutdownFlow) (position : Nat) :
    Except String ShutdownFlow :=
  .ok (if position < moment then flow else edited)

def liveReply (flow : ShutdownFlow) (live : Nat → Except String ShutdownFlow) (history : History) :
    (request : Request) → Reply request
  | .approve _ => approvalChecker flow (live history.length)
  | request => failingReply [] request

theorem reads_of_zipIdx {flow : ShutdownFlow} {live : Nat → Except String ShutdownFlow}
    {history : History}
    (h : ∀ entry ∈ history.zipIdx, ChecksLive flow (live entry.2) entry.1.exchange) :
    Reads flow live history := by
  rintro before event after rfl
  refine h (event, before.length) ?_
  rw [zipIdx_append, zipIdx_cons]
  simp

theorem withdrawnBefore_take {live : Nat → Except String ShutdownFlow} {history : History}
    (moment position : Nat) {current : ShutdownFlow} {dispatched : Dispatched}
    (hle : moment ≤ position) (hlength : (history.take moment).length = moment)
    (hboundary : ((history.take position).drop moment).head?.map (atBoundary ·.exchange) =
      some true)
    (hlive : live moment = .ok current) (hwithdrawn : annotated current = false)
    (hat : history[position]?.map (fun event => (event.actor, dispatchOf event.exchange)) =
      some (none, some dispatched)) :
    WithdrawnBefore live history (history.take position) dispatched where
  boundary := by
    obtain ⟨event, hevent, hbound⟩ := Option.map_eq_some_iff.mp hboundary
    obtain ⟨between, hbetween⟩ := head?_eq_some_iff.mp hevent
    have htake : history.take moment = (history.take position).take moment := by
      rw [take_take, min_eq_left hle]
    refine ⟨history.take moment, event, between, ?_, hbound, current, ?_, hwithdrawn⟩
    · rw [← hbetween, htake, take_append_drop]
    · rw [hlength, hlive]
  dispatch := by
    obtain ⟨exchange, hdrop, hdispatch⟩ := exists_dispatch_at hat
    refine ⟨exchange, history.drop (position + 1), ?_, hdispatch⟩
    rw [← hdrop, take_append_drop]

/-- The annotation is removed and the mode is changed with it, so a later wave is
without effect. -/
theorem edited_rackFlow_stops_enforcing :
    let edited := { rackFlow with annotations := [], generation := 2, spec := {} }
    let live := editedAt 20 rackFlow edited
    let run := simulate { runner := true, approvalChecker := true } hookedInput
      (liveReply rackFlow live) (List.replicate 60 none)
    effectiveDryRun hookedInput = false ∧ Reads rackFlow live run.1 ∧
      (dispatches run.1).map (·.dryRun) = [false, true] ∧
      (WithdrawalStops live run.1 ↔
        ∀ before dispatched, WithdrawnBefore live run.1 before dispatched →
          Lapsed rackFlow live before) := by
  intro edited live run
  have hreads : Reads rackFlow live run.1 := reads_of_zipIdx (by decide)
  exact ⟨by decide, hreads, by decide,
    withdrawal_stops_iff_lapsed (executes_simulate _ _ _ _) (by decide) hreads⟩

/-- The annotation alone is removed after the first wave was dispatched, and set again
when the second one has been dispatched; that one has effect all the same, for a flow
that admission refuses. -/
theorem withdrawn_rackFlow_keeps_enforcing :
    let withdrawn := { rackFlow with annotations := [] }
    let live := fun position => editedAt 20 rackFlow (if position < 30 then withdrawn else rackFlow)
      position
    let run := simulate { runner := true, approvalChecker := true } hookedInput
      (liveReply rackFlow live) (List.replicate 60 none)
    validateFlowSafety (fun _ => []) "spec.safety" rackFlow = [] ∧
      (validateFlowSafety (fun _ => []) "spec.safety" withdrawn).map FieldError.origin =
        ["FlowNotApproved"] ∧
      effectiveDryRun hookedInput = false ∧ Reads rackFlow live run.1 ∧
      ¬ WithdrawalStops live run.1 := by
  intro withdrawn live run
  refine ⟨by decide, by decide, by decide, reads_of_zipIdx (by decide), fun hstops => ?_⟩
  have hwave : WithdrawnBefore live run.1 (run.1.take 30) ⟨1, ["scale"], false⟩ :=
    withdrawnBefore_take 27 30 (by decide) (by decide) (by decide) rfl (by decide) (by decide)
  exact absurd (hstops _ _ hwave) (by decide)

end NutOperator.Controller
