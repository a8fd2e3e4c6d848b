import NutOperator.Audit.Bounded
import NutOperator.Execution.Overlap

/-! An execution and the audit writer of its worker. A write begins and returns as
two steps, and the execution's context may end between them. -/
namespace NutOperator.Controller

open Audit Effects Execution List

/-- Whether a context ends with the execution's. Records are made on the execution's
own context and on a detached one, so the deadlines of the others do not matter here. -/
def endsWith : Context → Bool
  | .execution => true
  | .tier _ => true
  | .group parent _ _ => endsWith parent
  | .lookup parent _ _ => endsWith parent
  | .detached _ _ => false

structure PendingWrite where
  context : Context
  entry : AuditRecord
  refusal : Option String

/-- What a write meets outside the operator. The journal is shared with the other
workers and with replays, so it may be any at each write. -/
structure Surroundings where
  storeErr : Option String := none
  disk : Disk := {}
  env : AppendEnvironment := {}

structure FinishedWrite where
  entry : AuditRecord
  accepted : Bool
  primaryErr : Option String
  surroundings : Surroundings
  disk : Disk

structure AuditTrail where
  ended : Option ContextError := none
  store : BoundedStore := {}
  stats : SpoolStats := {}
  pending : Option Nat → Option PendingWrite := fun _ => none
  writes : List FinishedWrite := []

def AuditTrail.contextErr (trail : AuditTrail) (context : Context) : Option ContextError :=
  if endsWith context then trail.ended else none

def AuditTrail.begin (trail : AuditTrail) (actor : Option Nat) (context : Context)
    (entry : AuditRecord) : AuditTrail :=
  { trail with
    pending := Function.update trail.pending actor
      (some ⟨context, entry, trail.store.begin (trail.contextErr context)⟩) }

def AuditTrail.answer (trail : AuditTrail) (write : PendingWrite) (storeErr : Option String) :
    Option String × BoundedStore :=
  match write.refusal with
  | some refusal => (some refusal, trail.store)
  | none => trail.store.finish (trail.contextErr write.context) storeErr

section

variable (spool : Option SpoolWriter) (codec : Codec)

def AuditTrail.appended (trail : AuditTrail) (write : PendingWrite) (met : Surroundings) :
    Appended :=
  recordThrough spool codec met.env (recordOf write.entry) (trail.answer write met.storeErr).1
    met.disk trail.stats

def AuditTrail.finished (trail : AuditTrail) (write : PendingWrite)
    (met : Surroundings) : FinishedWrite :=
  { entry := write.entry, accepted := write.refusal.isNone && met.storeErr.isNone
    primaryErr := (trail.answer write met.storeErr).1, surroundings := met
    disk := (trail.appended spool codec write met).disk }

def AuditTrail.finish (trail : AuditTrail) (actor : Option Nat) (write : PendingWrite)
    (met : Surroundings) : AuditTrail :=
  { trail with
    store := (trail.answer write met.storeErr).2
    stats := (trail.appended spool codec write met).stats
    pending := Function.update trail.pending actor none
    writes := trail.writes ++ [trail.finished spool codec write met] }

def Unaudited : Request → Prop
  | .record _ _ => False
  | .contextErr .execution => False
  | .cancelExecution => False
  | _ => True

/-- What an exchange of the executor is answered, as far as the audit trail decides
it. The store answers promptly, and succeeds while the context is live. -/
inductive AuditTrail.Answers : AuditTrail → Event Reply → AuditTrail → Prop where
  | record {trail : AuditTrail} {actor : Option Nat} {write : PendingWrite} (met : Surroundings)
      (hpending : trail.pending actor = some write)
      (hprompt : trail.contextErr write.context = none → met.storeErr = none) :
      Answers trail
        ⟨actor, .record write.context write.entry, (trail.appended spool codec write met).error⟩
        (trail.finish spool codec actor write met)
  | look {trail : AuditTrail} (actor : Option Nat) :
      Answers trail ⟨actor, .contextErr .execution, trail.ended⟩ trail
  | cancel {trail : AuditTrail} (actor : Option Nat) : Answers trail ⟨actor, .cancelExecution, ()⟩
        { trail with ended := trail.ended.or (some .canceled) }
  | other {trail : AuditTrail} {event : Event Reply} (h : Unaudited event.exchange.1) :
      Answers trail event trail

def Waits (execution : ExecutionMachine) (request : Request) : Option Nat → Prop
  | none => ∃ next, execution.main = .ask request next
  | some slot => ∃ next, execution.threads slot = some (.ask request next)

structure AuditedRun where
  execution : ExecutionMachine
  trail : AuditTrail := {}

inductive Occurrence where
  | began (actor : Option Nat)
  | cancelled
  | exchanged (event : Event Reply)

def exchangeOf : Occurrence → Option (Event Reply)
  | .exchanged event => some event
  | _ => none

def historyOf (occurrences : List Occurrence) : History := occurrences.filterMap exchangeOf

variable (executor : Executor)

inductive AuditedRun.Step : AuditedRun → Occurrence → AuditedRun → Prop where
  | begin {run : AuditedRun} {actor : Option Nat} {context : Context} {entry : AuditRecord}
      (hwaits : Waits run.execution (.record context entry) actor)
      (hidle : run.trail.pending actor = none) :
      Step run (.began actor) { run with trail := run.trail.begin actor context entry }
  | cancel {run : AuditedRun} (error : ContextError) (hlive : run.trail.ended = none) :
      Step run .cancelled { run with trail := { run.trail with ended := some error } }
  | exchange {run : AuditedRun} {event : Event Reply} {execution : ExecutionMachine}
      {trail : AuditTrail} (hstep : Machine.Step (control executor) run.execution event execution)
      (hanswers : run.trail.Answers spool codec event trail) :
      Step run (.exchanged event) ⟨execution, trail⟩

inductive AuditedRun.Reaches (start : AuditedRun) : List Occurrence → AuditedRun → Prop where
  | refl : Reaches start [] start
  | step {occurrences : List Occurrence} {occurrence : Occurrence} {run later : AuditedRun}
      (h : Reaches start occurrences run) (hstep : AuditedRun.Step spool codec executor run
        occurrence later) : Reaches start (occurrences ++ [occurrence]) later

variable {spool codec executor} {input : Input}
  {start run later : AuditedRun} {occurrences : List Occurrence}

@[simp] theorem historyOf_append (before after : List Occurrence) :
    historyOf (before ++ after) = historyOf before ++ historyOf after :=
  filterMap_append

theorem AuditedRun.Reaches.trans {mid : AuditedRun} {before after : List Occurrence}
    (h : AuditedRun.Reaches spool codec executor start before mid)
    (hlater : AuditedRun.Reaches spool codec executor mid after later) :
    AuditedRun.Reaches spool codec executor start (before ++ after) later := by
  induction hlater with
  | refl => rwa [append_nil]
  | step _ hstep ih =>
    rw [← append_assoc]
    exact .step ih hstep

theorem AuditedRun.Reaches.reaches
    (h : AuditedRun.Reaches spool codec executor start occurrences run) :
    Effects.Reaches (control executor) start.execution (historyOf occurrences) run.execution := by
  induction h with
  | refl => exact .refl _
  | step h hstep ih =>
    rw [historyOf_append]
    cases hstep with
    | exchange hstep ha => exact ih.snoc hstep
    | _ =>
      show Effects.Reaches _ _ (historyOf _ ++ []) _
      rwa [append_nil]

variable {execution next : ExecutionMachine} {event : Event Reply}

theorem free_of_spawn {history : History} {slot : Nat} {thread : Execution.Run WaveExecutionResult}
    (h : Executes executor input history execution)
    (hstep : Machine.Step (control executor) execution event next)
    (hspawn : spawnOf (control executor) event = some (slot, thread)) :
    execution.threads slot = none := by
  have hu := Executes.spawn_unique (Effects.Reaches.snoc h hstep) hspawn
  exact (Effects.Reaches.idle h (rfl : (Execution.start executor input).threads slot = none)
    hu.1).2.2

/-- Who waits goes on waiting until the request is answered. -/
theorem waits_of_step {request : Request} {actor : Option Nat}
    (hstep : Machine.Step (control executor) execution event next)
    (hfree : ∀ slot thread, spawnOf (control executor) event = some (slot, thread) →
      execution.threads slot = none) (h : Waits execution request actor) :
    (event.actor = actor ∧ event.exchange.1 = request) ∨ Waits next request actor := by
  cases actor with
  | none =>
    obtain ⟨rest, hm⟩ := h
    cases hstep with
    | thread hslot hcontrol reply => exact .inr ⟨rest, hm⟩
    | _ =>
      cases hm
      exact .inl ⟨rfl, rfl⟩
  | some slot =>
    obtain ⟨rest, ht⟩ := h
    have hslot := hstep.slotStep slot
    rw [ht] at hslot
    generalize hnext : next.threads slot = after at hslot
    cases hslot with
    | own hcontrol reply => exact .inl ⟨rfl, rfl⟩
    | spawned ha hs =>
      rw [hfree _ _ hs] at ht
      cases ht
    | other ha hs hr => exact .inr ⟨rest, hnext⟩

section

variable (trail : AuditTrail) (actor : Option Nat)

@[simp] theorem pending_begin_self (context : Context) (entry : AuditRecord) :
    (trail.begin actor context entry).pending actor =
      some ⟨context, entry, trail.store.begin (trail.contextErr context)⟩ :=
  Function.update_self ..

theorem pending_begin_of_ne {other : Option Nat} (h : other ≠ actor) (context : Context)
    (entry : AuditRecord) : (trail.begin actor context entry).pending other = trail.pending other :=
  Function.update_of_ne h ..

@[simp] theorem pending_finish_self (write : PendingWrite) (met : Surroundings) :
    (trail.finish spool codec actor write met).pending actor = none :=
  Function.update_self ..

theorem pending_finish_of_ne {other : Option Nat} (h : other ≠ actor) (write : PendingWrite)
    (met : Surroundings) :
    (trail.finish spool codec actor write met).pending other = trail.pending other :=
  Function.update_of_ne h ..

end

def AuditedRun.Attended (run : AuditedRun) : Prop :=
  ∀ actor write, run.trail.pending actor = some write →
    Waits run.execution (.record write.context write.entry) actor

theorem AuditedRun.Attended.begin {actor : Option Nat} {context : Context} {entry : AuditRecord}
    (h : run.Attended) (hwaits : Waits run.execution (.record context entry) actor) :
    { run with trail := run.trail.begin actor context entry : AuditedRun }.Attended := by
  intro other write hw
  by_cases hsame : other = actor
  · subst hsame
    cases (pending_begin_self ..).symm.trans hw
    exact hwaits
  · exact h other write ((pending_begin_of_ne _ _ hsame _ _).symm.trans hw)

theorem pending_of_answers {trail next : AuditTrail} {actor : Option Nat} {write : PendingWrite}
    (h : trail.Answers spool codec event next) (hwrite : next.pending actor = some write) :
    trail.pending actor = some write ∧
      ¬ (event.actor = actor ∧ event.exchange.1 = .record write.context write.entry) := by
  cases h with
  | @record author finished met hp hprompt =>
    by_cases hsame : actor = author
    · subst hsame
      cases (pending_finish_self ..).symm.trans hwrite
    · rw [pending_finish_of_ne _ _ hsame] at hwrite
      exact ⟨hwrite, fun he => hsame he.1.symm⟩
  | other hu =>
    refine ⟨hwrite, fun he => ?_⟩
    rw [he.2] at hu
    exact hu
  | _ => exact ⟨hwrite, fun he => nomatch he.2⟩

theorem AuditedRun.Reaches.attended
    (h : AuditedRun.Reaches spool codec executor ⟨Execution.start executor input, {}⟩
      occurrences run) : run.Attended := by
  induction h with
  | refl => exact fun actor write hw => nomatch hw
  | step h hstep ih =>
    have he : Executes executor input _ _ := h.reaches
    cases hstep with
    | begin hwaits hidle => exact ih.begin hwaits
    | cancel err hlive => exact ih
    | exchange hstep ha =>
      intro actor write hw
      obtain ⟨hb, hanother⟩ := pending_of_answers ha hw
      exact (waits_of_step hstep (fun _ _ => free_of_spawn he hstep)
        (ih actor write hb)).resolve_left hanother

theorem threads_ne_none_of_step {slot : Nat}
    (h : Machine.Step (control executor) execution event next) (hactor : event.actor = some slot) :
    next.threads slot ≠ none := by
  cases h with
  | thread hslot hc reply =>
    cases hactor
    simp
  | _ => cases hactor

theorem request_of_step {request : Request}
    (h : Machine.Step (control executor) execution event next) (hactor : event.actor = none)
    (hwaits : Waits execution request none) : event.exchange.1 = request := by
  obtain ⟨rest, hm⟩ := hwaits
  cases h with
  | thread hslot hc reply => cases hactor
  | _ =>
    cases hm
    rfl

theorem threads_of_record {context : Context} {entry : AuditRecord} {reply : Option String}
    (h : Machine.Step (control executor) execution ⟨none, .record context entry, reply⟩ next) :
    next.threads = execution.threads := by
  cases h with
  | spawn hc => cases hc
  | receive hc hr hdone => cases hc
  | _ => rfl

theorem AuditTrail.Answers.record_inv {trail next : AuditTrail} {actor : Option Nat}
    {context : Context} {entry : AuditRecord} {reply : Option String}
    (h : trail.Answers spool codec ⟨actor, .record context entry, reply⟩ next) :
    ∃ write met, trail.pending actor = some write ∧ write.context = context ∧
      write.entry = entry ∧ (trail.contextErr context = none → met.storeErr = none) ∧
      next = trail.finish spool codec actor write met := by
  generalize hevent : (⟨actor, .record context entry, reply⟩ : Event Reply) = event at h
  cases h with
  | @record author write met hp hprompt =>
    injection hevent with ha he
    injection he with hr hreply
    injection hr with hc hentry
    subst ha hc hentry
    exact ⟨write, met, hp, rfl, rfl, hprompt, rfl⟩
  | other hu =>
    subst hevent
    exact hu.elim
  | _ => cases hevent

end

/-- What the loop does next in a run without overlapped waves, where every write
meets the same surroundings. -/
def AuditedRun.turn (spool : Option SpoolWriter) (codec : Codec) (executor : Executor)
    (environment : (request : Request) → Reply request) (run : AuditedRun) :
    Option (Occurrence × AuditedRun) :=
  match run.execution.main with
  | .done _ => none
  | .ask (.record context entry) next =>
    match run.trail.pending none with
    | none => some (.began none, { run with trail := run.trail.begin none context entry })
    | some write =>
      let reply := (run.trail.appended spool codec write {}).error
      some (.exchanged ⟨none, .record context entry, reply⟩,
        ⟨⟨next reply, run.execution.threads⟩, run.trail.finish spool codec none write {}⟩)
  | .ask (.contextErr .execution) next =>
    some (.exchanged ⟨none, .contextErr .execution, run.trail.ended⟩,
      { run with execution := ⟨next run.trail.ended, run.execution.threads⟩ })
  | .ask .cancelExecution _ => none
  | .ask request next =>
    match control executor request with
    | .external =>
      some (.exchanged ⟨none, request, environment request⟩,
        { run with execution := ⟨next (environment request), run.execution.threads⟩ })
    | _ => none

def AuditedRun.play (spool : Option SpoolWriter) (codec : Codec) (executor : Executor)
    (environment : (request : Request) → Reply request) :
    Nat → AuditedRun → List Occurrence × AuditedRun
  | 0, run => ([], run)
  | turns + 1, run =>
    match run.turn spool codec executor environment with
    | none => ([], run)
    | some (occurrence, next) =>
      let later := next.play spool codec executor environment turns
      (occurrence :: later.1, later.2)

section

variable {spool : Option SpoolWriter} {codec : Codec} {executor : Executor}
  {environment : (request : Request) → Reply request} {run : AuditedRun}

theorem AuditedRun.step_of_turn {occurrence : Occurrence} {next : AuditedRun}
    (hattended : run.Attended)
    (h : run.turn spool codec executor environment = some (occurrence, next)) :
    AuditedRun.Step spool codec executor run occurrence next := by
  obtain ⟨⟨main, threads⟩, trail⟩ := run
  cases main with
  | done out => cases h
  | ask request rest =>
    cases request with
    | record context entry =>
      cases hpending : trail.pending none with
      | none =>
        simp only [AuditedRun.turn, hpending, Option.some.injEq, Prod.mk.injEq] at h
        obtain ⟨rfl, rfl⟩ := h
        exact .begin ⟨rest, rfl⟩ hpending
      | some write =>
        simp only [AuditedRun.turn, hpending, Option.some.injEq, Prod.mk.injEq] at h
        obtain ⟨rfl, rfl⟩ := h
        obtain ⟨other, hm⟩ := hattended none write hpending
        cases hm
        exact .exchange (.external rfl _) (.record {} hpending fun _ => rfl)
    | contextErr context =>
      cases context with
      | execution =>
        cases h
        exact .exchange (.external rfl _) (.look none)
      | _ =>
        cases h
        exact .exchange (.external rfl _) (.other trivial)
    | cancelExecution => cases h
    | launchWave slot config wave state => cases h
    | selectWave slot dueAfter => cases h
    | receiveWave slot => cases h
    | _ =>
      cases h
      exact .exchange (.external rfl _) (.other trivial)

theorem AuditedRun.reaches_play {input : Input} {occurrences : List Occurrence}
    (h : AuditedRun.Reaches spool codec executor ⟨Execution.start executor input, {}⟩
      occurrences run) (turns : Nat) :
    AuditedRun.Reaches spool codec executor run (run.play spool codec executor environment turns).1
      (run.play spool codec executor environment turns).2 := by
  induction turns generalizing run occurrences with
  | zero => exact .refl
  | succ turns ih =>
    unfold AuditedRun.play
    cases hturn : run.turn spool codec executor environment with
    | none => exact .refl
    | some turned =>
      have hstep := AuditedRun.step_of_turn h.attended hturn
      exact AuditedRun.Reaches.trans (.step .refl hstep) (ih (.step h hstep))

theorem AuditedRun.Reaches.disk_eq {start : AuditedRun} {occurrences : List Occurrence}
    (h : AuditedRun.Reaches none codec executor start occurrences run)
    (hstart : start.trail.writes = []) :
    ∀ write ∈ run.trail.writes, write.disk = write.surroundings.disk := by
  induction h with
  | refl =>
    rw [hstart]
    exact fun write hw => nomatch hw
  | step h hstep ih =>
    cases hstep with
    | exchange hstep ha =>
      cases ha with
      | record met hp hprompt =>
        exact forall_mem_append.mpr ⟨ih, forall_mem_singleton.mpr rfl⟩
      | _ => exact ih
    | _ => exact ih

end

end NutOperator.Controller
