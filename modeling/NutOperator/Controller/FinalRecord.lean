import NutOperator.Audit.Journal
import NutOperator.Controller.AuditedRun
import NutOperator.Execution.Aborted
import NutOperator.Execution.Accounting

/-! The last record of a cancelled execution. What the cancellation finds under way
decides whether the store still takes the Aborted record. -/
namespace NutOperator.Controller

open Audit Effects Execution List

section

variable {spool : Option SpoolWriter} {codec : Codec} {executor : Executor} {input : Input}
  {start run : AuditedRun} {occs : List Occurrence}

/-- A write is under way on a context that ends with the execution's. -/
def AuditTrail.InFlight (trail : AuditTrail) : Prop :=
  ∃ actor write, trail.pending actor = some write ∧ endsWith write.context = true

structure AuditTrail.Clear (trail : AuditTrail) : Prop where
  failure : trail.store.failure = none
  admitted : ∀ actor write, trail.pending actor = some write → write.refusal = none

variable {trail : AuditTrail}

theorem contextErr_of_live (h : trail.ended = none) (context : Context) :
    trail.contextErr context = none := by
  unfold AuditTrail.contextErr
  split
  · exact h
  · rfl

theorem AuditTrail.Clear.begin (h : trail.Clear) (hlive : trail.ended = none)
    (actor : Option Nat) (context : Context) (entry : AuditRecord) :
    (trail.begin actor context entry).Clear := by
  refine ⟨h.failure, ?_⟩
  intro other write hw
  by_cases hsame : other = actor
  · subst hsame
    cases (pending_begin_self ..).symm.trans hw
    rw [contextErr_of_live hlive, begin_of_live]
    exact h.failure
  · exact h.admitted other write ((pending_begin_of_ne _ _ hsame _ _).symm.trans hw)

variable {next cancelled : AuditTrail} {event : Event Reply}

theorem AuditTrail.Clear.answers (h : trail.Clear) (hlive : trail.ended = none)
    (hanswer : trail.Answers spool codec event next) : next.Clear := by
  refine ⟨?_, fun actor write hw => h.admitted actor write (pending_of_answers hanswer hw).1⟩
  cases hanswer with
  | @record author finished met hp hprompt =>
    show (trail.answer finished met.storeErr).2.failure = none
    rw [AuditTrail.answer, h.admitted author finished hp, contextErr_of_live hlive]
    exact h.failure
  | _ => exact h.failure

theorem ended_of_answers (h : trail.Answers spool codec event next) (hended : trail.ended.isSome) :
    next.ended = trail.ended := by
  cases h with
  | cancel author =>
    obtain ⟨error, herr⟩ := Option.isSome_iff_exists.mp hended
    simp [herr]
  | _ => rfl

theorem AuditedRun.Reaches.clear
    (h : AuditedRun.Reaches spool codec executor ⟨Execution.start executor input, {}⟩
      occs run) (hlive : run.trail.ended = none) : run.trail.Clear := by
  induction h with
  | refl => exact ⟨rfl, fun actor write hw => nomatch hw⟩
  | @step _ _ run _ h hstep ih =>
    cases hstep with
    | begin hwaits hidle => exact (ih hlive).begin hlive _ _ _
    | cancel error hwas => cases hlive
    | exchange hstep ha =>
      have hwas : run.trail.ended = none := by
        by_contra hended
        have hended := Option.isSome_iff_ne_none.mpr hended
        rw [← ended_of_answers ha hended] at hended
        rw [hlive] at hended
        cases hended
      exact (ih hwas).answers hwas ha

/-- What holds after the cancellation, by what was under way at it. -/
structure AuditTrail.Cut (cancelled trail : AuditTrail) : Prop where
  ended : trail.ended.isSome
  admitted : ∀ actor write, trail.pending actor = some write → endsWith write.context = true →
    write.refusal = none → cancelled.InFlight
  latched : trail.store.failure.isSome → cancelled.InFlight
  returned : ∀ actor write, cancelled.pending actor = some write → endsWith write.context = true →
    trail.pending actor = some write ∨ trail.store.failure.isSome

theorem AuditTrail.Clear.cut (h : trail.Clear) (error : ContextError) :
    trail.Cut { trail with ended := some error } where
  ended := rfl
  admitted := fun actor write hw hends _ => ⟨actor, write, hw, hends⟩
  latched := fun hfail => by simp [h.failure] at hfail
  returned := fun _ _ hw _ => .inl hw

theorem AuditTrail.Cut.contextErr (h : cancelled.Cut trail) {context : Context}
    (hends : endsWith context = true) : (trail.contextErr context).isSome := by
  rw [AuditTrail.contextErr, if_pos hends]
  exact h.ended

theorem AuditTrail.Cut.begin {actor : Option Nat}
    (h : cancelled.Cut trail) (hidle : trail.pending actor = none) (context : Context)
    (entry : AuditRecord) : cancelled.Cut (trail.begin actor context entry) := by
  refine ⟨h.ended, ?_, h.latched, ?_⟩
  · intro other write hwrite hends hr
    by_cases hsame : other = actor
    · subst hsame
      cases (pending_begin_self ..).symm.trans hwrite
      have hrefused := isSome_begin_of_ended trail.store (h.contextErr hends)
      rw [Option.isSome_iff_ne_none] at hrefused
      exact absurd hr hrefused
    · rw [pending_begin_of_ne _ _ hsame] at hwrite
      exact h.admitted other write hwrite hends hr
  · intro other write hwrite hends
    refine (h.returned other write hwrite hends).imp_left fun hp => ?_
    have hsame : other ≠ actor := by
      intro hsame
      rw [hsame, hidle] at hp
      cases hp
    rw [pending_begin_of_ne _ _ hsame]
    exact hp

theorem isSome_failure_answer {write : PendingWrite} {storeErr : Option String}
    (h : trail.store.failure.isSome) : (trail.answer write storeErr).2.failure.isSome := by
  unfold AuditTrail.answer
  split
  · exact h
  · exact isSome_failure_of_finish _ _ _ h

theorem latched_of_answer {write : PendingWrite} {storeErr : Option String}
    (h : (trail.answer write storeErr).2.failure.isSome) :
    trail.store.failure.isSome ∨ (endsWith write.context = true ∧ write.refusal = none) := by
  cases hr : write.refusal with
  | some refusal =>
    rw [AuditTrail.answer, hr] at h
    exact .inl h
  | none =>
    cases hends : endsWith write.context with
    | true => exact .inr ⟨rfl, rfl⟩
    | false =>
      rw [AuditTrail.answer, hr, AuditTrail.contextErr, hends] at h
      exact .inl h

theorem AuditTrail.Cut.finish {author : Option Nat}
    {finished : PendingWrite} {met : Surroundings} (h : cancelled.Cut trail)
    (hclear : cancelled.Clear) (hpending : trail.pending author = some finished) :
    cancelled.Cut (trail.finish spool codec author finished met) := by
  refine ⟨h.ended, ?_, ?_, ?_⟩
  · intro actor write hwrite
    have hsame : actor ≠ author := by
      intro hsame
      rw [hsame, pending_finish_self] at hwrite
      cases hwrite
    rw [pending_finish_of_ne _ _ hsame] at hwrite
    exact h.admitted actor write hwrite
  · intro hfail
    cases latched_of_answer hfail with
    | inl hbefore => exact h.latched hbefore
    | inr ha => exact h.admitted author finished hpending ha.1 ha.2
  · intro actor write hwrite hends
    cases h.returned actor write hwrite hends with
    | inr hfail => exact .inr (isSome_failure_answer hfail)
    | inl hwas =>
      by_cases hsame : actor = author
      · subst hsame
        cases hpending.symm.trans hwas
        refine .inr ?_
        show (trail.answer finished met.storeErr).2.failure.isSome
        rw [AuditTrail.answer, hclear.admitted actor finished hwrite]
        exact isSome_failure_finish _ (h.contextErr hends) _
      · rw [pending_finish_of_ne _ _ hsame]
        exact .inl hwas

theorem AuditTrail.Cut.answers (h : cancelled.Cut trail) (hclear : cancelled.Clear)
    (hanswer : trail.Answers spool codec event next) : cancelled.Cut next := by
  cases hanswer with
  | record met hp hprompt => exact h.finish hclear hp
  | cancel author =>
    exact ⟨by simp, h.admitted, h.latched, h.returned⟩
  | _ => exact h

def AuditedRun.cancel (run : AuditedRun) (error : ContextError) : AuditedRun :=
  { run with trail := { run.trail with ended := some error } }

section

variable {cancelled : AuditedRun} {error : ContextError}
  (h : AuditedRun.Reaches spool codec executor (cancelled.cancel error) occs run)
  (hclear : cancelled.trail.Clear)
include h hclear

theorem AuditedRun.Reaches.cut : cancelled.trail.Cut run.trail := by
  induction h with
  | refl => exact hclear.cut error
  | step h hstep ih =>
    cases hstep with
    | begin hw hidle => exact ih.begin hidle _ _
    | cancel error hlive =>
      have hended := ih.ended
      rw [hlive] at hended
      cases hended
    | exchange hstep ha => exact ih.answers hclear ha

theorem AuditedRun.Reaches.looks_ended :
    ∀ found ∈ looks (view none (historyOf occs)), found.isSome := by
  induction h with
  | refl => exact fun found hf => nomatch hf
  | @step _ occurrence run _ h hstep ih =>
    intro found hf
    rw [historyOf_append, view_append, looks_append] at hf
    refine (mem_append.mp hf).elim (ih found) fun hlast => ?_
    cases hstep with
    | @exchange event _ _ hstep ha =>
      obtain ⟨exchange, he, hlooks⟩ := mem_filterMap.mp hlast
      have hmem := mem_view.mp he
      cases mem_singleton.mp hmem
      cases ha with
      | look author =>
        cases hlooks
        exact (h.cut hclear).ended
      | other hu =>
        obtain ⟨request, reply⟩ := exchange
        cases request with
        | contextErr context =>
          cases context with
          | execution => exact hu.elim
          | _ => cases hlooks
        | _ => cases hlooks
      | _ => cases hlooks
    | _ => cases hlast

end

def FinishedWrite.Journalled (codec : Codec) (write : FinishedWrite) : Prop :=
  ∃ error line, write.primaryErr = some error ∧
    codec.marshal (spoolRecord (recordOf write.entry) error write.surroundings.env.time) =
      .ok line ∧
    write.disk.journal = write.surroundings.disk.journal ++ (line ++ [newline])

def FinishedWrite.Kept (codec : Codec) (write : FinishedWrite) : Prop :=
  write.accepted = true ∨ write.Journalled codec

def SpoolTakes (spool : Option SpoolWriter) (codec : Codec) (write : FinishedWrite) : Prop :=
  ∃ writer error line, spool = some writer ∧ write.primaryErr = some error ∧
    codec.marshal (spoolRecord (recordOf write.entry) error write.surroundings.env.time) =
      .ok line ∧
    writer.Takes write.surroundings.env (line ++ [newline]) write.surroundings.disk

theorem disk_record {writer : SpoolWriter} {env : AppendEnvironment} (record : Record)
    (error : String) (disk : Disk) (stats : SpoolStats) :
    (writer.record codec env record (some error) disk stats).disk =
      (writer.append codec env (spoolRecord record error env.time) disk stats).disk := by
  unfold SpoolWriter.record
  dsimp only
  split <;> rfl

theorem journalled_finished_iff (trail : AuditTrail) (write : PendingWrite) (met : Surroundings) :
    (trail.finished spool codec write met).Journalled codec ↔
      SpoolTakes spool codec (trail.finished spool codec write met) := by
  cases spool with
  | none =>
    constructor
    · rintro ⟨error, line, _, _, hjournal⟩
      exact absurd hjournal (met.disk.grows_refl.journal_ne line)
    · rintro ⟨writer, error, line, hspool, _⟩
      cases hspool
  | some writer =>
    have hdisk : ∀ error, (trail.answer write met.storeErr).1 = some error →
        (trail.finished (some writer) codec write met).disk =
          (writer.append codec met.env (spoolRecord (recordOf write.entry) error met.env.time)
            met.disk trail.stats).disk := by
      intro error herr
      rw [← disk_record, ← herr]
      rfl
    constructor
    · rintro ⟨error, line, herr, hline, hjournal⟩
      rw [hdisk error herr] at hjournal
      exact ⟨writer, error, line, rfl, herr, hline,
        (append_whole_iff met.disk trail.stats hline).mp hjournal⟩
    · rintro ⟨other, error, line, hspool, herr, hline, htakes⟩
      cases hspool
      refine ⟨error, line, herr, hline, ?_⟩
      rw [hdisk error herr]
      exact (append_whole_iff met.disk trail.stats hline).mpr htakes

theorem not_waits_of_returned {execution : ExecutionMachine} {request : Request}
    {actor : Option Nat} (hdone : (returned execution).isSome)
    (hidle : ∀ slot, execution.threads slot = none) : ¬ Waits execution request actor := by
  intro hw
  cases actor with
  | none =>
    obtain ⟨next, hm⟩ := hw
    simp [returned, hm] at hdone
  | some slot =>
    obtain ⟨next, ht⟩ := hw
    rw [hidle slot] at ht
    cases ht

section

variable (hended : ∀ front mid, AuditedRun.Reaches spool codec executor start front mid →
  mid.trail.ended.isSome)
include hended

theorem AuditedRun.Reaches.last_exchange {exchange : Exchange Reply}
    (h : AuditedRun.Reaches spool codec executor start occs run)
    (hdone : (returned run.execution).isSome) (hidle : ∀ slot, run.execution.threads slot = none)
    (hlast : (view none (historyOf occs)).getLast? = some exchange) :
    ∃ front mid, occs = front ++ [.exchanged ⟨none, exchange⟩] ∧
      AuditedRun.Reaches spool codec executor start front mid ∧
      AuditedRun.Step spool codec executor mid (.exchanged ⟨none, exchange⟩) run := by
  cases h with
  | refl => cases hlast
  | @step front _ mid _ h hstep =>
    cases hstep with
    | begin hw hwas => exact absurd hw (not_waits_of_returned hdone hidle)
    | cancel error hlive =>
      have hsome := hended front mid h
      rw [hlive] at hsome
      cases hsome
    | @exchange event execution trail hmachine hanswer =>
      obtain ⟨actor, last⟩ := event
      cases actor with
      | some slot => exact absurd (hidle slot) (threads_ne_none_of_step hmachine rfl)
      | none =>
        have hview : view none (historyOf (front ++ [.exchanged ⟨none, last⟩])) =
            view none (historyOf front) ++ [last] := by
          rw [historyOf_append, view_append]
          rfl
        rw [hview, getLast?_concat] at hlast
        cases hlast
        exact ⟨front, mid, rfl, h, .exchange hmachine hanswer⟩

theorem AuditedRun.Reaches.last_begin {write : PendingWrite}
    (h : AuditedRun.Reaches spool codec executor start occs run)
    (hsome : occs ≠ []) (hidle : ∀ slot, run.execution.threads slot = none)
    (hattended : ∀ front mid, AuditedRun.Reaches spool codec executor start front mid →
      mid.Attended) (hpending : run.trail.pending none = some write) :
    ∃ front mid, AuditedRun.Reaches spool codec executor start front mid ∧
      mid.trail.pending none = none ∧ mid.execution = run.execution ∧
      run.trail = mid.trail.begin none write.context write.entry := by
  cases h with
  | refl => exact absurd rfl hsome
  | @step front _ mid _ h hstep =>
    cases hstep with
    | @begin actor context entry hwaits hwas =>
      cases actor with
      | some slot =>
        obtain ⟨next, ht⟩ := hwaits
        cases (hidle slot).symm.trans ht
      | none =>
        cases (pending_begin_self ..).symm.trans hpending
        exact ⟨front, mid, h, hwas, rfl, rfl⟩
    | cancel error hlive =>
      have hsome := hended front mid h
      rw [hlive] at hsome
      cases hsome
    | @exchange event execution trail hm ha =>
      obtain ⟨hwas, hanother⟩ := pending_of_answers ha hpending
      cases hactor : event.actor with
      | some slot => exact absurd (hidle slot) (threads_ne_none_of_step hm hactor)
      | none =>
        have hwaits := hattended front mid h none write hwas
        exact absurd ⟨hactor, request_of_step hm hactor hwaits⟩ hanother

end

theorem failure_isSome_iff (hcut : cancelled.Cut run.trail) (hattended : run.Attended)
    (hidle : ∀ slot, run.execution.threads slot = none) (hwas : run.trail.pending none = none) :
    run.trail.store.failure.isSome ↔ cancelled.InFlight := by
  constructor
  · exact hcut.latched
  · rintro ⟨actor, write, hw, hends⟩
    refine (hcut.returned actor write hw hends).resolve_left fun hp => ?_
    cases actor with
    | none => cases hwas.symm.trans hp
    | some slot =>
      obtain ⟨next, ht⟩ := hattended (some slot) write hp
      cases (hidle slot).symm.trans ht

section

variable {cancelled : AuditedRun} {before after : List Occurrence} {error : ContextError}
  (hbefore : AuditedRun.Reaches spool codec executor ⟨Execution.start executor input, {}⟩
    before cancelled)
  (hlive : cancelled.trail.ended = none)
  (hafter : AuditedRun.Reaches spool codec executor (cancelled.cancel error) after run)
include hbefore hlive

theorem reaches_cancel : AuditedRun.Reaches spool codec executor
    ⟨Execution.start executor input, {}⟩ (before ++ [.cancelled]) (cancelled.cancel error) :=
  .step hbefore (.cancel error hlive)

include hafter

theorem executes_of_cancelled :
    Executes executor input (historyOf before ++ historyOf after) run.execution := by
  have h := ((reaches_cancel hbefore hlive).trans hafter).reaches
  rw [historyOf_append, historyOf_append] at h
  change Effects.Reaches _ _ (historyOf before ++ [] ++ historyOf after) _ at h
  rwa [append_nil] at h

theorem last_write_kept_iff {entry : AuditRecord} {timeout : Data.Duration}
    {reply : Option String} (hdone : (returned run.execution).isSome)
    (hidle : ∀ slot, run.execution.threads slot = none)
    (hlooks : looks (view none (historyOf after)) ≠ [])
    (hlast : (view none (historyOf after)).getLast? =
      some ⟨.record (.detached .execution timeout) entry, reply⟩) :
    ∃ write, run.trail.writes.getLast? = some write ∧ write.entry = entry ∧
      (write.Kept codec ↔ ¬ cancelled.trail.InFlight ∨ SpoolTakes spool codec write) := by
  have hclear := hbefore.clear hlive
  obtain ⟨front, mid, rfl, hfront, hstep⟩ := hafter.last_exchange
    (fun _ _ h => (h.cut hclear).ended) hdone hidle hlast
  cases hstep with
  | exchange hm ha =>
    obtain ⟨write, met, hpending, hcontext, hentry, hprompt, rfl⟩ := ha.record_inv
    dsimp only at hidle
    rw [threads_of_record hm] at hidle
    have hsome : front ≠ [] := by
      rintro rfl
      exact hlooks rfl
    obtain ⟨earlier, began, hbegan, hwas, he, htrail⟩ := hfront.last_begin
      (fun _ _ h => (h.cut hclear).ended) hsome hidle
      (fun _ _ h => ((reaches_cancel hbefore hlive).trans h).attended) hpending
    have hl := failure_isSome_iff (hbegan.cut hclear)
      ((reaches_cancel hbefore hlive).trans hbegan).attended (he ▸ hidle) hwas
    have hr : write.refusal = began.trail.store.failure := by
      rw [htrail, pending_begin_self, Option.some.injEq, hcontext] at hpending
      rw [← hpending]
      exact begin_of_live _
    refine ⟨mid.trail.finished spool codec write met, getLast?_concat, hentry, ?_⟩
    refine or_congr ?_ (journalled_finished_iff mid.trail write met)
    show (write.refusal.isNone && met.storeErr.isNone) = true ↔ _
    rw [hprompt rfl, hr, ← hl]
    cases began.trail.store.failure <;> simp

end

end

def executionWrite (write : FinishedWrite) : Option (Phase × Bool) :=
  match write.entry with
  | .execution entry => some (entry.phase, write.accepted)
  | _ => none

noncomputable def rackCodec : Codec :=
  soleCodec (spoolRecord ⟨.powerEvent, { eventID := "event" }⟩ "" 0)

noncomputable def rackRun (turns : Nat) : List Occurrence × AuditedRun :=
  AuditedRun.play (shutdownAuditWriter {}) rackCodec { runner := true } (failingReply []) turns
    ⟨Execution.start { runner := true } hookedInput, {}⟩

noncomputable def rackCancelled (turns : Nat) : List Occurrence × AuditedRun :=
  AuditedRun.play (shutdownAuditWriter {}) rackCodec { runner := true } (failingReply []) 20
    ((rackRun turns).2.cancel .canceled)

theorem reaches_rackRun (turns : Nat) :
    AuditedRun.Reaches (shutdownAuditWriter {}) rackCodec { runner := true }
      ⟨Execution.start { runner := true } hookedInput, {}⟩ (rackRun turns).1 (rackRun turns).2 :=
  AuditedRun.reaches_play .refl turns

theorem reaches_rackCancelled {turns : Nat} (hlive : (rackRun turns).2.trail.ended = none) :
    AuditedRun.Reaches (shutdownAuditWriter {}) rackCodec { runner := true }
      ((rackRun turns).2.cancel .canceled) (rackCancelled turns).1 (rackCancelled turns).2 :=
  AuditedRun.reaches_play (reaches_cancel (reaches_rackRun turns) hlive) 20

/-- For every moment at which an execution is cancelled before it last looks at its
context: its last write is the Aborted record of the execution, and that record is
accepted by the store or is in the journal exactly if no write was under way at that
moment, or there is a journal that takes the line. -/
theorem aborted_record_kept_iff {spool : AuditSpoolConfig} {codec : Codec}
    {executor : Executor} {input : Input} {cancelled run : AuditedRun}
    {before after : List Occurrence} {error : ContextError}
    (hbefore : AuditedRun.Reaches (shutdownAuditWriter spool) codec executor
      ⟨Execution.start executor input, {}⟩ before cancelled)
    (hlive : cancelled.trail.ended = none)
    (hafter : AuditedRun.Reaches (shutdownAuditWriter spool) codec executor
      (cancelled.cancel error) after run)
    (hdone : (returned run.execution).isSome) (hlook : looks (view none (historyOf after)) ≠ []) :
    ∃ executionID entry write,
      RecordsRunning executionID (view none (historyOf before ++ historyOf after)) ∧
      entry.executionID = executionID ∧ entry.phase = .aborted ∧
      run.trail.writes.getLast? = some write ∧ write.entry = .execution entry ∧
      (write.Kept codec ↔
        ¬ cancelled.trail.InFlight ∨ SpoolTakes (shutdownAuditWriter spool) codec write) := by
  have he := executes_of_cancelled hbefore hlive hafter
  obtain ⟨outcome, hr⟩ := Option.isSome_iff_exists.mp hdone
  have hidle : ∀ slot, run.execution.threads slot = none := fun slot =>
    he.thread_eq_none (he.received_all hr).mem_iff.mp
  have hruns : Runs (executor.execute input)
      (view none (historyOf before ++ historyOf after)) outcome :=
    Follows.runs (main_of_returned hr ▸ Effects.Reaches.follows_main he)
  have hf := getLast?_eq_getLast_of_ne_nil hlook
  obtain ⟨ended, hended⟩ := Option.isSome_iff_exists.mp
    (hafter.looks_ended (hbefore.clear hlive) _ (getLast_mem hlook))
  have hlooks : (looks (view none (historyOf before ++ historyOf after))).getLast? =
      some (some ended) := by
    rw [view_append, looks_append, getLast?_append, hf, hended]
    rfl
  obtain ⟨executionID, hrunning, front, _, completedAt, entry, reply, hphase, hid, htrace⟩ :=
    endsAborted_execute hruns hlooks
  have hlast : (view none (historyOf after)).getLast? =
      some ⟨.record (.detached .execution Data.nanosPerSecond) (.execution entry), reply⟩ := by
    have hsome : view none (historyOf after) ≠ [] := fun hnil => hlook (congrArg looks hnil)
    have hends := congrArg getLast? htrace
    rw [view_append, getLast?_append, getLast?_append, getLast?_eq_getLast_of_ne_nil hsome] at hends
    rw [getLast?_eq_getLast_of_ne_nil hsome]
    exact hends
  obtain ⟨write, hw, hentry, hkept⟩ :=
    last_write_kept_iff hbefore hlive hafter hdone hidle hlook hlast
  exact ⟨executionID, entry, write, hrunning, hid, hphase, hw, hentry, hkept⟩

/-- Cancelled just after its Running record: the store takes the Aborted one. -/
theorem aborted_record_kept_after_running :
    (rackRun 2).2.trail.ended = none ∧ (returned (rackCancelled 2).2.execution).isSome ∧
      (rackCancelled 2).2.trail.writes.filterMap executionWrite =
        [(.running, true), (.aborted, true)] ∧
      ∃ executionID entry write,
        RecordsRunning executionID
          (view none (historyOf (rackRun 2).1 ++ historyOf (rackCancelled 2).1)) ∧
        entry.executionID = executionID ∧ entry.phase = .aborted ∧
        (rackCancelled 2).2.trail.writes.getLast? = some write ∧
        write.entry = .execution entry ∧
        (write.Kept rackCodec ↔
          ¬ (rackRun 2).2.trail.InFlight ∨ SpoolTakes (shutdownAuditWriter {}) rackCodec write) :=
  ⟨rfl, by decide, by decide, aborted_record_kept_iff (reaches_rackRun 2) rfl
    (reaches_rackCancelled rfl) (by decide) (by decide)⟩

/-- The execution is cancelled while its Running record is being written. The store
takes that record, and the latch refuses the Aborted one. -/
theorem latch_refuses_aborted_record :
    AuditedRun.Reaches (shutdownAuditWriter {}) rackCodec { runner := true }
        ⟨Execution.start { runner := true } hookedInput, {}⟩ (rackRun 1).1 (rackRun 1).2 ∧
      (rackRun 1).2.trail.ended = none ∧
      AuditedRun.Reaches (shutdownAuditWriter {}) rackCodec { runner := true }
        ((rackRun 1).2.cancel .canceled) (rackCancelled 1).1 (rackCancelled 1).2 ∧
      (returned (rackCancelled 1).2.execution).isSome ∧
      (rackCancelled 1).2.trail.writes.filterMap executionWrite =
        [(.running, true), (.aborted, false)] ∧
      ∀ write ∈ (rackCancelled 1).2.trail.writes, ¬ write.Journalled rackCodec := by
  have hr := reaches_rackCancelled (rfl : (rackRun 1).2.trail.ended = none)
  refine ⟨reaches_rackRun 1, rfl, hr, by decide, by decide, ?_⟩
  rintro write hw ⟨error, line, _, _, hj⟩
  rw [AuditedRun.Reaches.disk_eq hr rfl write hw] at hj
  exact (write.surroundings.disk.grows_refl.journal_ne line) hj

end NutOperator.Controller
