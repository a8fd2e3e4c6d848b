import NutOperator.Audit.Spool
import NutOperator.Execution.Types

/-! The audit writer of a worker run. Every operation of its store is bounded, and
the first one that outlives its context refuses all later ones; behind the store
stands the journal, if the cluster has one. -/
namespace NutOperator.Audit

open Execution

structure BoundedStore where
  failure : Option String := none
deriving Repr, DecidableEq

/-- Why an operation is refused before the store is asked. -/
def BoundedStore.begin (store : BoundedStore) (contextErr : Option ContextError) : Option String :=
  match store.failure with
  | some failure => some failure
  | none => contextErr.map ContextError.text

def BoundedStore.finish (store : BoundedStore) (contextErr : Option ContextError)
    (err : Option String) : Option String × BoundedStore :=
  match contextErr with
  | none => (err, store)
  | some ended =>
    let joined := joinErrors err (some ended.text)
    match store.failure with
    | some _ => (joined, store)
    | none =>
      let reached := joined.getD ""
      (joined, { failure := some s!"audit I/O deadline or cancellation reached: {reached}" })

def SpoolWriter.record (writer : SpoolWriter) (codec : Codec) (env : AppendEnvironment)
    (record : Record) (primaryErr : Option String) (disk : Disk) (stats : SpoolStats) : Appended :=
  match primaryErr with
  | none => { error := none, disk := disk, stats := stats }
  | some error =>
    let appended := writer.append codec env (spoolRecord record error env.time) disk stats
    match appended.error with
    | some appendErr => { appended with error := joinErrors (some error) (some appendErr) }
    | none => appended

structure AuditSpoolConfig where
  enabled : Bool := false
  path : String := ""
  maxBytes : Nat := 0
deriving Repr, DecidableEq

def shutdownAuditWriter (spool : AuditSpoolConfig) : Option SpoolWriter :=
  if spool.enabled then some { directory := spool.path, maxBytes := spool.maxBytes } else none

/-- The last layer of a write: without a spool the store's answer is the writer's. -/
def recordThrough (spool : Option SpoolWriter) (codec : Codec) (env : AppendEnvironment)
    (record : Record) (primaryErr : Option String) (disk : Disk) (stats : SpoolStats) : Appended :=
  match spool with
  | none => { error := primaryErr, disk := disk, stats := stats }
  | some writer => writer.record codec env record primaryErr disk stats

def recordOf : AuditRecord → Record
  | .execution record => ⟨.shutdownFlowExecution, record⟩
  | .wave record => ⟨.shutdownFlowExecutionWave, record⟩
  | .group record => ⟨.shutdownFlowExecutionGroup, record⟩
  | .actionAttempt record => ⟨.shutdownFlowActionAttempt, record⟩
  | .nodeRelease record => ⟨.nodeRelease, record⟩
  | .nodeSignalHandoff record => ⟨.nodeSignalHandoff, record⟩

section

variable (store : BoundedStore)

theorem begin_of_live : store.begin none = store.failure := by
  unfold BoundedStore.begin
  cases store.failure <;> rfl

theorem isSome_begin_of_ended {contextErr : Option ContextError} (h : contextErr.isSome) :
    (store.begin contextErr).isSome := by
  obtain ⟨ended, rfl⟩ := Option.isSome_iff_exists.mp h
  unfold BoundedStore.begin
  cases store.failure <;> rfl

theorem isSome_failure_finish {contextErr : Option ContextError} (h : contextErr.isSome)
    (err : Option String) : (store.finish contextErr err).2.failure.isSome := by
  obtain ⟨ended, rfl⟩ := Option.isSome_iff_exists.mp h
  cases hfail : store.failure <;> simp [BoundedStore.finish, hfail]

theorem isSome_failure_of_finish (contextErr : Option ContextError) (err : Option String)
    (h : store.failure.isSome) : (store.finish contextErr err).2.failure.isSome := by
  cases contextErr with
  | none => exact h
  | some ended => exact isSome_failure_finish store rfl err

end

structure SpoolWriter.Takes (writer : SpoolWriter) (env : AppendEnvironment) (line : Bytes)
    (disk : Disk) : Prop where
  live : env.contextErr = none ∧ env.lockedContextErr = none
  opened : env.mkdirErr = none ∧ env.openErr = none ∧ env.statErr = none
  room : 0 < writer.maxBytes → disk.journal.length + line.length ≤ writer.maxBytes
  whole : env.write.part line = line

theorem Disk.Grows.journal_ne {disk later : Disk} (h : disk.Grows [] later) (line : Bytes) :
    later.journal ≠ disk.journal ++ (line ++ [newline]) := by
  rw [h.journal]
  simp

theorem appendLine_whole_iff {writer : SpoolWriter} {env : AppendEnvironment} {line : Bytes}
    {disk opened : Disk} {inode : Nat} (primaryError : String) (stats : SpoolStats)
    (hopened : disk.Grows [] opened) (hpath : opened.path = some inode) :
    (writer.appendLine env (line ++ [newline]) primaryError inode opened stats).disk.journal =
        disk.journal ++ (line ++ [newline]) ↔
      (0 < writer.maxBytes → disk.journal.length + (line ++ [newline]).length ≤ writer.maxBytes) ∧
        env.write.part (line ++ [newline]) = line ++ [newline] := by
  have hsize : opened.content inode = disk.journal := by
    rw [← Disk.journal_of_path hpath, hopened.journal, List.append_nil]
  have hextends := (hopened.extend hpath (env.write.part (line ++ [newline])) env.time).journal
  unfold SpoolWriter.appendLine
  dsimp only
  rw [hsize]
  split
  · rename_i hover
    refine iff_of_false (hopened.journal_ne line) ?_
    intro htakes
    exact absurd (htakes.1 hover.1) (not_le.mpr hover.2)
  · rename_i hover
    have hroom : 0 < writer.maxBytes →
        disk.journal.length + (line ++ [newline]).length ≤ writer.maxBytes := by
      intro hpos
      exact not_lt.mp fun hlong => hover ⟨hpos, hlong⟩
    have hw : (opened.extend inode (env.write.part (line ++ [newline])) env.time).journal =
          disk.journal ++ (line ++ [newline]) ↔
        env.write.part (line ++ [newline]) = line ++ [newline] := by
      rw [hextends]
      exact List.append_right_inj _
    rw [and_iff_right hroom]
    split <;> exact hw

theorem append_whole_iff {writer : SpoolWriter} {codec : Codec} {env : AppendEnvironment}
    {entry : SpoolRecord} {line : Bytes} (disk : Disk) (stats : SpoolStats)
    (hline : codec.marshal entry = .ok line) :
    (writer.append codec env entry disk stats).disk.journal = disk.journal ++ (line ++ [newline]) ↔
      writer.Takes env (line ++ [newline]) disk := by
  have hunchanged : ∀ {later : Disk}, disk.Grows [] later →
    ¬ writer.Takes env (line ++ [newline]) disk →
      (later.journal = disk.journal ++ (line ++ [newline]) ↔
        writer.Takes env (line ++ [newline]) disk) :=
    fun hgrows hnot => iff_of_false (hgrows.journal_ne line) hnot
  obtain ⟨hopened, hpath⟩ := disk.grows_openAppend env.inode env.time
  unfold SpoolWriter.append
  rw [hline]
  split
  · rename_i hcontext
    exact hunchanged disk.grows_refl fun h => by simp [h.live.1] at hcontext
  rename_i hcontext
  dsimp only
  split
  · rename_i hlock
    exact hunchanged disk.grows_refl fun h => by simp [h.live.2] at hlock
  rename_i hlock
  split
  · rename_i hmkdir
    exact hunchanged disk.grows_refl fun h => by simp [h.opened.1] at hmkdir
  rename_i hmkdir
  split
  · rename_i hopen
    exact hunchanged disk.grows_refl fun h => by simp [h.opened.2.1] at hopen
  rename_i hopen
  split
  · rename_i hs
    exact hunchanged hopened fun h => by simp [h.opened.2.2] at hs
  · rename_i hs
    rw [appendLine_whole_iff entry.primaryError stats hopened hpath]
    exact ⟨fun h => ⟨⟨hcontext, hlock⟩, ⟨hmkdir, hopen, hs⟩, h.1, h.2⟩, fun h => ⟨h.room, h.whole⟩⟩

end NutOperator.Audit
