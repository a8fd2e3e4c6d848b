import NutOperator.Audit.Records
import NutOperator.Data.Lines

/-! The local journal of the audit trail. A record that the primary writer refuses
is appended as one JSON line, unless the journal is at its cap. -/
namespace NutOperator.Audit

open Data Execution

abbrev Bytes := List UInt8

def newline : UInt8 := 10

def carriageReturn : UInt8 := 13

def closingBrace : UInt8 := 125

structure SpoolRecord where
  (kind key : String)
  spooledAt : Time
  primaryError : String
  payload : Record

/-- A journal line as a replay reads it, with its payload still encoded. -/
structure SpoolReplayRecord where
  (kind key : String)
  payload : Bytes

inductive Torn (marshal : SpoolRecord → Except String Bytes) : Bytes → Prop where
  | nil : Torn marshal []
  | append {torn piece line : Bytes} {entry : SpoolRecord} (htorn : Torn marshal torn)
      (hline : marshal entry = .ok line) (hpiece : piece <+: line) : Torn marshal (torn ++ piece)

/-- JSON, as far as the journal depends on it: an encoded object is one line that
ends with its brace and is read back as it was, and nothing is read from a line
that starts inside another object. -/
structure Codec where
  marshal : SpoolRecord → Except String Bytes
  unmarshal : Bytes → Option SpoolReplayRecord
  unmarshalPayload : (kind : Kind) → Bytes → Option kind.Payload
  newline_not_mem : ∀ {entry line}, marshal entry = .ok line → newline ∉ line
  getLast_marshal : ∀ {entry line}, marshal entry = .ok line → line.getLast? = some closingBrace
  unmarshal_marshal : ∀ {entry line}, marshal entry = .ok line →
    ∃ raw, unmarshal line = some ⟨entry.kind, entry.key, raw⟩ ∧
      ∀ payload, unmarshalPayload entry.payload.1 raw = some payload → payload = entry.payload.2
  unmarshal_torn : ∀ {torn entry line}, Torn marshal torn → torn ≠ [] →
    marshal entry = .ok line → unmarshal (torn ++ line) = none

/-- The files at the journal's path. An inode keeps its content after its name is
removed. -/
structure Disk where
  path : Option Nat := none
  content : Nat → Bytes := fun _ => []
  modTime : Nat → Time := fun _ => 0

def Disk.journal (disk : Disk) : Bytes := (disk.path.map disk.content).getD []

def Disk.openAppend (disk : Disk) (inode : Nat) (time : Time) : Nat × Disk :=
  match disk.path with
  | some existing => (existing, disk)
  | none =>
    (inode,
      { path := some inode, content := Function.update disk.content inode []
        modTime := Function.update disk.modTime inode time })

def Disk.extend (disk : Disk) (inode : Nat) (part : Bytes) (time : Time) : Disk :=
  { disk with
    content := Function.update disk.content inode (disk.content inode ++ part)
    modTime := Function.update disk.modTime inode time }

inductive WriteOutcome where
  | complete
  | failed (written : Nat) (error : String)

def WriteOutcome.part (line : Bytes) : WriteOutcome → Bytes
  | .complete => line
  | .failed written _ => line.take written

def WriteOutcome.err : WriteOutcome → Option String
  | .complete => none
  | .failed _ error => some error

/-- What the context, the clock and the file system answer during one append. -/
structure AppendEnvironment where
  contextErr : Option String := none
  lockedContextErr : Option String := none
  (mkdirErr openErr : Option String := none)
  inode : Nat := 0
  statErr : Option String := none
  write : WriteOutcome := .complete
  (syncErr closeErr : Option String := none)
  time : Time := 0

structure SpoolWriter where
  directory : String
  fileName : String := "audit-spool.jsonl"
  disableSync : Bool := false
  /-- `0` leaves the journal unbounded. -/
  maxBytes : Nat := 0

def SpoolWriter.path (writer : SpoolWriter) : String := s!"{writer.directory}/{writer.fileName}"

structure SpoolStats where
  fallbackWrites : Nat := 0
  (lastPrimaryError lastSpoolPath : String := "")
  (droppedWrites journalBytes : Nat := 0)

structure Appended where
  error : Option String
  disk : Disk
  stats : SpoolStats

def SpoolWriter.appendLine (writer : SpoolWriter) (env : AppendEnvironment) (line : Bytes)
    (primaryError : String) (inode : Nat) (disk : Disk) (stats : SpoolStats) : Appended :=
  let size := (disk.content inode).length
  if 0 < writer.maxBytes ∧ writer.maxBytes < size + line.length then
    { error := env.closeErr.map ("close audit spool file: " ++ ·), disk := disk
      stats := { stats with
        droppedWrites := stats.droppedWrites + 1, journalBytes := size
        lastSpoolPath := writer.path } }
  else
    let syncErr := if env.write.err.isNone && !writer.disableSync then env.syncErr else none
    let written := disk.extend inode (env.write.part line) env.time
    match joinErrors (joinErrors env.write.err syncErr) env.closeErr with
    | some error =>
      { error := some s!"append audit spool record: {error}", disk := written, stats := stats }
    | none =>
      { error := none, disk := written, stats := { stats with
          fallbackWrites := stats.fallbackWrites + 1, lastPrimaryError := primaryError
          lastSpoolPath := writer.path, journalBytes := size + line.length } }

/-- Appends one record. Writers of all instances take the same lock, so an append
is one step for the journal. -/
def SpoolWriter.append (writer : SpoolWriter) (codec : Codec) (env : AppendEnvironment)
    (entry : SpoolRecord) (disk : Disk) (stats : SpoolStats) : Appended :=
  match env.contextErr with
  | some error => { error := some error, disk := disk, stats := stats }
  | none =>
  match codec.marshal entry with
  | .error error =>
    { error := some s!"encode audit spool record: {error}", disk := disk, stats := stats }
  | .ok encoded =>
  match env.lockedContextErr with
  | some error => { error := some error, disk := disk, stats := stats }
  | none =>
  match env.mkdirErr with
  | some error =>
    { error := some s!"create audit spool directory: {error}", disk := disk, stats := stats }
  | none =>
  match env.openErr with
  | some error =>
    { error := some s!"open audit spool file: {error}", disk := disk, stats := stats }
  | none =>
  let (inode, opened) := disk.openAppend env.inode env.time
  match env.statErr with
  | some error =>
    let failure := (joinErrors (some error) env.closeErr).getD ""
    { error := some s!"stat audit spool file: {failure}", disk := opened, stats := stats }
  | none =>
    writer.appendLine env (encoded ++ [newline]) entry.primaryError inode opened stats

def spoolRecord (record : Record) (primaryError : String) (now : Time) : SpoolRecord :=
  { kind := record.1.name, key := record.1.key record.2, spooledAt := now
    primaryError := primaryError, payload := record }

/-- The journal keeps its file and has `part` added at its end. -/
structure Disk.Grows (disk : Disk) (part : Bytes) (later : Disk) : Prop where
  journal : later.journal = disk.journal ++ part
  path : ∀ inode, disk.path = some inode → later.path = some inode

theorem Disk.journal_of_path {disk : Disk} {inode : Nat} (h : disk.path = some inode) :
    disk.journal = disk.content inode := by
  simp [Disk.journal, h]

theorem Disk.grows_refl (disk : Disk) : disk.Grows [] disk :=
  ⟨(List.append_nil _).symm, fun _ h => h⟩

theorem Disk.grows_openAppend (disk : Disk) (inode : Nat) (time : Time) :
    disk.Grows [] (disk.openAppend inode time).2 ∧
      (disk.openAppend inode time).2.path = some (disk.openAppend inode time).1 := by
  unfold Disk.openAppend
  split
  · rename_i existing hpath
    exact ⟨disk.grows_refl, hpath⟩
  · rename_i hpath
    refine ⟨⟨by simp [Disk.journal, hpath], ?_⟩, rfl⟩
    intro other ho
    rw [hpath] at ho
    cases ho

theorem Disk.Grows.extend {disk opened : Disk} {inode : Nat} (h : disk.Grows [] opened)
    (hpath : opened.path = some inode) (part : Bytes) (time : Time) :
    disk.Grows part (opened.extend inode part time) := by
  refine ⟨?_, h.path⟩
  have hj : opened.content inode = disk.journal := by
    rw [← Disk.journal_of_path hpath, h.journal, List.append_nil]
  simp [Disk.journal, Disk.extend, hpath, hj]

theorem WriteOutcome.part_prefix (line : Bytes) (out : WriteOutcome) : out.part line <+: line := by
  cases out with
  | complete => exact List.prefix_rfl
  | failed written err => exact List.take_prefix _ _

inductive AppendEffect (writer : SpoolWriter) (codec : Codec) (entry : SpoolRecord) (disk : Disk)
    (stats : SpoolStats) (result : Appended) : Prop where
  /-- It failed before it wrote anything. -/
  | failed (hdisk : disk.Grows [] result.disk) (herror : result.error ≠ none)
      (hstats : result.stats.droppedWrites = stats.droppedWrites)
  /-- The journal is at its cap. -/
  | refused (hdisk : disk.Grows [] result.disk)
      (hstats : result.stats.droppedWrites = stats.droppedWrites + 1)
  /-- The line, or a part of it, is in the journal. -/
  | wrote {line part : Bytes} (hline : codec.marshal entry = .ok line)
      (hpart : part <+: line ++ [newline])
      (hroom : 0 < writer.maxBytes →
        disk.journal.length + (line ++ [newline]).length ≤ writer.maxBytes)
      (hdisk : disk.Grows part result.disk)
      (hstats : result.stats.droppedWrites = stats.droppedWrites)
      (hcomplete : result.error = none → part = line ++ [newline])

theorem appendLine_effect {writer : SpoolWriter} {codec : Codec} {env : AppendEnvironment}
    {entry : SpoolRecord} {encoded : Bytes} {disk opened : Disk} {inode : Nat} (stats : SpoolStats)
    (hencoded : codec.marshal entry = .ok encoded) (hopened : disk.Grows [] opened)
    (hpath : opened.path = some inode) :
    AppendEffect writer codec entry disk stats
      (writer.appendLine env (encoded ++ [newline]) entry.primaryError inode opened stats) := by
  have hsize : opened.content inode = disk.journal := by
    rw [← Disk.journal_of_path hpath, hopened.journal, List.append_nil]
  unfold SpoolWriter.appendLine
  dsimp only
  rw [hsize]
  split
  · exact .refused hopened rfl
  · rename_i hroom
    have hroom : 0 < writer.maxBytes →
        disk.journal.length + (encoded ++ [newline]).length ≤ writer.maxBytes := by
      intro hpos
      exact not_lt.mp fun hover => hroom ⟨hpos, hover⟩
    have he := hopened.extend hpath (env.write.part (encoded ++ [newline])) env.time
    split
    · exact .wrote hencoded (env.write.part_prefix _) hroom he rfl fun h => by cases h
    · rename_i hclean
      refine .wrote hencoded (env.write.part_prefix _) hroom he rfl fun _ => ?_
      cases hw : env.write with
      | complete => rfl
      | failed written err =>
        rw [hw] at hclean
        cases hclose : env.closeErr <;>
          simp [WriteOutcome.err, joinErrors, hclose] at hclean

theorem append_effect (writer : SpoolWriter) (codec : Codec) (env : AppendEnvironment)
    (entry : SpoolRecord) (disk : Disk) (stats : SpoolStats) :
    AppendEffect writer codec entry disk stats (writer.append codec env entry disk stats) := by
  unfold SpoolWriter.append
  split
  · exact .failed disk.grows_refl (Option.some_ne_none _) rfl
  split
  · exact .failed disk.grows_refl (Option.some_ne_none _) rfl
  rename_i encoded hencoded
  split
  · exact .failed disk.grows_refl (Option.some_ne_none _) rfl
  split
  · exact .failed disk.grows_refl (Option.some_ne_none _) rfl
  split
  · exact .failed disk.grows_refl (Option.some_ne_none _) rfl
  obtain ⟨ho, hpath⟩ := disk.grows_openAppend env.inode env.time
  dsimp only
  split
  · exact .failed ho (Option.some_ne_none _) rfl
  · exact appendLine_effect stats hencoded ho hpath

end NutOperator.Audit
