import NutOperator.Audit.Spool
import NutOperator.Planner.Text

/-! Draining the journal. A replay reads a snapshot of the journal line by line
while writers go on appending, hands what it reads to the primary writer, and
removes the journal when every line has landed and nothing was appended. -/
namespace NutOperator.Audit

open Data Execution
open Planner (quote)

structure ReplayStats where
  (read replayed skipped : Nat := 0)
deriving Repr, DecidableEq

/-- What identifies the journal that a replay has opened. -/
structure Snapshot where
  (inode size : Nat)
  modTime : Time

structure ReplayRun where
  snapshot : Snapshot
  limit : Nat
  offset : Nat := 0
  readErr : Option String := none
  stats : ReplayStats := {}
  replayErr : Option String := none

def openSpoolSnapshot (openErr statErr : Option String) (disk : Disk) :
    Except (Option String) Snapshot :=
  match disk.path with
  | none => .error none
  | some inode =>
    match openErr with
    | some error => .error (some error)
    | none =>
      match statErr with
      | some error => .error (some error)
      | none =>
        .ok
          { inode := inode, size := (disk.content inode).length
            modTime := disk.modTime inode }

/-- Removes the journal unless it was appended to or replaced since the snapshot. -/
def removeUnchangedSpool (statErr removeErr : Option String) (disk : Disk) (snapshot : Snapshot) :
    Option String × Disk :=
  match disk.path with
  | none => (none, disk)
  | some inode =>
    match statErr with
    | some error => (some error, disk)
    | none =>
      if snapshot.inode ≠ inode ∨ snapshot.size ≠ (disk.content inode).length ∨
          snapshot.modTime ≠ disk.modTime inode then (none, disk)
      else
        match removeErr with
        | some error => (some error, disk)
        | none => (none, { disk with path := none })

/-- The longest line that the scanner takes, and one more. -/
def maxLineBytes : Nat := 16 * 1024 * 1024

def dropCarriageReturn (token : Bytes) : Bytes :=
  if token.getLast? = some carriageReturn then token.dropLast else token

inductive Scanned where
  | line (token : Bytes) (consumed : Nat)
  | ended
  | failed (error : String)

/-- One step of the scanner. The last line may lack its newline, and a failed read
shows once the bytes before it are used up. -/
def scan (unread : Bytes) (readErr : Option String) : Scanned :=
  if unread = [] then
    match readErr with
    | some error => .failed error
    | none => .ended
  else
    let token := firstLine newline unread
    if maxLineBytes ≤ token.length then .failed "bufio.Scanner: token too long"
    else .line (dropCarriageReturn token) (token.length + 1)

def ReplayRun.unread (run : ReplayRun) (disk : Disk) : Bytes :=
  ((disk.content run.snapshot.inode).take run.limit).drop run.offset

def ReplayRun.scan (run : ReplayRun) (disk : Disk) : Scanned :=
  Audit.scan (run.unread disk) run.readErr

inductive Line where
  | empty
  /-- Not JSON, of an unknown kind, or with a payload that its kind does not have. -/
  | unrecognized
  | entry (key : String) (record : Record)

def Codec.replayRecord (codec : Codec) (record : SpoolReplayRecord) : Option Record := do
  let kind ← Kind.ofName record.kind
  let payload ← codec.unmarshalPayload kind record.payload
  pure ⟨kind, payload⟩

def Codec.readLine (codec : Codec) (token : Bytes) : Line :=
  if token = [] then .empty
  else
    match codec.unmarshal token with
    | none => .unrecognized
    | some line =>
      match codec.replayRecord line with
      | none => .unrecognized
      | some record => .entry line.key record

def ReplayRun.pass (run : ReplayRun) (consumed : Nat) : Line → ReplayRun
  | .empty => { run with offset := run.offset + consumed }
  | _ =>
    { run with
      offset := run.offset + consumed, stats := { run.stats with
        read := run.stats.read + 1, skipped := run.stats.skipped + 1 } }

def ReplayRun.deliver (run : ReplayRun) (consumed : Nat) (key : String) (record : Record) :
    Option String → ReplayRun
  | none =>
    { run with
      offset := run.offset + consumed, stats := { run.stats with
        read := run.stats.read + 1, replayed := run.stats.replayed + 1 } }
  | some error =>
    { run with
      offset := run.offset + consumed, stats := { run.stats with read := run.stats.read + 1 }
      replayErr := joinErrors run.replayErr
        (some s!"replay {record.1.name} {quote key}: {error}") }

def ReplayRun.conclude (run : ReplayRun) (statErr removeErr : Option String) (disk : Disk) :
    Option String × Disk :=
  match run.replayErr with
  | some error => (some error, disk)
  | none =>
    if run.stats.skipped = 0 then
      let removed := removeUnchangedSpool statErr removeErr disk run.snapshot
      (removed.1.map ("remove drained audit spool journal: " ++ ·), removed.2)
    else (none, disk)

structure Fallback where
  writer : Nat
  record : Record
  primaryError : String

/-- The journal, its writers, the replay that holds the replay lock and the
primary writer. -/
structure Spool (σ : Type) where
  disk : Disk := {}
  stats : Nat → SpoolStats := fun _ => {}
  fallbacks : List Fallback := []
  replay : Option ReplayRun := none
  primary : σ

abbrev PrimaryWriter (σ : Type) := σ → Record → Option String → σ → Prop

variable {σ : Type}

/-- How a replay starts. A second one does not wait for the first. -/
def Spool.beginReplay (s : Spool σ) (directory : String)
    (contextErr openErr statErr : Option String) : Except (Option String) ReplayRun :=
  if directory = "" then .error (some "audit spool replay requires a spool directory")
  else
    match contextErr with
    | some error => .error (some error)
    | none =>
      if s.replay.isSome then .error none
      else
        match openSpoolSnapshot openErr statErr s.disk with
        | .error none => .error none
        | .error (some error) => .error (some s!"open audit spool journal: {error}")
        | .ok snapshot => .ok { snapshot := snapshot, limit := snapshot.size }

inductive SpoolEvent where
  /-- A writer asked the primary first. -/
  | wrote (writer : Nat) (record : Record) (error : Option String)
  | appended (writer : Nat) (entry : SpoolRecord) (error : Option String)
  | opened
  | readFailed
  | passed
  /-- A replay handed a record to the primary. -/
  | delivered (record : Record) (error : Option String)
  | returned (stats : ReplayStats) (error : Option String)

inductive Spool.Step (codec : Codec) (primary : PrimaryWriter σ) (writers : Nat → SpoolWriter) :
    Spool σ → SpoolEvent → Spool σ → Prop where
  | wrote {s : Spool σ} {writer : Nat} {record : Record} {error : Option String} {next : σ}
      (hprimary : primary s.primary record error next) :
      Step codec primary writers s (.wrote writer record error)
        { s with
          primary := next
          fallbacks := s.fallbacks ++ (error.map (Fallback.mk writer record)).toList }
  | appended {s : Spool σ} {before after : List Fallback} {fallback : Fallback}
      {env : AppendEnvironment} {now : Time} {entry : SpoolRecord} {result : Appended}
      (hfallbacks : s.fallbacks = before ++ fallback :: after)
      (hentry : entry = spoolRecord fallback.record fallback.primaryError now)
      (hresult : result = (writers fallback.writer).append codec env entry s.disk
        (s.stats fallback.writer)) :
      Step codec primary writers s (.appended fallback.writer entry result.error)
        { s with
          disk := result.disk
          stats := Function.update s.stats fallback.writer result.stats
          fallbacks := before ++ after }
  | declined {s : Spool σ} {directory : String} {contextErr openErr statErr error : Option String}
      (hbegin : s.beginReplay directory contextErr openErr statErr = .error error) :
      Step codec primary writers s (.returned {} error) s
  | opened {s : Spool σ} {directory : String} {contextErr openErr statErr : Option String}
      {run : ReplayRun} (hbegin : s.beginReplay directory contextErr openErr statErr = .ok run) :
      Step codec primary writers s .opened { s with replay := some run }
  | readFailed {s : Spool σ} {run : ReplayRun} {error : String} {limit : Nat}
      (hreplay : s.replay = some run) (hlimit : limit ≤ run.limit) :
      Step codec primary writers s .readFailed
        { s with replay := some { run with limit := limit, readErr := some error } }
  | cancelled {s : Spool σ} {run : ReplayRun} {token : Bytes} {consumed : Nat} {error : String}
      (hreplay : s.replay = some run) (hscan : run.scan s.disk = .line token consumed) :
      Step codec primary writers s (.returned run.stats (some error)) { s with replay := none }
  | passed {s : Spool σ} {run : ReplayRun} {token : Bytes} {consumed : Nat}
      (hreplay : s.replay = some run) (hscan : run.scan s.disk = .line token consumed)
      (hline : ∀ key record, codec.readLine token ≠ .entry key record) :
      Step codec primary writers s .passed
        { s with replay := some (run.pass consumed (codec.readLine token)) }
  | delivered {s : Spool σ} {run : ReplayRun} {token : Bytes} {consumed : Nat} {key : String}
      {record : Record} {error : Option String} {next : σ} (hreplay : s.replay = some run)
      (hscan : run.scan s.disk = .line token consumed)
      (hline : codec.readLine token = .entry key record)
      (hprimary : primary s.primary record error next) :
      Step codec primary writers s (.delivered record error)
        { s with
          primary := next
          replay := some (run.deliver consumed key record error) }
  | failed {s : Spool σ} {run : ReplayRun} {error : String} (hreplay : s.replay = some run)
      (hscan : run.scan s.disk = .failed error) :
      Step codec primary writers s
        (.returned run.stats (some ("read audit spool journal: " ++ error)))
        { s with replay := none }
  | concluded {s : Spool σ} {run : ReplayRun} {statErr removeErr : Option String}
      (hreplay : s.replay = some run) (hscan : run.scan s.disk = .ended) :
      Step codec primary writers s (.returned run.stats (run.conclude statErr removeErr s.disk).1)
        { s with
          disk := (run.conclude statErr removeErr s.disk).2
          replay := none }

inductive Spool.Reaches (codec : Codec) (primary : PrimaryWriter σ) (writers : Nat → SpoolWriter) :
    Spool σ → List SpoolEvent → Spool σ → Prop where
  | refl (s : Spool σ) : Reaches codec primary writers s [] s
  | step {s next later : Spool σ} {event : SpoolEvent} {events : List SpoolEvent}
      (hstep : Step codec primary writers s event next)
      (hrest : Reaches codec primary writers next events later) :
      Reaches codec primary writers s (event :: events) later

end NutOperator.Audit
