import Mathlib.Data.List.AList
import NutOperator.Data.Duration
import NutOperator.Data.Sorting
import NutOperator.Data.Text
import NutOperator.Effects.Program

/-! The supervisor of the NUT drivers: one serialized loop that reads the
configuration, lists the devices, and starts, reloads and stops one foreground
process for each. Every request shows the supervisor's tables at that moment. -/
namespace NutOperator.Nutsupervisor

open Data Effects

abbrev Bytes := List UInt8

abbrev Time := Int

abbrev Digest := Bytes

abbrev Process := Nat

structure ConfigDigest where
  (ups users : Digest)
deriving Repr, DecidableEq

structure DriverWorker where
  process : Process
  config : Digest
  hasApplied : Bool
deriving Repr, DecidableEq

structure Supervisor where
  workers : AList fun _ : String => DriverWorker := ∅
  retryAfter : AList fun _ : String => Time := ∅
  applied : ConfigDigest := ⟨[], []⟩
  hasApplied : Bool := false

inductive ConfigFile where
  | upsConf
  | upsdUsers
deriving Repr, DecidableEq

inductive Command where
  | list
  | reloadUpsd
  | reloadOrExit (name : String)
deriving Repr, DecidableEq

def Command.args : Command → List String
  | .list => ["upsdrvctl", "list"]
  | .reloadUpsd => ["upsd", "-c", "reload"]
  | .reloadOrExit name => ["upsdrvctl", "-c", "reload-or-exit", name]

def startArgs (name : String) : List String := ["upsdrvctl", "-FF", "start", name]

inductive Signal where
  | term
  | kill
deriving Repr, DecidableEq

inductive Awaited where
  | cancelled
  | exited
  | elapsed
deriving Repr, DecidableEq

inductive Operation where
  | now
  | contextErr
  | readFile (file : ConfigFile)
  /-- Runs a command to its end, under a deadline of its own. -/
  | invoke (args : List String)
  /-- The order in which a map is ranged over. -/
  | range (keys : List String)
  /-- Whether the process is known to have exited. -/
  | exited (process : Process)
  | start (name : String) (args : List String)
  /-- SIGUSR1 to the leader of the driver's process. -/
  | reload (name : String) (process : Process)
  | signal (process : Process) (signal : Signal)
  | awaitExits (background : Bool) (processes : List Process)
  | joinExits (background : Bool) (processes : List Process)
  /-- Until the next reconciliation, or cancellation. -/
  | wait
deriving Repr, DecidableEq

@[reducible] def Operation.Reply : Operation → Type
  | .now => Time
  | .contextErr => Bool
  | .readFile _ => Except String Bytes
  | .invoke _ => Except String String
  | .range _ => List String
  | .exited _ => Bool
  | .start _ _ => Except String Process
  | .reload _ _ => Option String
  | .signal _ _ => Unit
  | .awaitExits _ _ => Awaited
  | .joinExits _ _ => Bool
  | .wait => Bool

structure Request where
  tables : Supervisor
  operation : Operation

@[reducible] def Reply (request : Request) : Type := request.operation.Reply

abbrev Run := Program Request Reply

abbrev Trace := List (Exchange Reply)

def ask (s : Supervisor) (operation : Operation) : Run operation.Reply :=
  Program.request (⟨s, operation⟩ : Request)

def fields (text : String) : List String :=
  ((text.toList.splitOnP isSpace).filter (· ≠ [])).map String.ofList

def outputLimit : Nat := 1048576

def readNames (output : String) : Except String (List String) :=
  if outputLimit < output.utf8ByteSize then .error "driver listing exceeded output limit"
  else if fields output = [] then .error "nonempty configuration enumerated no devices"
  else .ok (sortedUnique (fields output))

example : readNames "rack-b rack-a\nrack-b\n" = .ok ["rack-a", "rack-b"] := by decide

def signalAll (s : Supervisor) (signal : Signal) : List Process → Run Unit
  | [] => pure ()
  | process :: rest => do
    ask s (.signal process signal)
    signalAll s signal rest

/-- Whether every process has exited. A background context is never cancelled. -/
def stopProcessesContext (s : Supervisor) (background : Bool) (processes : List Process) :
    Run Bool :=
  if processes = [] then pure true
  else do
    signalAll s .term processes
    match ← ask s (.awaitExits background processes) with
    | .cancelled => pure false
    | .exited => pure true
    | .elapsed => do
      signalAll s .kill processes
      ask s (.joinExits background processes)

def Supervisor.processes (s : Supervisor) (names : List String) : List Process :=
  names.filterMap fun name => (s.workers.lookup name).map (·.process)

def Supervisor.setWorker (s : Supervisor) (name : String) (worker : DriverWorker) : Supervisor :=
  { s with workers := s.workers.insert name worker }

def stop (s : Supervisor) : Run Supervisor := do
  let order ← ask s (.range s.workers.keys)
  let _ ← stopProcessesContext s true (s.processes order)
  pure { s with workers := ∅ }

section

variable (sha256 : Bytes → Digest)

def snapshot (s : Supervisor) : Run (Except String (ConfigDigest × Bool)) := do
  match ← ask s (.readFile .upsConf) with
  | .error error => pure (.error error)
  | .ok ups => do
    match ← ask s (.readFile .upsdUsers) with
    | .error error => pure (.error error)
    | .ok users => pure (.ok (⟨sha256 ups, sha256 users⟩, ups.isEmpty))

def enumerate (s : Supervisor) (empty : Bool) : Run (Except String (List String)) :=
  if empty then pure (.ok [])
  else do
    match ← ask s (.invoke Command.list.args) with
    | .error error => pure (.error error)
    | .ok output => pure (readNames output)

def unchanged (s : Supervisor) (want : ConfigDigest) : Run Bool := do
  match ← snapshot sha256 s with
  | .error _ => pure false
  | .ok (current, _) => pure (decide (current = want))

def stillCurrent (s : Supervisor) (want : ConfigDigest) : Run Bool := do
  if ← unchanged sha256 s want then do
    let cancelled ← ask s .contextErr
    pure !cancelled
  else pure false

def retain {β : Type} (names : List String) (table : AList fun _ : String => β) :
    AList fun _ : String => β :=
  (table.keys.filter (· ∉ names)).foldl (fun kept name => kept.erase name) table

/-- A worker whose stop was cut short by cancellation stays in the table. -/
def removeAbsent (s : Supervisor) (names : List String) : Run Supervisor := do
  let order ← ask s (.range s.workers.keys)
  let s := { s with retryAfter := retain names s.retryAfter }
  if ← stopProcessesContext s false (s.processes (order.filter (· ∉ names))) then
    pure { s with workers := retain names s.workers }
  else pure s

/-- A failed reload is tried again, with SIGUSR1 to the process that is owned. -/
def reloadDriver (s : Supervisor) (name : String) (worker : DriverWorker) (digest : Digest) :
    Run Supervisor := do
  let s := s.setWorker name { worker with hasApplied := false }
  match ← ask s (.invoke (Command.reloadOrExit name).args) with
  | .error _ => do
    if ← ask s .contextErr then pure s
    else do
      let _ ← ask s (.reload name worker.process)
      pure s
  | .ok _ => do
    match ← snapshot sha256 s with
    | .error _ => pure s
    | .ok (current, _) =>
      if current.ups = digest then do
        if ← ask s .contextErr then pure s
        else pure (s.setWorker name { worker with config := digest, hasApplied := true })
      else pure s

def Supervisor.backsOff (s : Supervisor) (name : String) (time : Time) : Bool :=
  match s.retryAfter.lookup name with
  | some retryAt => decide (time < retryAt)
  | none => false

variable (interval : Duration)

def Supervisor.retryLater (s : Supervisor) (name : String) (time : Time) : Supervisor :=
  { s with retryAfter := s.retryAfter.insert name (time + interval) }

def startDriver (s : Supervisor) (name : String) (digest : Digest) : Run Supervisor := do
  let time ← ask s .now
  if s.backsOff name time then pure s
  else do
    if ← ask s .contextErr then pure s
    else do
      match ← ask s (.start name (startArgs name)) with
      | .error _ => do
        let failed ← ask s .now
        pure (s.retryLater interval name failed)
      | .ok process => pure (s.setWorker name ⟨process, digest, true⟩)

def reconcileDriver (s : Supervisor) (name : String) (digest : Digest) : Run Supervisor :=
  match s.workers.lookup name with
  | some worker =>
    if worker.hasApplied ∧ worker.config = digest then pure s
    else reloadDriver sha256 s name worker digest
  | none => startDriver interval s name digest

def reconcileDrivers (digest : ConfigDigest) : List String → Supervisor → Run Supervisor
  | [], s => pure s
  | name :: rest, s => do
    if ← ask s .contextErr then pure s
    else do
      if ← unchanged sha256 s digest then do
        let s ← reconcileDriver sha256 interval s name digest.ups
        reconcileDrivers digest rest s
      else pure s

def Supervisor.dropWorker (s : Supervisor) (name : String) : Supervisor :=
  { s with workers := s.workers.erase name }

def collectNamed : List String → Supervisor → Run Supervisor
  | [], s => pure s
  | name :: rest, s =>
    match s.workers.lookup name with
    | none => collectNamed rest s
    | some worker => do
      if ← ask s (.exited worker.process) then do
        let time ← ask s .now
        collectNamed rest ((s.retryLater interval name time).dropWorker name)
      else collectNamed rest s

def collectExits (s : Supervisor) : Run Supervisor := do
  let order ← ask s (.range s.workers.keys)
  collectNamed interval order s

def applyConfig (s : Supervisor) (digest : ConfigDigest) : Run (Bool × Supervisor) :=
  if s.hasApplied ∧ s.applied = digest then pure (true, s)
  else do
    let s := { s with hasApplied := false }
    match ← ask s (.invoke Command.reloadUpsd.args) with
    | .error _ => pure (false, s)
    | .ok _ => do
      if ← stillCurrent sha256 s digest then
        pure (true, { s with applied := digest, hasApplied := true })
      else pure (false, s)

def reconcile (s : Supervisor) : Run Supervisor := do
  let s ← collectExits interval s
  match ← snapshot sha256 s with
  | .error _ => pure s
  | .ok (digest, empty) => do
    match ← enumerate s empty with
    | .error _ => pure s
    | .ok names => do
      if ← stillCurrent sha256 s digest then do
        let (applied, s) ← applyConfig sha256 s digest
        if applied then do
          let s ← removeAbsent s names
          reconcileDrivers sha256 interval digest names s
        else pure s
      else pure s

def turn (s : Supervisor) : Run (Bool × Supervisor) := do
  if ← ask s .contextErr then pure (false, s)
  else do
    let s ← reconcile sha256 interval s
    let cancelled ← ask s .wait
    pure (!cancelled, s)

inductive Turns : List Trace → Supervisor → Bool → Prop where
  | start : Turns [] {} true
  | turn {passes : List Trace} {s next : Supervisor} {trace : Trace} {goesOn : Bool}
      (h : Turns passes s true) (hrun : Runs (turn sha256 interval s) trace (goesOn, next)) :
      Turns (passes ++ [trace]) next goesOn

/-- A whole run: turns until one ends the loop, and then the deferred stop. -/
def Supervises (passes : List Trace) (shutdown : Trace) : Prop :=
  ∃ s last, Turns sha256 interval passes s false ∧ Runs (stop s) shutdown last

end

end NutOperator.Nutsupervisor
