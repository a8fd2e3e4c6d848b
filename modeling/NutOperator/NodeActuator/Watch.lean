import NutOperator.Data.Sorting
import NutOperator.Nodeagent.Signal

/-! The node actuator: a loop that looks for a live signal, acts on it once, and keeps
the keys it has acted on in a state file. -/
namespace NutOperator.NodeActuator

open Data Nodeagent List
open Execution (Time)

def policySimulate : String := "Simulate"

def policyPowerOff : String := "PowerOff"

def modeActuate : String := "Actuate"

structure ActuatorConfig where
  mode : String := "DryRun"
  policy : String := policySimulate
  nodeName : String := ""
  signalPaths : List String := []
  signalTTL : Duration := 120 * nanosPerSecond
  /-- The flow the agent declares, or none. -/
  shutdownFlow : String := ""
  talosConfigPath : String := "/var/run/secrets/talos.dev/config"
  talosEndpoints : List String := []
  talosNode : String := ""
deriving Repr, DecidableEq

structure Host where
  sysBoot : Bool
  talosConfigReadable : Bool
deriving Repr, DecidableEq

inductive Command where
  | powerOff (payload : ShutdownSignal)
  | talosShutdown (payload : ShutdownSignal) (endpoints : List String) (node : String)
deriving Repr, DecidableEq

def Command.payload : Command → ShutdownSignal
  | .powerOff payload => payload
  | .talosShutdown payload _ _ => payload

def verifyTalosShutdownAvailable (config : ActuatorConfig) (host : Host) : Bool :=
  config.talosConfigPath ≠ "" && config.talosNode ≠ "" && config.talosEndpoints ≠ [] &&
    host.talosConfigReadable

inductive Actuator where
  | simulate
  | powerOff
  | talosShutdown
deriving Repr, DecidableEq

def runPoweroff (host : Host) (payload : ShutdownSignal) : Option Command :=
  if host.sysBoot then some (.powerOff payload) else none

def runTalosShutdown (config : ActuatorConfig) (host : Host) (payload : ShutdownSignal) :
    Option Command :=
  if verifyTalosShutdownAvailable config host then
    some (.talosShutdown payload config.talosEndpoints config.talosNode)
  else none

/-- The command that an actuator issues for a signal. Its mode is read from the
configuration, never from the signal. -/
def Actuator.actuate (config : ActuatorConfig) (host : Host) (status : SignalStatus) :
    Actuator → Option Command
  | .simulate => none
  | .powerOff => if config.mode ≠ modeActuate then none else runPoweroff host status.payload
  | .talosShutdown =>
    if config.mode ≠ modeActuate then none else runTalosShutdown config host status.payload

/-- What a pass finds at a path, and the clock when it looks. -/
abbrev Look := String → SignalFile × Time

def inspect (parsing : Parsing) (config : ActuatorConfig) (look : Look) (path : String) :
    SignalStatus :=
  inspectSignal parsing path (look path).1 config.signalTTL (look path).2 config.nodeName

def bound (config : ActuatorConfig) (status : SignalStatus) : Bool :=
  config.shutdownFlow = "" || status.payload.shutdownFlow = config.shutdownFlow

structure Scan where
  (clockSkewed seen : List String)
  calls : List SignalStatus

def scanSignalPaths (parsing : Parsing) (config : ActuatorConfig) (look : Look)
    (seen : List String) :
    List String → List String → Scan
  | [], clockSkewed => ⟨clockSkewed, seen, []⟩
  | path :: rest, clockSkewed =>
    let status := inspect parsing config look path
    if !status.active then
      scanSignalPaths parsing config look seen rest
        (if status.reason = "SignalFromFuture" then clockSkewed ++ [path] else clockSkewed)
    else if !bound config status then scanSignalPaths parsing config look seen rest clockSkewed
    else if status.key ∈ seen then ⟨clockSkewed, seen, []⟩
    else ⟨clockSkewed, seen ++ [status.key], [status]⟩

def maxActuatedKeys : Nat := 64

def pruneActuatedKeys (keys : List String) : List String :=
  if keys.length ≤ maxActuatedKeys then keys else keys.drop (keys.length - maxActuatedKeys)

def actuatedKeys (seen : List String) : List String := pruneActuatedKeys (sortedUnique seen)

/-- The memory of the loop and the keys in the state file. -/
structure Watch where
  (seen actuatedKeys : List String := [])
deriving Repr, DecidableEq

/-- A pass looks and acts, and records what it did; the container may restart in
between. -/
inductive WatchEvent where
  | scan (look : Look)
  | record
  | restart

def Watch.scanned (parsing : Parsing) (config : ActuatorConfig) (watch : Watch)
    (look : Look) : Scan :=
  scanSignalPaths parsing config look watch.seen config.signalPaths []

def Watch.step (parsing : Parsing) (config : ActuatorConfig) (watch : Watch) : WatchEvent → Watch
  | .scan look => { watch with seen := (watch.scanned parsing config look).seen }
  | .record => { watch with actuatedKeys := NodeActuator.actuatedKeys watch.seen }
  | .restart => { watch with seen := watch.actuatedKeys }

def Watch.calls (parsing : Parsing) (config : ActuatorConfig) (watch : Watch) :
    WatchEvent → List SignalStatus
  | .scan look => (watch.scanned parsing config look).calls
  | _ => []

def trail (parsing : Parsing) (config : ActuatorConfig) :
    Watch → List WatchEvent → List (Watch × WatchEvent)
  | _, [] => []
  | watch, event :: rest => (watch, event) :: trail parsing config (watch.step parsing config event)
      rest

def calledKeys (parsing : Parsing) (config : ActuatorConfig) (watch : Watch)
    (events : List WatchEvent) : List String :=
  (trail parsing config watch events).flatMap fun visit =>
    (visit.1.calls parsing config visit.2).map (·.key)

/-- The first signal that is accepted and bound to the agent's flow. -/
def liveSignal (parsing : Parsing) (config : ActuatorConfig) (look : Look) (paths : List String) :
    Option SignalStatus :=
  (paths.map (inspect parsing config look)).find? fun status => status.active && bound config status

section

variable {parsing : Parsing} {config : ActuatorConfig} {watch : Watch} {events : List WatchEvent}
  {key : String}

theorem scanSignalPaths_eq (look : Look) (seen paths clockSkewed : List String) :
    let scan := scanSignalPaths parsing config look seen paths clockSkewed
    scan.calls = ((liveSignal parsing config look paths).filter (·.key ∉ seen)).toList ∧
      scan.seen = seen ++ scan.calls.map (·.key) := by
  induction paths generalizing clockSkewed with
  | nil => simp [scanSignalPaths, liveSignal]
  | cons path rest ih =>
    rw [scanSignalPaths, liveSignal, map_cons]
    cases hactive : (inspect parsing config look path).active with
    | false =>
      rw [List.find?_cons_of_neg (by simp [hactive])]
      exact ih _
    | true =>
      cases hbound : bound config (inspect parsing config look path) with
      | false =>
        rw [List.find?_cons_of_neg (by simp [hbound])]
        exact ih clockSkewed
      | true =>
        rw [List.find?_cons_of_pos (by simp [hactive, hbound])]
        by_cases hseen : (inspect parsing config look path).key ∈ seen <;>
          simp [hseen, Option.filter]

theorem seen_scanned (watch : Watch) (look : Look) : (watch.scanned parsing config look).seen =
      watch.seen ++ (watch.scanned parsing config look).calls.map (·.key) :=
  (scanSignalPaths_eq look watch.seen config.signalPaths []).2

theorem calls_scanned (watch : Watch) (look : Look) : (watch.scanned parsing config look).calls =
      ((liveSignal parsing config look config.signalPaths).filter (·.key ∉ watch.seen)).toList :=
  (scanSignalPaths_eq look watch.seen config.signalPaths []).1

theorem mem_of_mem_actuatedKeys {seen : List String} (h : key ∈ actuatedKeys seen) :
    key ∈ seen := by
  rw [actuatedKeys, pruneActuatedKeys] at h
  split at h
  · exact mem_sortedUnique.mp h
  · exact mem_sortedUnique.mp (mem_of_mem_drop h)

/-- The state file holds nothing that the loop does not remember. -/
def Watch.Kept (watch : Watch) : Prop := watch.actuatedKeys ⊆ watch.seen

theorem Watch.Kept.step (h : watch.Kept) (event : WatchEvent) :
    (watch.step parsing config event).Kept := by
  cases event with
  | scan look =>
    intro key hkey
    rw [Watch.step, seen_scanned]
    exact mem_append_left _ (h hkey)
  | record => exact fun key hkey => mem_of_mem_actuatedKeys hkey
  | restart => exact fun key hkey => hkey

def Offers (parsing : Parsing) (config : ActuatorConfig) (key : String) : WatchEvent → Prop
  | .scan look =>
    (liveSignal parsing config look config.signalPaths).map (·.key) = some key
  | _ => False

def offeredKeys (parsing : Parsing) (config : ActuatorConfig) (events : List WatchEvent) :
    List String :=
  events.filterMap fun
    | .scan look => (liveSignal parsing config look config.signalPaths).map (·.key)
    | _ => none

/-- A state write comes before the next restart. -/
def RecordsFirst : List WatchEvent → Prop
  | [] => True
  | .scan _ :: rest => RecordsFirst rest
  | .record :: _ => True
  | .restart :: _ => False

/-- Every pass that looks at a live signal of the key is recorded before the next
restart. -/
def Recorded (parsing : Parsing) (config : ActuatorConfig) (key : String) : List WatchEvent → Prop
  | [] => True
  | event :: rest =>
    (Offers parsing config key event → RecordsFirst rest) ∧ Recorded parsing config key rest

def keysAfter (keys : List String) (key : String) : Nat := keys.dedup.countP (key < ·)

theorem keysAfter_le {keys others : List String} (h : keys ⊆ others) :
    keysAfter keys key ≤ keysAfter others key := by
  refine (subperm_of_subset (nodup_dedup _) fun other hother => ?_).countP_le _
  exact mem_dedup.mpr (h (mem_dedup.mp hother))

theorem mem_drop_iff_countP_lt {values : List String} {value : String} {bound : Nat}
    (h : values.Pairwise (· < ·)) (hmem : value ∈ values) :
    value ∈ values.drop (values.length - bound) ↔ values.countP (value < ·) < bound := by
  induction values with
  | nil => cases hmem
  | cons first rest ih =>
    rw [pairwise_cons] at h
    have hcount : rest.countP (value < ·) ≤ rest.length := countP_le_length
    have hfirst : ¬value < first := by
      cases hmem with
      | head => exact lt_irrefl _
      | tail _ hmem => exact (h.1 value hmem).asymm
    rw [countP_cons_of_neg (by simpa using hfirst)]
    by_cases hfits : rest.length < bound
    · rw [Nat.sub_eq_zero_of_le (by simpa using hfits), drop_zero]
      exact iff_of_true hmem (by omega)
    · rw [length_cons, Nat.sub_add_comm (by omega), drop_succ_cons]
      cases hmem with
      | head =>
        have hall : rest.countP (value < ·) = rest.length :=
          countP_eq_length.mpr fun other hother => decide_eq_true (h.1 other hother)
        rw [hall, iff_false_right hfits]
        exact fun hlater => lt_irrefl _ (h.1 value (mem_of_mem_drop hlater))
      | tail _ hmem => exact ih h.2 hmem

theorem actuatedKeys_eq (seen : List String) : actuatedKeys seen =
      (sortedUnique seen).drop ((sortedUnique seen).length - maxActuatedKeys) := by
  rw [actuatedKeys, pruneActuatedKeys]
  split
  · rename_i hfew
    rw [Nat.sub_eq_zero_of_le hfew, drop_zero]
  · rfl

theorem mem_actuatedKeys_iff {seen : List String} (hmem : key ∈ seen) :
    key ∈ actuatedKeys seen ↔ keysAfter seen key < maxActuatedKeys := by
  rw [actuatedKeys_eq, mem_drop_iff_countP_lt (pairwise_sortedUnique _) (mem_sortedUnique.mpr hmem),
    (perm_sortedUnique _).countP_eq, keysAfter]

theorem scanned_cases (parsing : Parsing) (config : ActuatorConfig) (watch : Watch) (look : Look) :
    let scan := watch.scanned parsing config look
    scan.calls = [] ∧ scan.seen = watch.seen ∨
      ∃ status, liveSignal parsing config look config.signalPaths = some status ∧
        status.key ∉ watch.seen ∧ scan.calls = [status] ∧
        scan.seen = watch.seen ++ [status.key] := by
  simp only [seen_scanned, calls_scanned]
  cases hlive : (liveSignal parsing config look config.signalPaths).filter
      (·.key ∉ watch.seen) with
  | none => exact .inl ⟨rfl, append_nil _⟩
  | some status =>
    obtain ⟨hlive, hnew⟩ := Option.filter_eq_some_iff.mp hlive
    exact .inr ⟨status, hlive, of_decide_eq_true hnew, rfl, rfl⟩

theorem offeredKeys_cons (parsing : Parsing) (config : ActuatorConfig) (event : WatchEvent)
    (rest : List WatchEvent) :
    offeredKeys parsing config rest ⊆ offeredKeys parsing config (event :: rest) :=
  fun _ hkey => mem_filterMap.mpr <| (mem_filterMap.mp hkey).imp fun _ h => ⟨.tail _ h.1, h.2⟩

/-- A key that the loop remembers is in the state file, or will be before the next
restart; so no restart loses it. -/
theorem count_calledKeys (hkept : watch.Kept) (hrecorded : Recorded parsing config key events)
    (hfile : key ∈ watch.seen → key ∈ watch.actuatedKeys ∨ RecordsFirst events)
    (hfew : keysAfter (watch.seen ++ offeredKeys parsing config events) key < maxActuatedKeys) :
    let count := (calledKeys parsing config watch events).count key
    count ≤ 1 ∧ (key ∈ watch.seen → count = 0) := by
  induction events generalizing watch with
  | nil => exact ⟨Nat.zero_le 1, fun _ => rfl⟩
  | cons event rest ih =>
    have hnext := @ih (watch.step parsing config event) (hkept.step event) hrecorded.2
    -- What is seen or offered later has been so all along.
    have hfewer {seen : List String} (hsubset : seen ⊆ watch.seen ++ offeredKeys parsing config
        (event :: rest)) : keysAfter (seen ++ offeredKeys parsing config rest) key <
          maxActuatedKeys :=
      (keysAfter_le (append_subset.mpr ⟨hsubset, fun _ hkey => mem_append_right _
        (offeredKeys_cons parsing config event rest hkey)⟩)).trans_lt hfew
    cases event with
    | record =>
      refine hnext (fun hseen => .inl ?_) hfew
      exact (mem_actuatedKeys_iff hseen).mpr <|
        (keysAfter_le (subset_append_left _ _)).trans_lt hfew
    | restart =>
      have hlast := hnext .inl (hfewer fun _ hkey => mem_append_left _ (hkept hkey))
      exact ⟨hlast.1, fun hseen => hlast.2 ((hfile hseen).resolve_right id)⟩
    | scan look =>
      have hcalled : calledKeys parsing config watch (.scan look :: rest) =
          (watch.scanned parsing config look).calls.map (·.key) ++
            calledKeys parsing config (watch.step parsing config (.scan look)) rest := rfl
      obtain ⟨hcalls, hseen⟩ | ⟨status, hlive, hnew, hcalls, hseen⟩ :=
        scanned_cases parsing config watch look
      · rw [Watch.step, hseen] at hnext
        rw [hcalled, hcalls, Watch.step, hseen]
        exact hnext hfile (hfewer (subset_append_left _ _))
      · have hkeyed := congrArg (Option.map (·.key)) hlive
        have hoffered : status.key ∈ offeredKeys parsing config (.scan look :: rest) :=
          mem_filterMap.mpr ⟨.scan look, .head _, hkeyed⟩
        rw [Watch.step, hseen] at hnext
        rw [hcalled, hcalls, Watch.step, hseen]
        have hlast := hnext (fun hkey => ?_) (hfewer (append_subset.mpr
          ⟨subset_append_left _ _, by simpa using .inr hoffered⟩))
        · by_cases hkey : status.key = key
          · subst hkey
            simp [hlast.2 (mem_append_right _ (.head _)), hnew]
          · simpa [hkey, Ne.symm hkey] using hlast
        · obtain hkey | hkey := mem_append.mp hkey
          · exact hfile hkey
          · obtain rfl := mem_singleton.mp hkey
            exact .inr (hrecorded.1 hkeyed)

/-- The actuator is called once at most for a key if every pass that looks at a live
signal of it is recorded before the next restart, and fewer keys than the state file
holds come after it. -/
theorem acts_once (parsing : Parsing) (config : ActuatorConfig) (events : List WatchEvent)
    (key : String) (hrecorded : Recorded parsing config key events)
    (hfew : keysAfter (offeredKeys parsing config events) key < maxActuatedKeys) :
    (calledKeys parsing config {} events).count key ≤ 1 :=
  (@count_calledKeys parsing config {} events key (fun _ hmem => hmem) hrecorded
    (fun hseen => nomatch hseen) hfew).1

end

def nodeConfig : ActuatorConfig := { nodeName := "n", signalPaths := ["n.json"] }

def nodeParsing : Parsing where
  time := fun _ => some 0
  signal := fun data => some
    { executionID := data
      nodeName := "n"
      planConfigHash := "p"
      shutdownFlow := "f"
      timestamp := "t" }

def lookAt (executionID : String) : Look := fun _ => (.content executionID, 0)

def passWith (executionID : String) : List WatchEvent := [.scan (lookAt executionID), .record]

theorem acts_once_after_restart :
    let events := passWith "a" ++ passWith "b" ++ .restart :: passWith "a"
    Recorded nodeParsing nodeConfig "a:n:p:t" events ∧
      keysAfter (offeredKeys nodeParsing nodeConfig events) "a:n:p:t" < maxActuatedKeys ∧
      (calledKeys nodeParsing nodeConfig {} events).count "a:n:p:t" ≤ 1 := by
  intro events
  have hrecorded : Recorded nodeParsing nodeConfig "a:n:p:t" events := by
    simp [events, passWith, Recorded, RecordsFirst, Offers]
  have hfew : keysAfter (offeredKeys nodeParsing nodeConfig events) "a:n:p:t" <
      maxActuatedKeys := by decide +kernel
  exact ⟨hrecorded, hfew, acts_once _ _ _ _ hrecorded hfew⟩

/-- The actuator is called again after a restart between the call and the record of it,
and after a restart when 64 keys that sort after it have been recorded. -/
theorem acts_twice :
    (calledKeys nodeParsing nodeConfig {}
      [.scan (lookAt "a"), .restart, .scan (lookAt "a")]).count "a:n:p:t" = 2 ∧
    (calledKeys nodeParsing nodeConfig {}
      (passWith "a" ++ (List.range 64).flatMap (fun number => passWith s!"b{number}") ++
        .restart :: passWith "a")).count "a:n:p:t" = 2 := by
  decide +kernel

def commands (parsing : Parsing) (config : ActuatorConfig) (actuator : Actuator) (host : Host)
    (visit : Watch × WatchEvent) : List Command :=
  (visit.1.calls parsing config visit.2).filterMap fun status => actuator.actuate config host status

section

variable {parsing : Parsing} {config : ActuatorConfig} {actuator : Actuator} {host : Host}

theorem actuate_eq_some {status : SignalStatus} {command : Command}
    (h : actuator.actuate config host status = some command) :
    config.mode = modeActuate ∧ command.payload = status.payload := by
  cases actuator with
  | simulate => cases h
  | powerOff =>
    simp only [Actuator.actuate, runPoweroff, ite_not, Option.ite_none_right_eq_some,
      Option.some.injEq] at h
    obtain ⟨hmode, -, rfl⟩ := h
    exact ⟨hmode, rfl⟩
  | talosShutdown =>
    simp only [Actuator.actuate, runTalosShutdown, ite_not, Option.ite_none_right_eq_some,
      Option.some.injEq] at h
    obtain ⟨hmode, -, rfl⟩ := h
    exact ⟨hmode, rfl⟩

theorem length_calls_le_one (watch : Watch) (event : WatchEvent) :
    (watch.calls parsing config event).length ≤ 1 := by
  cases event with
  | scan look =>
    rw [Watch.calls, calls_scanned]
    cases (liveSignal parsing config look config.signalPaths).filter (·.key ∉ watch.seen) <;> simp
  | _ => simp [Watch.calls]

theorem of_mem_calls {watch : Watch} {event : WatchEvent} {status : SignalStatus}
    (h : status ∈ watch.calls parsing config event) :
    ∃ look path, event = .scan look ∧ path ∈ config.signalPaths ∧
      status = inspect parsing config look path ∧ status.active = true ∧
      bound config status = true := by
  cases event with
  | scan look =>
    rw [Watch.calls, calls_scanned, Option.mem_toList, Option.filter_eq_some_iff] at h
    have hlive := List.find?_some h.1
    obtain ⟨path, hpath, rfl⟩ := mem_map.mp (mem_of_find?_eq_some h.1)
    rw [Bool.and_eq_true] at hlive
    exact ⟨look, path, rfl, hpath, rfl, hlive⟩
  | _ => cases h

/-- In every run, whatever the files and the clock say: a node is halted only for a
signal that is complete, its own, in time and of its flow, in the mode for it, and once
in a pass at most. -/
theorem halts_only_for_valid_signal (hnode : config.nodeName ≠ "")
    (hpositive : 0 < config.signalTTL) (hbelow : config.signalTTL < maxDuration) (watch : Watch)
    (events : List WatchEvent) :
    ∀ visit ∈ trail parsing config watch events,
      (commands parsing config actuator host visit).length ≤ 1 ∧
      ∀ command ∈ commands parsing config actuator host visit, config.mode = modeActuate ∧
        ∃ look path data timestamp, visit.2 = .scan look ∧ path ∈ config.signalPaths ∧
          (look path).1 = .content data ∧ parsing.signal data = some command.payload ∧
          command.payload.Complete config.nodeName ∧ command.payload.nodeName = config.nodeName ∧
          parsing.time command.payload.timestamp = some timestamp ∧
          |(look path).2 - timestamp| ≤ config.signalTTL ∧
          (config.shutdownFlow ≠ "" → command.payload.shutdownFlow = config.shutdownFlow) := by
  intro visit _
  constructor
  · exact (List.length_filterMap_le _ _).trans (length_calls_le_one visit.1 visit.2)
  · intro command hcommand
    obtain ⟨status, hstatus, hactuate⟩ := List.mem_filterMap.mp hcommand
    obtain ⟨hmode, hpayload⟩ := actuate_eq_some hactuate
    obtain ⟨look, path, hscan, hpath, rfl, hactive, hbound⟩ := of_mem_calls hstatus
    obtain ⟨data, payload, timestamp, hfile, hparsed, hcomplete, htime, hage, hinspect⟩ :=
      of_inspectSignal_active hactive
    obtain rfl : command.payload = payload := by
      rw [hpayload, inspect, hinspect]
    refine ⟨hmode, look, path, data, timestamp, hscan, hpath, hfile, hparsed, hcomplete,
      hcomplete.node hnode, htime, (outOfTime_eq_none hpositive hbelow).mp hage, ?_⟩
    intro hflow
    rw [bound, Bool.or_eq_true, decide_eq_true_eq, decide_eq_true_eq, ← hpayload] at hbound
    exact hbound.resolve_left hflow

end

def haltingConfig : ActuatorConfig :=
  { nodeConfig with mode := modeActuate, policy := policyPowerOff }

/-- The node is halted, once, for a signal of its own. -/
theorem halts_for_own_signal :
    let visit : Watch × WatchEvent := ({}, .scan (lookAt "a"))
    (commands nodeParsing haltingConfig .powerOff ⟨true, false⟩ visit).length = 1 ∧
      ∀ command ∈ commands nodeParsing haltingConfig .powerOff ⟨true, false⟩ visit,
        command.payload.nodeName = "n" := by
  intro visit
  refine ⟨by decide, fun command hcommand => ?_⟩
  obtain ⟨-, hvalid⟩ := @halts_only_for_valid_signal nodeParsing haltingConfig .powerOff
    ⟨true, false⟩ (by decide) (by decide) (by decide) {} [.scan (lookAt "a")] visit
    List.mem_cons_self
  obtain ⟨-, look, path, data, timestamp, -, -, -, -, -, hnode, -⟩ := hvalid command hcommand
  exact hnode

/-- With the longest time to live there is, a signal of any age halts the node. -/
theorem halts_for_ageless_signal :
    let config := { haltingConfig with signalTTL := maxDuration }
    let parsing := { nodeParsing with time := fun _ => some (-2 * maxDuration) }
    (commands parsing config .powerOff ⟨true, false⟩ ({}, .scan (lookAt "a"))).length = 1 ∧
      config.signalTTL < |(lookAt "a" "n.json").2 - -2 * maxDuration| := by
  decide

section

variable {parsing : Parsing}

structure Issued (parsing : Parsing) where
  signal : ShutdownSignal
  issuedAt : Time
  stamped : parsing.time signal.timestamp = some issuedAt

def Issued.key (issued : Issued parsing) : String := signalKey issued.signal

def laterKeys (signals : List (Issued parsing)) (issued : Issued parsing) : Nat :=
  keysAfter (signals.map Issued.key) issued.key

def RetainsLatest (signals : List (Issued parsing)) : Prop :=
  (actuatedKeys (signals.map Issued.key)).length =
      min maxActuatedKeys (signals.map Issued.key).dedup.length ∧
    ∀ dropped ∈ signals, ∀ kept ∈ signals, dropped.key ∉ actuatedKeys (signals.map Issued.key) →
      kept.key ∈ actuatedKeys (signals.map Issued.key) → dropped.issuedAt ≤ kept.issuedAt

theorem key_mem_actuatedKeys {signals : List (Issued parsing)} {issued : Issued parsing}
    (hmem : issued ∈ signals) :
    issued.key ∈ actuatedKeys (signals.map Issued.key) ↔
      laterKeys signals issued < maxActuatedKeys :=
  mem_actuatedKeys_iff (mem_map_of_mem hmem)

/-- The keys that are retained belong to the latest signals exactly when no signal with 64
lexically later keys is newer than one with fewer. -/
theorem retains_latest_iff (signals : List (Issued parsing)) :
    RetainsLatest signals ↔ ∀ first ∈ signals, ∀ second ∈ signals,
      maxActuatedKeys ≤ laterKeys signals first → laterKeys signals second < maxActuatedKeys →
        first.issuedAt ≤ second.issuedAt := by
  have hlength : (actuatedKeys (signals.map Issued.key)).length =
      min maxActuatedKeys (signals.map Issued.key).dedup.length := by
    rw [actuatedKeys_eq, List.length_drop, (perm_sortedUnique _).length_eq]
    omega
  constructor
  · intro hlatest first hfirst second hsecond hdropped hkept
    refine hlatest.2 first hfirst second hsecond ?_ ((key_mem_actuatedKeys hsecond).mpr hkept)
    rw [key_mem_actuatedKeys hfirst]
    exact hdropped.not_gt
  · intro hrank
    refine ⟨hlength, fun dropped hdropped kept hkept hout hin => ?_⟩
    rw [key_mem_actuatedKeys hdropped] at hout
    exact hrank dropped hdropped kept hkept (not_lt.mp hout) ((key_mem_actuatedKeys hkept).mp hin)

end

def twoDays : Parsing where
  time := fun text =>
    if text = "2026-01-01T00:00:00Z" then some (1767225600 * nanosPerSecond)
    else if text = "2026-01-02T00:00:00Z" then some (1767312000 * nanosPerSecond)
    else none
  signal := fun _ => none

def firstDay (number : Nat) : Issued twoDays where
  signal :=
    { executionID := String.ofList (List.replicate number 'b'), nodeName := "n",
      planConfigHash := "p", shutdownFlow := "f", timestamp := "2026-01-01T00:00:00Z" }
  issuedAt := 1767225600 * nanosPerSecond
  stamped := rfl

def secondDay : Issued twoDays where
  signal :=
    { executionID := "a", nodeName := "n", planConfigHash := "p", shutdownFlow := "f",
      timestamp := "2026-01-02T00:00:00Z" }
  issuedAt := 1767312000 * nanosPerSecond
  stamped := rfl

def sixtyFive : List (Issued twoDays) := secondDay :: (List.range' 1 64).map firstDay

theorem lt_firstDay {number : Nat} (h : 1 ≤ number) : secondDay.key < (firstDay number).key := by
  obtain ⟨number, rfl⟩ := Nat.exists_eq_add_of_le' h
  rw [String.lt_iff_toList_lt]
  simp only [firstDay, Issued.key, signalKey, replicate_succ, String.toList_append,
    String.toList_ofList, cons_append]
  exact List.Lex.rel (by decide)

theorem lt_of_mem_tail {key : String} (h : key ∈ (sixtyFive.map Issued.key).tail) :
    secondDay.key < key := by
  simp only [sixtyFive, map_cons, tail_cons, mem_map, mem_range'_1] at h
  obtain ⟨_, ⟨number, hnumber, rfl⟩, rfl⟩ := h
  exact lt_firstDay hnumber.1

theorem nodup_sixtyFive : (sixtyFive.map Issued.key).Nodup := by
  refine nodup_cons.mpr ⟨fun hmem => lt_irrefl _ (lt_of_mem_tail hmem), ?_⟩
  rw [map_map]
  refine List.Nodup.map (fun first second h => ?_) nodup_range'
  simpa [firstDay, Issued.key, signalKey] using congrArg String.length h

/-- The newest of 65 signals is forgotten, since its execution comes first in the alphabet. -/
theorem newest_signal_forgotten : ¬RetainsLatest sixtyFive := by
  intro hlatest
  have hmem : secondDay ∈ sixtyFive := List.mem_cons_self
  have hlater : laterKeys sixtyFive secondDay = 64 := by
    rw [laterKeys, keysAfter, nodup_sixtyFive.dedup, sixtyFive, List.map_cons,
      List.countP_cons_of_neg (by simp)]
    exact List.countP_eq_length.mpr fun key hkey => decide_eq_true (lt_of_mem_tail hkey)
  have hdropped : secondDay.key ∉ actuatedKeys (sixtyFive.map Issued.key) := by
    rw [key_mem_actuatedKeys hmem, hlater]
    exact lt_irrefl _
  have hlength : (actuatedKeys (sixtyFive.map Issued.key)).length = 64 := by
    rw [hlatest.1, nodup_sixtyFive.dedup]
    rfl
  obtain ⟨key, hkey⟩ := List.exists_mem_of_length_eq_add_one hlength
  obtain ⟨kept, hkept, rfl⟩ := List.mem_map.mp (mem_of_mem_actuatedKeys hkey)
  have hnewer := hlatest.2 secondDay hmem kept hkept hdropped hkey
  cases hkept with
  | head => exact hdropped hkey
  | tail _ hkept =>
    obtain ⟨number, -, rfl⟩ := List.mem_map.mp hkept
    simp [secondDay, firstDay, nanosPerSecond] at hnewer

end NutOperator.NodeActuator
