import NutOperator.Data.Text
import NutOperator.Execution.Types

/-! The signal files that the operator projects onto the nodes and the node actuators
read. -/
namespace NutOperator.Nodeagent

open Data
open Execution (Time)

def deliveryChannelMarker : String := "delivery-channel"

structure ShutdownSignal where
  (executionID nodeName planConfigHash reason : String := "")
  selectedUPSDevices : List String := []
  (shutdownFlow timestamp : String := "")
  skipSync : Bool := false
deriving Repr, DecidableEq

/-- How texts are read: times in RFC 3339 with nanoseconds, signals in JSON. -/
structure Parsing where
  time : String → Option Time
  signal : String → Option ShutdownSignal

/-- What is found at a path. A directory is no signal file. -/
inductive SignalFile where
  | missing
  | directory
  | unreadable
  | content (data : String)
deriving Repr, DecidableEq

structure SignalStatus where
  active : Bool := false
  reason : String
  key : String := ""
  path : String
  payload : ShutdownSignal := {}
deriving Repr, DecidableEq

/-- Identifies one episode that is worth acting on. -/
def signalKey (payload : ShutdownSignal) : String :=
  payload.executionID ++ ":" ++ payload.nodeName ++ ":" ++ payload.planConfigHash ++ ":" ++
    payload.timestamp

/-- The age of a signal against a time to live, in both directions. -/
def outOfTime (ttl : Duration) (now timestamp : Time) : Option String :=
  if 0 < ttl then
    if ttl < timeSub now timestamp then some "SignalStale"
    else if ttl < timeSub timestamp now then some "SignalFromFuture"
    else none
  else none

def inspectSignal (parsing : Parsing) (path : String) (file : SignalFile) (ttl : Duration)
    (now : Time) (expectedNode : String) : SignalStatus :=
  match file with
  | .missing | .directory => { path := path, reason := "SignalMissing" }
  | .unreadable => { path := path, reason := "SignalUnreadable" }
  | .content data =>
    match parsing.signal data with
    | none => { path := path, reason := "SignalInvalidJSON" }
    | some payload =>
      if payload.executionID = "" ∨ payload.nodeName = "" ∨ payload.planConfigHash = "" ∨
          payload.shutdownFlow = "" ∨ payload.timestamp = "" then
        { path := path, reason := "SignalMissingRequiredFields" }
      else if expectedNode ≠ "" ∧ payload.nodeName ≠ expectedNode then
        { path := path, reason := "SignalWrongNode", payload := payload }
      else
        match parsing.time payload.timestamp with
        | none => { path := path, reason := "SignalInvalidTimestamp", payload := payload }
        | some timestamp =>
          match outOfTime ttl now timestamp with
          | some reason => { path := path, reason := reason, payload := payload }
          | none =>
            { active := true, reason := "SignalAccepted", key := signalKey payload
              path := path, payload := payload }

/-- A signal that an actuator may act on: all required fields, for the right node. -/
structure ShutdownSignal.Complete (expectedNode : String) (payload : ShutdownSignal) : Prop where
  executionID : payload.executionID ≠ ""
  nodeName : payload.nodeName ≠ ""
  planConfigHash : payload.planConfigHash ≠ ""
  shutdownFlow : payload.shutdownFlow ≠ ""
  timestamp : payload.timestamp ≠ ""
  node : expectedNode ≠ "" → payload.nodeName = expectedNode

theorem of_inspectSignal_active {parsing : Parsing} {path : String} {file : SignalFile}
    {ttl : Duration} {now : Time} {expectedNode : String}
    (h : (inspectSignal parsing path file ttl now expectedNode).active = true) :
    ∃ data payload timestamp, file = .content data ∧ parsing.signal data = some payload ∧
      payload.Complete expectedNode ∧ parsing.time payload.timestamp = some timestamp ∧
      outOfTime ttl now timestamp = none ∧
      inspectSignal parsing path file ttl now expectedNode =
        { active := true
          reason := "SignalAccepted"
          key := signalKey payload
          path := path
          payload := payload } := by
  unfold inspectSignal at h
  split at h
  · cases h
  · cases h
  · cases h
  · rename_i data
    split at h
    · cases h
    · rename_i payload hpayload
      split at h
      · cases h
      · rename_i hfield
        split at h
        · cases h
        · rename_i hnode
          split at h
          · cases h
          · rename_i timestamp htime
            split at h
            · cases h
            · rename_i hage
              simp only [not_or] at hfield
              refine ⟨data, payload, timestamp, rfl, hpayload, ?_, htime, hage, ?_⟩
              · exact ⟨hfield.1, hfield.2.1, hfield.2.2.1, hfield.2.2.2.1, hfield.2.2.2.2,
                  fun he => by_contra fun ho => hnode ⟨he, ho⟩⟩
              · simp only [inspectSignal, hpayload, hfield, hnode, htime, hage, or_self, if_false]

theorem outOfTime_eq_none {ttl : Duration} {now timestamp : Time} (hpos : 0 < ttl)
    (hbelow : ttl < maxDuration) : outOfTime ttl now timestamp = none ↔
    |now - timestamp| ≤ ttl := by
  have hlow : minDuration ≤ ttl := le_trans (by decide) hpos.le
  rw [abs_sub_le_iff, ← timeSub_le_iff hlow hbelow, ← timeSub_le_iff hlow hbelow, outOfTime,
    if_pos hpos]
  by_cases hstale : ttl < timeSub now timestamp
  · simp [hstale]
  · by_cases hf : ttl < timeSub timestamp now
    · simp [hstale, hf]
    · simp [hstale, hf, not_lt.mp hstale, not_lt.mp hf]

end NutOperator.Nodeagent
