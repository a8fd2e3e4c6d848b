import NutOperator.Data.Duration
import NutOperator.Planner.Text
import NutOperator.Data.Sorting

/-! Declared pauses and observed history: how long a group is expected to take. -/
namespace NutOperator.Planner

open Data

private def digitValue (c : Char) : Option Nat :=
  if '0' ≤ c ∧ c ≤ '9' then some (c.toNat - 48) else none

def leadingInt : Nat → List Char → Option (Nat × List Char)
  | value, [] => some (value, [])
  | value, c :: rest =>
    match digitValue c with
    | none => some (value, c :: rest)
    | some digit =>
      if value > 2 ^ 63 / 10 ∨ value * 10 + digit > 2 ^ 63 then none
      else leadingInt (value * 10 + digit) rest

/-- Leading digits as a fraction over a power of ten. Digits that would
overflow are read and dropped. -/
def leadingFraction : Nat → Nat → Bool → List Char → Nat × Nat × List Char
  | value, scale, _, [] => (value, scale, [])
  | value, scale, overflow, c :: rest =>
    match digitValue c with
    | none => (value, scale, c :: rest)
    | some digit =>
      if overflow ∨ value > (2 ^ 63 - 1) / 10 ∨ value * 10 + digit > 2 ^ 63 then
        leadingFraction value scale true rest
      else leadingFraction (value * 10 + digit) (scale * 10) false rest

def durationUnit (unit : List Char) : Option Nat :=
  [("ns", 1), ("us", 1000), ("µs", 1000), ("μs", 1000), ("ms", 1000000), ("s", 1000000000),
    ("m", 60000000000), ("h", 3600000000000)].lookup (String.ofList unit)

private def unitChar (c : Char) : Bool := c ≠ '.' && (digitValue c).isNone

/-- The terms of a duration text; every round consumes at least one character,
so the length of the text bounds the rounds. -/
def durationTerms : Nat → Nat → List Char → Option Nat
  | _, total, [] => some total
  | 0, _, _ => none
  | fuel + 1, total, c :: rest =>
    if c ≠ '.' ∧ digitValue c = none then none
    else
      match leadingInt 0 (c :: rest) with
      | none => none
      | some (whole, afterWhole) =>
        let hasWhole := afterWhole.length ≠ rest.length + 1
        let (fraction, scale, tail, hasFraction) :=
          match afterWhole with
          | '.' :: digits =>
            let (fraction, scale, tail) := leadingFraction 0 1 false digits
            (fraction, scale, tail, decide (tail.length ≠ digits.length))
          | other => (0, 1, other, false)
        if ¬ hasWhole ∧ ¬ hasFraction then none
        else
          match durationUnit (tail.takeWhile unitChar) with
          | none => none
          | some unit =>
            let term := whole * unit + fraction * unit / scale
            if whole > 2 ^ 63 / unit ∨ term > 2 ^ 63 ∨ total + term > 2 ^ 63 then none
            else durationTerms fuel (total + term) (tail.dropWhile unitChar)

def parseDuration (text : String) : Option Duration :=
  let (negative, body) :=
    match text.toList with
    | '-' :: rest => (true, rest)
    | '+' :: rest => (false, rest)
    | other => (false, other)
  if body = ['0'] then some 0
  else if body = [] then none
  else
    match durationTerms body.length 0 body with
    | none => none
    | some total =>
      if negative then some (-(total : Int))
      else if total > 2 ^ 63 - 1 then none
      else some total

example : parseDuration "1h30m0.5s" = some 5400500000000 := by decide

def waitDurationFromParams (params : List (String × String)) : Duration :=
  match parseDuration ((params.lookup "duration").getD "") with
  | none => 0
  | some duration => if duration < 0 then 0 else duration

def boundedWaitDuration (duration timeout : Duration) : Duration :=
  if duration ≤ 0 then 0
  else if 0 < timeout ∧ timeout < duration then timeout
  else duration

def declaredGroupDuration (group : Group) : Duration :=
  if group.action = "Wait" then
    boundedWaitDuration (waitDurationFromParams group.params) group.timeout
  else group.timeout

def estimateGroupDuration (group : Group) (samples : List Duration) : GroupEstimate :=
  let declared := declaredGroupDuration group
  let counted := samples.filter fun sample => 0 < sample
  if counted = [] then
    { group := group.name, duration := declared, source := .declared, declared := declared }
  else
    { group := group.name, duration := counted.foldl max 0, source := .observed
      samples := counted.length, declared := declared }

def compileGroupEstimates (groups : List Group) (history : HistoryInputs) : List GroupEstimate :=
  sortStable (fun left right => decide (left.group < right.group)) (groups.map fun group =>
      estimateGroupDuration group ((history.groupDurations.lookup group.name).getD []))

def thinHistoryThreshold : Nat := 2

def summarizeEstimateConfidence (estimates : List GroupEstimate) : EstimateConfidence :=
  { observedGroups := estimates.countP fun estimate => estimate.source = .observed
    declaredGroups := estimates.countP fun estimate => estimate.source ≠ .observed
    thinGroups := (estimates.filter fun estimate => estimate.samples < thinHistoryThreshold).map
      (·.group) }

/-- Plan total with every wave as slow as its slowest estimate; `none` when
nothing was observed. -/
def observedPlanDuration (waves : List Wave) (estimates : List GroupEstimate) : Option Duration :=
  let byGroup := fillMap (·.group) (fun estimate => some estimate.duration) estimates
  if estimates.any (fun estimate => estimate.source = .observed) then
    some (wrapDuration (waves.map fun wave =>
      (wave.groups.filterMap fun group => byGroup.lookup group).foldl max 0).sum)
  else none

end NutOperator.Planner
