import NutOperator.Data.Traversal
import NutOperator.Planner.Types

/-! Text rendering shared by diagnostics, explanations and diagrams. -/
namespace NutOperator.Planner

open Data

private def hexDigit (value : Nat) : Char :=
  if value < 10 then Char.ofNat (48 + value) else Char.ofNat (87 + value)

private def hexDigits : Nat → Nat → List Char
  | 0, _ => []
  | width + 1, value => hexDigits width (value / 16) ++ [hexDigit (value % 16)]

/-- Printable code points. Of those above Latin-1 the spaces, the general format
characters and the private use are excluded; the tables of what is not assigned, which
the source excludes too, are not reproduced. -/
def isPrint (c : Char) : Bool :=
  let n := c.toNat
  (0x20 ≤ n && n < 0x7f) || (0xa1 ≤ n && n ≠ 0xad && n ≠ 0x1680 && n ≠ 0x3000 && n ≠ 0xfeff &&
    !(0x2000 ≤ n && n ≤ 0x200f) && !(0x2028 ≤ n && n ≤ 0x202f) && !(0x205f ≤ n && n ≤ 0x206f) &&
    !(0xe000 ≤ n && n ≤ 0xf8ff) && n < 0xf0000)

def quoteChar (c : Char) : List Char :=
  let n := c.toNat
  if c = '"' ∨ c = '\\' then ['\\', c]
  else if isPrint c then [c]
  else if n = 7 then ['\\', 'a']
  else if n = 8 then ['\\', 'b']
  else if n = 12 then ['\\', 'f']
  else if n = 10 then ['\\', 'n']
  else if n = 13 then ['\\', 'r']
  else if n = 9 then ['\\', 't']
  else if n = 11 then ['\\', 'v']
  else if n < 0x20 ∨ n = 0x7f then ['\\', 'x'] ++ hexDigits 2 n
  else if n < 0x10000 then ['\\', 'u'] ++ hexDigits 4 n
  else ['\\', 'U'] ++ hexDigits 8 n

def quote (value : String) : String :=
  String.ofList (['"'] ++ value.toList.flatMap quoteChar ++ ['"'])

example : quote "rack-a\n" = "\"rack-a\\n\"" := by decide

def join (values : List String) (separator : String) : String := separator.intercalate values

def commaList (values : List String) : String := join values ", "

def joinQuoted (values : List String) : String := commaList (values.map quote)

def summarizeTarget (target : Target) : String :=
  if target.nodeSelector then "nodes selected by label selector"
  else if target.namespaceSelector then "namespaces selected by label selector"
  else if target.workloadSelector then "workloads selected by label selector"
  else if 0 < target.agentRefCount then
    s!"{target.agentRefCount} node power agent fleet(s)"
  else if 0 < target.workloadRefCount then s!"{target.workloadRefCount} workload(s)"
  else if 0 < target.namespaceCount then s!"{target.namespaceCount} namespace(s)"
  else "no explicit target"

def errorDiagnostic (reason message : String) (subject : String := "") : Diagnostic :=
  { severity := .error, reason := reason, subject := subject, message := message }

def warningDiagnostic (reason message : String) (subject : String := "") : Diagnostic :=
  { severity := .warning, reason := reason, subject := subject, message := message }

def infoDiagnostic (reason message : String) (subject : String := "") : Diagnostic :=
  { severity := .info, reason := reason, subject := subject, message := message }

def hasError (diagnostics : List Diagnostic) : Bool :=
  diagnostics.any fun diagnostic => diagnostic.severity = .error

@[simp] theorem hasError_append (left right : List Diagnostic) :
    hasError (left ++ right) = (hasError left || hasError right) := by
  simp [hasError]

@[simp] theorem hasError_cons (head : Diagnostic) (tail : List Diagnostic) :
    hasError (head :: tail) = (decide (head.severity = .error) || hasError tail) := by
  simp [hasError]

theorem hasError_eq_false {diagnostics : List Diagnostic} : hasError diagnostics = false ↔
      ∀ diagnostic ∈ diagnostics, diagnostic.severity ≠ .error := by
  simp [hasError]

@[simp] theorem severity_errorDiagnostic (reason msg subject : String) :
    (errorDiagnostic reason msg subject).severity = .error := rfl

theorem hasError_flatMap {values : List α} {visit : α → List Diagnostic} :
    hasError (values.flatMap visit) = false ↔ ∀ value ∈ values, hasError (visit value) = false := by
  simp only [hasError_eq_false, List.mem_flatMap]
  constructor
  · intro h value hv diagnostic hd
    exact h diagnostic ⟨value, hv, hd⟩
  · rintro h diagnostic ⟨value, hv, hd⟩
    exact h value hv diagnostic hd

theorem hasError_withEarlier {values : List α} {visit : List α → α → List Diagnostic} :
    hasError (withEarlier visit [] values) = false ↔
      ∀ before value after, values = before ++ value :: after → hasError (visit before value) =
        false := by
  simp only [hasError_eq_false, mem_withEarlier, List.nil_append]
  constructor
  · intro h before value after hs diagnostic hd
    exact h diagnostic ⟨before, value, after, hs, hd⟩
  · rintro h diagnostic ⟨before, value, after, hs, hd⟩
    exact h before value after hs diagnostic hd

end NutOperator.Planner
