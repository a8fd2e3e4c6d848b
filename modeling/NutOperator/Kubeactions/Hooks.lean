import Mathlib.Algebra.Order.Ring.Int
import NutOperator.Kubeactions.Nodes

/-! The hooks of a group. Their allowlist of endpoints is the operator's only way out to
other hosts. -/
namespace NutOperator.Kubeactions

open Effects Execution
open Planner (quote)

/-- What parsing a URL gives; a port is digits, or nothing. -/
structure ParsedURL where
  (scheme hostname : String)
  port : String := ""
  path : String
  digits : port.toList.all Char.isDigit = true := by decide

structure PowerHookEndpointAllowlistEntry where
  (scheme host : String)
  port : Option Int32 := none
  pathPrefix : String := ""

def schemePort (scheme : String) : Int32 :=
  if scheme = "http" then 80 else if scheme = "https" then 443 else 0

def ParsedURL.portValue (url : ParsedURL) : Nat := Nat.ofDigitChars 10 url.port.toList 0

def effectiveURLPort (url : ParsedURL) : Int32 :=
  -- a number past 64 bits is an error of the conversion, one past 32 is cut
  if url.port ≠ "" ∧ url.portValue < 2 ^ 63 then Int32.ofInt url.portValue
  else schemePort url.scheme

def allowedEndpointPort (endpoint : PowerHookEndpointAllowlistEntry) : Int32 :=
  endpoint.port.getD (schemePort endpoint.scheme)

def ParsedURL.requestPath (url : ParsedURL) : String := if url.path = "" then "/" else url.path

section

variable (fold : Char → Char)

def equalFold (first second : String) : Bool := first.toList.map fold = second.toList.map fold

def endpointAllows (url : ParsedURL) (endpoint : PowerHookEndpointAllowlistEntry) : Bool :=
  url.scheme = endpoint.scheme && equalFold fold url.hostname endpoint.host &&
    effectiveURLPort url = allowedEndpointPort endpoint &&
    (endpoint.pathPrefix = "" || endpoint.pathPrefix.toList.isPrefixOf url.requestPath.toList)

def hookURLAllowed (url : ParsedURL) (allowed : List PowerHookEndpointAllowlistEntry) : Bool :=
  allowed.any (endpointAllows fold url)

end

def dropDots (kept : List (List Char)) : List (List Char) → List (List Char)
  | [] => kept.reverse
  | segment :: rest =>
    let last := if rest = [] then [[]] else []
    if segment = ['.'] then dropDots kept rest ++ last
    else if segment = ['.', '.'] then dropDots kept.tail rest ++ last
    else dropDots (segment :: kept) rest

/-- An absolute path as its receiver resolves it. -/
def removeDotSegments (path : String) : List Char :=
  '/' :: ['/'].intercalate (dropDots [] (path.toList.splitOn '/').tail)

example : removeDotSegments "/power/./a/../b/.." = "/power/".toList := by decide

def ParsedURL.portNumber (url : ParsedURL) : Int :=
  if url.port = "" then (schemePort url.scheme).toInt else url.portValue

def Under (pathPrefix path : List Char) : Prop :=
  pathPrefix = [] ∨ path = pathPrefix ∨ pathPrefix ++ ['/'] <+: path ∨
    pathPrefix.getLast? = some '/' ∧ pathPrefix <+: path

instance (pathPrefix path : List Char) : Decidable (Under pathPrefix path) :=
  inferInstanceAs (Decidable (_ ∨ _ ∨ _ ∨ _ ∧ _))

/-- What an entry is there to say of the URLs it allows. -/
structure Confines (fold : Char → Char) (url : ParsedURL)
    (endpoint : PowerHookEndpointAllowlistEntry) : Prop where
  scheme : url.scheme = endpoint.scheme
  host : equalFold fold url.hostname endpoint.host = true
  port : url.portNumber = (allowedEndpointPort endpoint).toInt
  path : Under endpoint.pathPrefix.toList (removeDotSegments url.requestPath)

theorem portNumber_eq_iff (url : ParsedURL) (port : Int32) :
    url.portNumber = port.toInt ↔ effectiveURLPort url = port ∧ url.portNumber < 2 ^ 31 := by
  have hlt := port.toInt_lt
  rw [ParsedURL.portNumber, effectiveURLPort]
  by_cases hport : url.port = ""
  · rw [if_pos hport, if_neg fun h => h.1 hport, Int32.toInt_inj]
    exact ⟨fun h => ⟨h, (schemePort url.scheme).toInt_lt⟩, And.left⟩
  · rw [if_neg hport]
    constructor
    · intro h
      have hv : (url.portValue : Int) < 2 ^ 31 := h ▸ hlt
      rw [if_pos ⟨hport, by omega⟩, h, Int32.ofInt_toInt]
      exact ⟨rfl, hlt⟩
    · rintro ⟨h, hv⟩
      rw [if_pos ⟨hport, by omega⟩] at h
      rw [← h, Int32.toInt_ofInt_of_le (by omega) hv]

/-- What the check asks of a URL: its port as it is cut, its path as it is written. -/
structure Matches (fold : Char → Char) (url : ParsedURL)
    (endpoint : PowerHookEndpointAllowlistEntry) : Prop where
  scheme : url.scheme = endpoint.scheme
  host : equalFold fold url.hostname endpoint.host = true
  port : effectiveURLPort url = allowedEndpointPort endpoint
  path : endpoint.pathPrefix.toList <+: url.requestPath.toList

theorem endpointAllows_iff {fold : Char → Char} {url : ParsedURL}
    {endpoint : PowerHookEndpointAllowlistEntry} :
    endpointAllows fold url endpoint = true ↔ Matches fold url endpoint := by
  have hpath : (endpoint.pathPrefix = "" ∨
      endpoint.pathPrefix.toList <+: url.requestPath.toList) ↔
        endpoint.pathPrefix.toList <+: url.requestPath.toList := by
    refine or_iff_right_of_imp fun hempty => ?_
    rw [hempty]
    exact List.nil_prefix
  simp only [endpointAllows, Bool.and_eq_true, Bool.or_eq_true, decide_eq_true_eq,
    List.isPrefixOf_iff_prefix, hpath]
  exact ⟨fun h => ⟨h.1.1.1, h.1.1.2, h.1.2, h.2⟩,
    fun h => ⟨⟨⟨h.scheme, h.host⟩, h.port⟩, h.path⟩⟩

/-- The allowlist confines a URL exactly if no entry matches it, or its port is not cut
and, for an entry of its scheme, host and port, the resolved path lies under the
prefix. -/
theorem allowlist_confines_iff (fold : Char → Char) (url : ParsedURL)
    (allowed : List PowerHookEndpointAllowlistEntry) :
    (hookURLAllowed fold url allowed = true → ∃ endpoint ∈ allowed, Confines fold url endpoint) ↔
      (∀ endpoint ∈ allowed, ¬ Matches fold url endpoint) ∨
        url.portNumber < 2 ^ 31 ∧ ∃ endpoint ∈ allowed, url.scheme = endpoint.scheme ∧
          equalFold fold url.hostname endpoint.host = true ∧
          effectiveURLPort url = allowedEndpointPort endpoint ∧
          Under endpoint.pathPrefix.toList (removeDotSegments url.requestPath) := by
  have hrefused : ¬ hookURLAllowed fold url allowed = true ↔
      ∀ endpoint ∈ allowed, ¬ Matches fold url endpoint := by
    simp [hookURLAllowed, ← endpointAllows_iff]
  rw [imp_iff_not_or, hrefused]
  refine or_congr_right ⟨?_, ?_⟩
  · rintro ⟨endpoint, hmem, hscheme, hhost, hport, hpath⟩
    obtain ⟨hsame, hlt⟩ := (portNumber_eq_iff url _).mp hport
    exact ⟨hlt, endpoint, hmem, hscheme, hhost, hsame, hpath⟩
  · rintro ⟨hlt, endpoint, hmem, hscheme, hhost, hsame, hpath⟩
    exact ⟨endpoint, hmem, hscheme, hhost, (portNumber_eq_iff url _).mpr ⟨hsame, hlt⟩, hpath⟩

def powerEndpoint : PowerHookEndpointAllowlistEntry :=
  { scheme := "https", host := "hooks.example.test", pathPrefix := "/power" }

def hookURL (path : String) : ParsedURL :=
  { scheme := "https", hostname := "hooks.example.test", path := path }

def cutPort : ParsedURL := { hookURL "/power" with port := "4294967739", digits := by decide }

/-- A path that leaves the prefix, one that only starts like it, and a port that is cut
to the default one. -/
theorem unconfined_urls_accepted :
    [hookURL "/power/../admin", hookURL "/powerless", cutPort].Forall fun url =>
      hookURLAllowed id url [powerEndpoint] = true ∧
        ¬ ∃ endpoint ∈ [powerEndpoint], Confines id url endpoint := by
  have hnot : ∀ {url}, ¬ Confines id url powerEndpoint →
      ¬ ∃ endpoint ∈ [powerEndpoint], Confines id url endpoint := by
    rintro url h ⟨endpoint, hmem, hc⟩
    exact h (List.mem_singleton.mp hmem ▸ hc)
  refine ⟨⟨by decide, hnot fun h => ?_⟩, ⟨by decide, hnot fun h => ?_⟩, by decide, hnot fun h => ?_⟩
  · exact absurd h.path (by decide)
  · exact absurd h.path (by decide)
  · exact absurd h.port (by decide)

end NutOperator.Kubeactions
