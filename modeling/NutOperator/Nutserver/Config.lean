import NutOperator.Data.Text
import NutOperator.Planner.Text

/-! The NUT configuration of the operands: the devices of a server in `ups.conf`, and
the servers an agent monitors in `upsmon.conf`. Every write ends a line, and a failed
check discards what was written, so a file is the list of its lines. -/
namespace NutOperator.Nutserver

open Data List
open Planner (quote)

def validateNUTConfigValue (value : String) : Except String Unit :=
  if value.toList.any (· ∈ ['\r', '\n', '[', ']']) then
    .error "value contains unsupported control or section characters"
  else .ok ()

def validateNUTConfigToken (value : String) : Except String Unit :=
  if value = "" then .error "value is empty" else validateNUTConfigValue value

def wrapped (context : String) (checked : Except String Unit) : Except String Unit :=
  checked.mapError fun error => context ++ ": " ++ error

structure UPSDevice where
  name : String
  /-- The status's; empty until the device was reconciled. -/
  nutName : String := ""
  driver : String := ""
  upstreamNUT : Bool := false
  driverOptions : List (String × String) := []
  /-- Where the simulation's sequence is, if it has one. -/
  sequenceConfigMap : String := ""

def UPSDevice.hasSimulationSequence (device : UPSDevice) : Bool := device.sequenceConfigMap ≠ ""

def UPSDevice.chosenName (device : UPSDevice) : String :=
  if device.nutName ≠ "" then device.nutName else device.name

def sectionLine (name : String) : String := "[" ++ name ++ "]"

def settingLine (setting : String × String) : String := "  " ++ setting.1 ++ " = " ++ setting.2

def sections (lines : List String) : List String :=
  lines.filter fun line => line.toList.head? = some '['

section

variable (lower : Char → Char)

def sanitizeNUTName (value : String) : String :=
  let written := value.toList.map fun c =>
    let c := lower c
    if ('a' ≤ c ∧ c ≤ 'z') ∨ ('0' ≤ c ∧ c ≤ '9') ∨ c = '_' ∨ c = '-' then c else '-'
  String.ofList ((written.dropWhile (· = '-')).rdropWhile (· = '-'))

def nutDeviceName (device : UPSDevice) : String := sanitizeNUTName lower device.chosenName

def dummyUPSFileName (sequence : Bool) (kind suffix : String) (device : UPSDevice) :
    Except String (Option String) := do
  if device.driver ≠ "dummy-ups" ∨ device.upstreamNUT ∨
      (device.driverOptions.lookup "port").getD "" ≠ "" ∨
      device.hasSimulationSequence ≠ sequence then
    pure none
  else
    let filename := nutDeviceName lower device ++ suffix
    wrapped ("invalid dummy UPS " ++ kind ++ " filename for UPSDevice " ++ quote device.name)
      (validateNUTConfigToken filename)
    pure (some filename)

def dummyUPSDefinitionFileName : UPSDevice → Except String (Option String) :=
  dummyUPSFileName lower false "definition" ".dev"

def dummyUPSSimulationFileName : UPSDevice → Except String (Option String) :=
  dummyUPSFileName lower true "simulation" ".seq"

/-- Where a selected device is polled: the server, the name there, the host and the port. -/
def pollTarget (server host : String) (port : Int32) (device : UPSDevice) :
    String × String × String × Int32 :=
  (server, nutDeviceName lower device, host, port)

/-- Beside the name, a device is checked and written by functions of that device alone. -/
def renderUPSConf (validateUPSDevice checkSettings : UPSDevice → Except String Unit)
    (settings : UPSDevice → List (String × String)) (devices : List UPSDevice) :
    Except String (List String) := do
  devices.forM fun device => do
    wrapped ("invalid selected UPSDevice " ++ quote device.name) (validateUPSDevice device)
    wrapped ("invalid NUT device name for UPSDevice " ++ quote device.name)
      (validateNUTConfigToken (nutDeviceName lower device))
    checkSettings device
  pure (devices.flatMap fun device =>
    sectionLine (nutDeviceName lower device) :: (settings device).map settingLine ++ [""])

variable {lower} {devices : List UPSDevice}

theorem sections_flatMap (settings : UPSDevice → List (String × String)) :
    sections (devices.flatMap fun device =>
      sectionLine (nutDeviceName lower device) :: (settings device).map settingLine ++ [""]) =
        devices.map fun device => sectionLine (nutDeviceName lower device) := by
  have hset : ∀ written : List (String × String),
      sections (written.map settingLine ++ [""]) = [] := by
    intro written
    rw [sections, filter_eq_nil_iff, forall_mem_append, forall_mem_map]
    simp [settingLine]
  induction devices with
  | nil => rfl
  | cons device rest ih =>
    rw [flatMap_cons, map_cons, ← ih, sections, filter_append, cons_append,
      filter_cons_of_pos (by simp [sectionLine])]
    exact congrArg (· ++ _) (congrArg (_ :: ·) (hset _))

theorem dummyUPSFileName_eq {sequence : Bool} {kind suffix file : String} {device : UPSDevice}
    (h : dummyUPSFileName lower sequence kind suffix device = .ok (some file)) :
    file = nutDeviceName lower device ++ suffix := by
  unfold dummyUPSFileName at h
  split at h
  · exact nomatch Except.ok.inj h
  · obtain ⟨_, -, hfile⟩ := exists_ok_of_bind h
    exact (Option.some.inj (Except.ok.inj hfile)).symm

variable (lower) in
def FixtureFile (device : UPSDevice) (file : String) : Prop :=
  dummyUPSDefinitionFileName lower device = .ok (some file) ∨
    dummyUPSSimulationFileName lower device = .ok (some file)

theorem FixtureFile.nutDeviceName_eq {first second : UPSDevice} {file : String}
    (hfirst : FixtureFile lower first file) (hsecond : FixtureFile lower second file) :
    nutDeviceName lower first = nutDeviceName lower second := by
  rcases hfirst with hfirst | hfirst <;> rcases hsecond with hsecond | hsecond <;>
    have hsame := (dummyUPSFileName_eq hfirst).symm.trans (dummyUPSFileName_eq hsecond)
  · simpa using hsame
  · simpa using congrArg (·.toList.getLast?) hsame
  · simpa using congrArg (·.toList.getLast?) hsame
  · simpa using hsame

section

variable (lower)

/-- The character stays as it is; any other is written as a dash. -/
def Written (c : Char) : Prop := ('a' ≤ c ∧ c ≤ 'z') ∨ ('0' ≤ c ∧ c ≤ '9') ∨ c = '_'

instance : DecidablePred Written := fun _ => inferInstanceAs (Decidable (_ ∨ _ ∨ _))

/-- The same letter but for its case, the same digit or underscore, or two characters
that are neither. -/
def Alike (first second : Char) : Prop :=
  if Written (lower first) then lower first = lower second else ¬ Written (lower second)

instance : DecidableRel (Alike lower) := fun _ _ => inferInstanceAs (Decidable (ite ..))

/-- A name without what is neither letter, digit nor underscore at its ends. -/
def trimmed (name : String) : List Char :=
  let dashed := fun c => ¬ Written (lower c)
  (name.toList.dropWhile dashed).rdropWhile dashed

end

theorem sanitizeNUTName_eq_iff (first second : String) :
    sanitizeNUTName lower first = sanitizeNUTName lower second ↔
      Forall₂ (Alike lower) (trimmed lower first) (trimmed lower second) := by
  let write := fun c => if Written (lower c) then lower c else '-'
  have hdash : ∀ c, write c = '-' ↔ ¬ Written (lower c) := by
    intro c
    by_cases hc : Written (lower c)
    · simp only [write, if_pos hc, hc, not_true, iff_false]
      rintro hsame
      exact absurd (hsame ▸ hc) (by decide)
    · simp [write, hc]
  have hwrite : ∀ c, (if ('a' ≤ lower c ∧ lower c ≤ 'z') ∨ ('0' ≤ lower c ∧ lower c ≤ '9') ∨
      lower c = '_' ∨ lower c = '-' then lower c else '-') = write c := by
    intro c
    simp only [write, Written, ← or_assoc]
    by_cases hc : lower c = '-' <;> simp [hc]
  have hname : ∀ name, sanitizeNUTName lower name =
      String.ofList ((trimmed lower name).map write) := by
    intro name
    simp only [sanitizeNUTName, trimmed, hwrite, rdropWhile, dropWhile_map, ← map_reverse,
      Function.comp_def, hdash]
  have halike : (fun first second => write first = write second) = Alike lower := by
    funext first second
    have hfirst := hdash first
    have hsecond := hdash second
    simp only [write] at hfirst hsecond ⊢
    simp only [Alike, eq_iff_iff]
    split <;> split <;> grind
  rw [hname, hname, String.ofList_inj, ← forall₂_eq_eq_eq, forall₂_map_left_iff,
    forall₂_map_right_iff, halike]

/-- Two devices of an accepted configuration share no section, fixture file or poll
target exactly if their chosen names differ in more than the case of letters, the
characters that are no letter, digit or underscore, and such characters at the ends. -/
theorem devices_separate_iff {validateUPSDevice checkSettings : UPSDevice → Except String Unit}
    {settings : UPSDevice → List (String × String)} {lines : List String} (server host : String)
    (port : Int32)
    (h : renderUPSConf lower validateUPSDevice checkSettings settings devices = .ok lines) :
    ((sections lines).Nodup ∧ (devices.map (pollTarget lower server host port)).Nodup ∧
      devices.Pairwise fun first second => ∀ file,
        FixtureFile lower first file → ¬ FixtureFile lower second file) ↔
      devices.Pairwise fun first second => ¬ Forall₂ (Alike lower)
        (trimmed lower first.chosenName) (trimmed lower second.chosenName) := by
  obtain ⟨_, -, hlines⟩ := exists_ok_of_bind h
  rw [← Except.ok.inj hlines, sections_flatMap]
  simp only [Nodup, pairwise_map, ← sanitizeNUTName_eq_iff]
  constructor
  · intro hseparate
    exact hseparate.1.imp fun hne hsame => hne (congrArg sectionLine hsame)
  · intro hnames
    refine ⟨hnames.imp fun hne hsame => hne ?_, hnames.imp fun hne hsame => hne ?_,
      hnames.imp fun hne file hfirst hsecond => hne (hfirst.nutDeviceName_eq hsecond)⟩
    · simpa [sectionLine, nutDeviceName] using hsame
    · exact congrArg (·.2.1) hsame

end

def rackUPS (name : String) : UPSDevice := { name := name, driver := "snmp-ups" }

def rackConf (devices : List UPSDevice) : Except String (List String) :=
  renderUPSConf Char.toLower (fun _ => .ok ()) (fun _ => .ok ())
    (fun device => [("driver", device.driver), ("port", "ups.example.test")]) devices

theorem two_racks_separate : ∃ lines, rackConf [rackUPS "rack-a", rackUPS "rack-b"] = .ok lines ∧
    (sections lines).Nodup := by
  have h : rackConf [rackUPS "rack-a", rackUPS "rack-b"] = .ok _ := rfl
  exact ⟨_, h, ((devices_separate_iff "nut" "nut.example.test" 3493 h).mpr (by decide)).1⟩

theorem dotted_name_shares_section : ∃ lines,
    rackConf [rackUPS "rack-a", rackUPS "rack.a"] = .ok lines ∧ ¬ (sections lines).Nodup :=
  ⟨_, rfl, by decide⟩

structure AgentMonitorTarget where
  (upsName serverDNS username password : String)
  port : Int32 := 3493

def AgentMonitorTarget.serverAddress (target : AgentMonitorTarget) : String :=
  if target.port ≠ 3493 then target.serverDNS ++ ":" ++ toString target.port else target.serverDNS

def AgentMonitorTarget.system (target : AgentMonitorTarget) : String :=
  target.upsName ++ "@" ++ target.serverAddress

def AgentMonitorTarget.line (target : AgentMonitorTarget) : String :=
  "MONITOR " ++ target.system ++ " 1 " ++ target.username ++ " " ++ target.password ++ " secondary"

def checkTarget (target : AgentMonitorTarget) : Except String Unit := do
  wrapped ("invalid UPS monitor target name " ++ quote target.upsName)
    (validateNUTConfigToken target.upsName)
  wrapped ("invalid UPS monitor server " ++ quote target.serverAddress)
    (validateNUTConfigValue target.serverAddress)
  wrapped "invalid UPS monitor username" (validateNUTConfigValue target.username)
  wrapped "invalid UPS monitor password" (validateNUTConfigValue target.password)

/-- The lines of `upsmon.conf` for the monitored servers. The settings before them and
the TLS block after them have other keywords. -/
def renderMonitors (targets : List AgentMonitorTarget) : Except String (List String) := do
  targets.forM checkTarget
  pure (targets.map (·.line))

/-- C's classification of bytes. Those of a character beyond ASCII are no space. -/
def isspace (c : Char) : Bool := c = ' ' || (9 ≤ c.toNat && c.toNat ≤ 13)

/-- The words of a line as NUT splits it. White space separates them, double quotes
group, a backslash escapes what follows and an unquoted # starts a comment. -/
def splitWords (quoted escaped : Bool) (word : Option (List Char)) : List Char → List (List Char)
  | [] => word.toList
  | c :: rest =>
    let taken := some (word.getD [] ++ [c])
    let kept := some (word.getD [])
    if escaped then splitWords quoted false taken rest
    else if c = '\\' then splitWords quoted true kept rest
    else if c = '"' then splitWords (!quoted) false kept rest
    else if quoted then splitWords true false taken rest
    else if c = '#' then word.toList
    else if isspace c then word.toList ++ splitWords false false none rest
    else splitWords false false taken rest

def readLine (line : String) : List (List Char) := splitWords false false none line.toList

example : readLine "MONITOR \"a b\" c\\ d e#f" =
    ["MONITOR", "a b", "c d", "e"].map String.toList := by
  decide

def special (c : Char) : Bool := c = '\\' || c = '"' || c = '#' || isspace c

/-- What stands for itself where a word is expected. -/
def PlainWord (word : List Char) : Prop := word ≠ [] ∧ ∀ c ∈ word, special c = false

instance (word : List Char) : Decidable (PlainWord word) :=
  @instDecidableAnd _ _ _ (decidableBAll _ word)

section

variable {words : List (List Char)}

theorem countP_intercalate {counted : Char → Bool} (hsep : counted ' ' = true) (hne : words ≠ []) :
    ([' '].intercalate words).countP counted + 1 = (words.map (·.countP counted + 1)).sum := by
  induction words with
  | nil => exact absurd rfl hne
  | cons word rest ih =>
    cases rest with
    | nil => simp
    | cons next rest =>
      rw [intercalate_cons_cons, map_cons, sum_cons, ← ih (cons_ne_nil _ _)]
      simp [hsep]
      omega

theorem splitWords_cons_of_plain {c : Char} (hplain : special c = false)
    (word : Option (List Char)) (rest : List Char) : splitWords false false word (c :: rest) =
      splitWords false false (some (word.getD [] ++ [c])) rest := by
  rw [splitWords]
  grind [special]

theorem splitWords_append {more : List Char} (hplain : ∀ c ∈ more, special c = false)
    (taken rest : List Char) : splitWords false false (some taken) (more ++ rest) =
      splitWords false false (some (taken ++ more)) rest := by
  induction more generalizing taken with
  | nil => simp
  | cons c more ih =>
    obtain ⟨hf, hrest⟩ := forall_mem_cons.mp hplain
    simp [splitWords_cons_of_plain hf, ih hrest]

theorem splitWords_plain {word : List Char} (hplain : PlainWord word) (rest : List Char) :
    splitWords false false none (word ++ rest) = splitWords false false (some word) rest := by
  obtain ⟨c, word, rfl⟩ := exists_cons_of_ne_nil hplain.1
  obtain ⟨hf, hrest⟩ := forall_mem_cons.mp hplain.2
  rw [cons_append, splitWords_cons_of_plain hf]
  exact splitWords_append hrest [c] rest

def cost (words : List (List Char)) : Nat := (words.map (·.length + 1)).sum

theorem cost_toList_le (word : Option (List Char)) :
    cost word.toList ≤ (word.getD []).length + 1 := by
  cases word <;> simp [cost]

theorem cost_append (first second : List (List Char)) :
    cost (first ++ second) = cost first + cost second := by
  simp [cost]

theorem cost_splitWords_le (quoted escaped : Bool) (word : Option (List Char)) (text : List Char) :
    cost (splitWords quoted escaped word text) ≤ (word.getD []).length + 1 + text.length := by
  induction text generalizing quoted escaped word with
  | nil => exact cost_toList_le word
  | cons c rest ih =>
    have hword := cost_toList_le word
    unfold splitWords
    grind [cost_append]

theorem countP_special_of_cost_eq (word : Option (List Char)) (text : List Char)
    (hword : word ≠ some [])
    (h : cost (splitWords false false word text) = (word.getD []).length + 1 + text.length) :
    text.countP special + 1 = (splitWords false false word text).length ∧
      [] ∉ splitWords false false word text := by
  induction text generalizing word with
  | nil =>
    cases word with
    | none => cases h
    | some taken => simpa [splitWords, eq_comm] using hword
  | cons c rest ih =>
    by_cases hplain : special c = false
    · rw [splitWords_cons_of_plain hplain] at h ⊢
      rw [countP_cons_of_neg (by simp [hplain])]
      apply ih _ (by simp)
      grind
    · have hle := fun quoted escaped word => cost_splitWords_le quoted escaped word rest
      rw [countP_cons_of_pos (by simpa using hplain)]
      rw [splitWords] at h ⊢
      cases word <;> grind [cost_append, special, cost]

theorem splitWords_intercalate_iff (hne : words ≠ []) :
    splitWords false false none ([' '].intercalate words) = words ↔
      ∀ word ∈ words, PlainWord word := by
  constructor
  · intro h
    have hlen := @countP_intercalate words (fun _ => true) rfl hne
    have hspaces := @countP_intercalate words special rfl hne
    simp only [countP_true] at hlen
    obtain ⟨hcount, hnil⟩ := countP_special_of_cost_eq none ([' '].intercalate words) nofun (by
      rw [h, cost, Option.getD_none, length_nil]
      omega)
    rw [h] at hcount hnil
    have hsum : (words.map (·.countP special + 1)).sum =
        (words.map (·.countP special)).sum + words.length := by
      simp [sum_map_add]
    intro word hmem
    have hzero : (words.map (·.countP special)).sum = 0 := by omega
    have hword := List.sum_eq_zero_iff_forall_eq_nat.mp hzero _ (mem_map_of_mem hmem)
    refine ⟨fun heq => hnil (heq ▸ hmem), fun c hc => ?_⟩
    simpa using countP_eq_zero.mp hword c hc
  · intro hplain
    induction words with
    | nil => exact absurd rfl hne
    | cons word rest ih =>
      obtain ⟨hword, hplain⟩ := forall_mem_cons.mp hplain
      cases rest with
      | nil => simpa [splitWords] using splitWords_plain hword []
      | cons next rest =>
        rw [intercalate_cons_cons, append_assoc, splitWords_plain hword, singleton_append,
          splitWords]
        simp [ih (cons_ne_nil _ _) hplain, isspace]

end

/-- The monitored servers are read back as they were given exactly if no system, user
name or password is empty or has a special character. -/
theorem monitor_lines_read_back_iff {targets : List AgentMonitorTarget} {lines : List String}
    (h : renderMonitors targets = .ok lines) :
    lines.map readLine = targets.map (fun target => ["MONITOR", target.system, "1",
        target.username, target.password, "secondary"].map String.toList) ↔
      ∀ target ∈ targets, PlainWord target.system.toList ∧ PlainWord target.username.toList ∧
        PlainWord target.password.toList := by
  obtain ⟨_, -, hlines⟩ := exists_ok_of_bind h
  rw [← Except.ok.inj hlines, map_map, map_inj_left]
  refine forall₂_congr fun target _ => ?_
  have htext : target.line.toList = [' '].intercalate (["MONITOR", target.system, "1",
      target.username, target.password, "secondary"].map String.toList) := by
    simp [AgentMonitorTarget.line, intercalate]
  have hfixed : ∀ word ∈ ["MONITOR", "1", "secondary"], PlainWord word.toList := by
    simp [PlainWord, special, isspace]
  rw [Function.comp_apply, readLine, htext, splitWords_intercalate_iff (by simp)]
  simp only [map_cons, map_nil, forall_mem_cons] at hfixed ⊢
  grind

def rackTarget (password : String) : AgentMonitorTarget :=
  { upsName := "rack-a", serverDNS := "nut", username := "monitor", password := password }

theorem plain_password_read_back : ∃ lines, renderMonitors [rackTarget "secret"] = .ok lines ∧
    lines.map readLine = [["MONITOR", "rack-a@nut", "1", "monitor", "secret",
      "secondary"].map String.toList] := by
  have h : renderMonitors [rackTarget "secret"] = .ok _ := rfl
  exact ⟨_, h, (monitor_lines_read_back_iff h).mpr (by decide)⟩

theorem spaced_password_not_read_back : ∃ lines,
    renderMonitors [rackTarget "two words"] = .ok lines ∧
      lines.map readLine ≠ [["MONITOR", "rack-a@nut", "1", "monitor", "two words",
        "secondary"].map String.toList] :=
  ⟨_, rfl, by decide⟩

end NutOperator.Nutserver
