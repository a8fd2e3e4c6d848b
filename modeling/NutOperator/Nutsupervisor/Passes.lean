import NutOperator.Nutsupervisor.Runtime

/-! What a pass has read when it starts or stops a driver. -/
namespace NutOperator.Nutsupervisor

open Data Effects List

/-- A driver by its name, or upsd. -/
abbrev Daemon := Option String

def loaded : Operation → Option Daemon
  | .invoke ["upsd", "-c", "reload"] => some none
  | .invoke ["upsdrvctl", "-c", "reload-or-exit", name] => some (some name)
  | .start name _ => some (some name)
  | .reload name _ => some (some name)
  | _ => none

/-- Starts, stops or reloads a daemon. A driver may answer a reload with its exit. -/
def Touches : Operation → Prop
  | .invoke args => args ≠ Command.list.args
  | .start _ _ => True
  | .reload _ _ => True
  | .signal _ _ => True
  | _ => False

theorem loaded_of_not_touches {operation : Operation} (h : ¬ Touches operation) :
    loaded operation = none := by
  cases operation with
  | invoke args =>
    obtain rfl := not_not.mp h
    rfl
  | start name args => exact absurd trivial h
  | reload name process => exact absurd trivial h
  | _ => rfl

section

variable (sha256 : Bytes → Digest)

def Reads (digest : ConfigDigest) (empty : Bool) (trace : Trace) : Prop :=
  ∃ s ups users, digest = ⟨sha256 ups, sha256 users⟩ ∧ empty = ups.isEmpty ∧
    trace = [⟨⟨s, .readFile .upsConf⟩, .ok ups⟩, ⟨⟨s, .readFile .upsdUsers⟩, .ok users⟩]

def Lists (names : List String) (empty : Bool) (trace : Trace) : Prop :=
  if empty then names = [] ∧ trace = []
  else ∃ s output, readNames output = .ok names ∧
    trace = [⟨⟨s, .invoke Command.list.args⟩, .ok output⟩]

/-- Neither reads, nor runs a command, nor starts or stops anything. -/
def Collecting : Operation → Prop
  | .now => True
  | .contextErr => True
  | .range _ => True
  | .exited _ => True
  | _ => False

def Deciding : Operation → Prop
  | .now => True
  | .contextErr => True
  | _ => False

/-- The pass has read the configuration, listed its names and read the same again,
with nothing else in between. -/
def Cleared (digest : ConfigDigest) (names : List String) (before : Trace) : Prop :=
  ∃ collecting reading listing rereading rest empty again,
    before = collecting ++ (reading ++ (listing ++ (rereading ++ rest))) ∧
    (∀ exchange ∈ collecting, Collecting exchange.1.operation) ∧
    Reads sha256 digest empty reading ∧ Lists names empty listing ∧
    Reads sha256 digest again rereading

/-- The configuration was read, and then only the clock and the context. -/
def JustRead (digest : ConfigDigest) (before : Trace) : Prop :=
  ∃ earlier reading deciding empty, before = earlier ++ (reading ++ deciding) ∧
    Reads sha256 digest empty reading ∧
    ∀ exchange ∈ deciding, Deciding exchange.1.operation

/-- A driver that is started is among the names, and the configuration has just been
read again. -/
def StartsFrom (digest : ConfigDigest) (names : List String) (before : Trace)
    (exchange : Exchange Reply) : Prop :=
  ∀ name args, exchange.1.operation = .start name args →
    name ∈ names ∧ JustRead sha256 digest before

/-- What a pass that starts, stops or reloads a daemon has done before. -/
def Earned (before : Trace) (exchange : Exchange Reply) : Prop :=
  Touches exchange.1.operation → ∃ digest names, Cleared sha256 digest names before ∧
    StartsFrom sha256 digest names before exchange

variable {sha256} {digest : ConfigDigest} {names : List String} {before : Trace}

theorem Cleared.cons {exchange : Exchange Reply} (h : Cleared sha256 digest names before)
    (hcollected : Collecting exchange.1.operation) : Cleared sha256 digest names
    (exchange :: before) := by
  obtain ⟨collecting, reading, listing, rereading, rest, empty, again, rfl, hb, hrest⟩ := h
  refine ⟨exchange :: collecting, reading, listing, rereading, rest, empty, again, rfl, ?_, hrest⟩
  exact forall_mem_cons.mpr ⟨hcollected, hb⟩

theorem JustRead.append (h : JustRead sha256 digest before) (earlier : Trace) :
    JustRead sha256 digest (earlier ++ before) := by
  obtain ⟨first, reading, deciding, empty, rfl, hrest⟩ := h
  exact ⟨earlier ++ first, reading, deciding, empty, by simp only [append_assoc], hrest⟩

end

def anyReply : Exchange Reply → Prop := fun _ => True

def Starts : Operation → Prop
  | .start _ _ => True
  | _ => False

theorem within_ask {s : Supervisor} {op : Operation} {allowed : Request → Prop}
    (h : allowed ⟨s, op⟩) : Within allowed (ask s op) fun _ => True :=
  within_asked h

section

variable (sha256 : Bytes → Digest)

theorem ensures_ask (s : Supervisor) (op : Operation) :
    Ensures anyReply (ask s op) fun trace reply => trace = [⟨⟨s, op⟩, reply⟩] :=
  ensures_request fun _ _ => rfl

theorem not_starts_of_not_touches {operation : Operation} (h : ¬ Touches operation) :
    ¬ Starts operation := by
  cases operation with
  | start name args => exact absurd trivial h
  | _ => exact id

theorem ensures_snapshot (s : Supervisor) : Ensures anyReply (snapshot sha256 s) fun trace result =>
      (∀ exchange ∈ trace, ¬ Touches exchange.1.operation) ∧
        ∀ read, result = .ok read → Reads sha256 read.1 read.2 trace := by
  intro trace result _ hrun
  unfold snapshot at hrun
  cases hrun with
  | ask ups hrun =>
    cases ups with
    | error error =>
      cases hrun
      exact ⟨by simp [Touches], nofun⟩
    | ok ups =>
      cases hrun with
      | ask users hrun =>
        cases users with
        | error error =>
          cases hrun
          exact ⟨by simp [Touches], nofun⟩
        | ok users =>
          cases hrun
          refine ⟨by simp [Touches], ?_⟩
          rintro read hread
          cases hread
          exact ⟨s, ups, users, rfl, rfl, rfl⟩

theorem ensures_enumerate (s : Supervisor) (empty : Bool) :
    Ensures anyReply (enumerate s empty) fun trace result =>
      (∀ exchange ∈ trace, ¬ Touches exchange.1.operation) ∧
        ∀ names, result = .ok names → Lists names empty trace := by
  intro trace result _ hrun
  cases empty with
  | true =>
    cases hrun
    refine ⟨by simp, ?_⟩
    rintro names hn
    cases hn
    exact ⟨rfl, rfl⟩
  | false =>
    cases hrun with
    | ask listed hrun =>
      cases listed with
      | error error =>
        cases hrun
        exact ⟨by simp [Touches], nofun⟩
      | ok output =>
        cases hrun
        refine ⟨by simp [Touches], ?_⟩
        intro names hnames
        exact ⟨s, output, hnames, rfl⟩

theorem ensures_unchanged (s : Supervisor) (want : ConfigDigest) :
    Ensures anyReply (unchanged sha256 s want) fun trace result =>
      (∀ exchange ∈ trace, ¬ Touches exchange.1.operation) ∧
        (result = true → ∃ empty, Reads sha256 want empty trace) := by
  refine (ensures_snapshot sha256 s).bind fun trace read hread => ?_
  cases read with
  | error error =>
    refine ensures_pure ?_
    rw [append_nil]
    exact ⟨hread.1, nofun⟩
  | ok read =>
    refine ensures_pure ?_
    rw [append_nil]
    refine ⟨hread.1, fun hsame => ⟨read.2, ?_⟩⟩
    obtain rfl := of_decide_eq_true hsame
    exact hread.2 read rfl

theorem ensures_stillCurrent (s : Supervisor) (want : ConfigDigest) :
    Ensures anyReply (stillCurrent sha256 s want) fun trace result =>
      (∀ exchange ∈ trace, ¬ Touches exchange.1.operation) ∧
        (result = true → ∃ rereading rest again, trace = rereading ++ rest ∧
          Reads sha256 want again rereading ∧
          ∀ exchange ∈ rest, Deciding exchange.1.operation) := by
  refine (ensures_unchanged sha256 s want).bind fun trace same hsame => ?_
  cases same with
  | false =>
    refine ensures_pure ?_
    rw [append_nil]
    exact ⟨hsame.1, nofun⟩
  | true =>
    obtain ⟨empty, hr⟩ := hsame.2 rfl
    intro after result _ hrun
    cases hrun with
    | ask cancelled hrun =>
      cases hrun
      refine ⟨?_, fun _ => ⟨trace, _, empty, rfl, hr, by simp [Deciding]⟩⟩
      exact forall_mem_append.mpr ⟨hsame.1, forall_mem_singleton.mpr id⟩

abbrev StartsNothing {α : Type} (program : Run α) : Prop :=
  Within (fun request => ¬ Starts request.operation) program fun _ => True

abbrev LoadsNothing {α : Type} (program : Run α) : Prop :=
  Within (fun request => loaded request.operation = none) program fun _ => True

theorem LoadsNothing.startsNothing {α : Type} {program : Run α} (h : LoadsNothing program) :
    StartsNothing program := by
  refine Within.mono h fun request hnone => ?_
  cases hoperation : request.operation with
  | start name args =>
    rw [hoperation] at hnone
    cases hnone
  | _ => exact id

theorem loadsNothing_of_ensures {α : Type} {program : Run α} {post : Trace → α → Prop}
    (h : Ensures anyReply program fun trace value =>
      (∀ exchange ∈ trace, ¬ Touches exchange.1.operation) ∧ post trace value) :
    LoadsNothing program :=
  fun trace value hrun => ⟨fun exchange hmem => loaded_of_not_touches
    ((h trace value (fun _ _ => trivial) hrun).1 exchange hmem), trivial⟩

theorem loadsNothing_signalAll (s : Supervisor) (signal : Signal) (processes : List Process) :
    LoadsNothing (signalAll s signal processes) := by
  induction processes with
  | nil => exact within_pure trivial
  | cons process rest ih => exact (within_ask (by rfl)).bind fun _ _ => ih

theorem loadsNothing_stopProcessesContext (s : Supervisor) (background : Bool)
    (processes : List Process) : LoadsNothing (stopProcessesContext s background processes) := by
  unfold stopProcessesContext
  split
  · exact within_pure trivial
  · refine (loadsNothing_signalAll s .term processes).bind fun _ _ => ?_
    refine (within_ask (by rfl)).bind fun awaited _ => ?_
    cases awaited with
    | elapsed => exact (loadsNothing_signalAll s .kill processes).bind fun _ _ => within_ask rfl
    | _ => exact within_pure trivial

theorem loadsNothing_removeAbsent (s : Supervisor) (names : List String) :
    LoadsNothing (removeAbsent s names) := by
  refine (within_ask (by rfl)).bind fun order _ => ?_
  refine (loadsNothing_stopProcessesContext _ false _).bind fun stopped _ => ?_
  cases stopped <;> exact within_pure trivial

theorem startsNothing_applyConfig (s : Supervisor) (digest : ConfigDigest) :
    StartsNothing (applyConfig sha256 s digest) := by
  unfold applyConfig
  split
  · exact within_pure trivial
  · refine (within_ask id).bind fun reloaded _ => ?_
    cases reloaded with
    | error error => exact within_pure trivial
    | ok output =>
      refine (loadsNothing_of_ensures (ensures_stillCurrent sha256 _ digest)).startsNothing.bind
        fun same _ => ?_
      cases same <;> exact within_pure trivial

theorem startsNothing_reloadDriver (s : Supervisor) (name : String) (worker : DriverWorker)
    (digest : Digest) : StartsNothing (reloadDriver sha256 s name worker digest) := by
  refine (within_ask id).bind fun reloaded _ => ?_
  cases reloaded with
  | error error =>
    refine (within_ask id).bind fun cancelled _ => ?_
    cases cancelled with
    | true => exact within_pure trivial
    | false => exact (within_ask id).bind fun _ _ => within_pure trivial
  | ok output =>
    refine (loadsNothing_of_ensures (ensures_snapshot sha256 _)).startsNothing.bind
      fun read _ => ?_
    cases read with
    | error error => exact within_pure trivial
    | ok read =>
      dsimp only
      split
      · refine (within_ask id).bind fun cancelled _ => ?_
        cases cancelled <;> exact within_pure trivial
      · exact within_pure trivial

def StartsNamed (name : String) (before : Trace) (exchange : Exchange Reply) : Prop :=
  ∀ other args, exchange.1.operation = .start other args →
    other = name ∧ ∀ earlier ∈ before, Deciding earlier.1.operation

theorem StartsNothing.atEach {α : Type} {program : Run α} {prop : Trace → Exchange Reply → Prop}
    (h : StartsNothing program) (hproperty : ∀ before exchange, ¬ Starts exchange.1.operation →
      prop before exchange) :
    Ensures anyReply program fun trace _ => AtEach prop trace :=
  fun trace value _ hrun => atEach_of_mem fun exchange hmem before =>
    hproperty before exchange ((h trace value hrun).1 exchange hmem)

variable (interval : Duration)

theorem startsNamed_startDriver (s : Supervisor) (name : String) (digest : Digest) :
    Ensures anyReply (startDriver interval s name digest)
      fun trace _ => AtEach (StartsNamed name) trace := by
  intro trace next _ hrun
  cases hrun with
  | ask time hrun =>
    change Runs (if s.backsOff name time then pure s else _) _ _ at hrun
    split at hrun
    · cases hrun
      exact .cons nofun atEach_nil
    · cases hrun with
      | ask cancelled hrun =>
        cases cancelled with
        | true =>
          cases hrun
          exact .cons nofun (.cons nofun atEach_nil)
        | false =>
          have hstart : ∀ reply : Except String Process, StartsNamed name
              [⟨⟨s, .now⟩, time⟩, ⟨⟨s, .contextErr⟩, false⟩]
              ⟨⟨s, .start name (startArgs name)⟩, reply⟩ := by
            rintro reply other args ho
            cases ho
            exact ⟨rfl, by simp [Deciding]⟩
          cases hrun with
          | ask reply hrun =>
            cases reply with
            | error error =>
              cases hrun with
              | ask failed hrun =>
                cases hrun
                exact .cons nofun (.cons nofun (.cons (hstart _) (.cons nofun atEach_nil)))
            | ok process =>
              cases hrun
              exact .cons nofun (.cons nofun (.cons (hstart _) atEach_nil))

theorem startsNamed_reconcileDriver (s : Supervisor) (name : String) (digest : Digest) :
    Ensures anyReply (reconcileDriver sha256 interval s name digest)
      fun trace _ => AtEach (StartsNamed name) trace := by
  have hn : ∀ before (exchange : Exchange Reply), ¬ Starts exchange.1.operation →
      StartsNamed name before exchange := by
    intro before exchange hnot other args ho
    rw [ho] at hnot
    exact absurd trivial hnot
  unfold reconcileDriver
  split
  · split
    · exact ensures_pure atEach_nil
    · exact (startsNothing_reloadDriver sha256 s name _ digest).atEach hn
  · exact startsNamed_startDriver interval s name digest

theorem startsFrom_of_not (digest : ConfigDigest) (names : List String) (before : Trace)
    (exchange : Exchange Reply) (h : ¬ Starts exchange.1.operation) :
    StartsFrom sha256 digest names before exchange := by
  intro name args hs
  rw [hs] at h
  exact absurd trivial h

variable {digest : ConfigDigest} {names : List String}

theorem startsFrom_of_named {name : String} {reading : Trace} {empty : Bool} (hname : name ∈ names)
    (hread : Reads sha256 digest empty reading) (earlier before : Trace)
    (exchange : Exchange Reply) (h : StartsNamed name before exchange) :
    StartsFrom sha256 digest names (earlier ++ (reading ++ before)) exchange := by
  intro other args ho
  obtain ⟨rfl, hd⟩ := h other args ho
  exact ⟨hname, earlier, reading, before, empty, rfl, hread, hd⟩

theorem startsFrom_append (earlier before : Trace) (exchange : Exchange Reply)
    (h : StartsFrom sha256 digest names before exchange) :
    StartsFrom sha256 digest names (earlier ++ before) exchange :=
  fun name args hname => ⟨(h name args hname).1, (h name args hname).2.append earlier⟩

theorem startsFrom_reconcileDrivers (rest : List String) (hrest : ∀ name ∈ rest, name ∈ names)
    (s : Supervisor) :
    Ensures anyReply (reconcileDrivers sha256 interval digest rest s)
      fun trace _ => AtEach (StartsFrom sha256 digest names) trace := by
  induction rest generalizing s with
  | nil => exact ensures_pure atEach_nil
  | cons name rest ih =>
    have hname : name ∈ names := hrest name mem_cons_self
    refine (ensures_ask s .contextErr).bind fun looking cancelled hlooking => ?_
    subst hlooking
    have hlooks : AtEach (StartsFrom sha256 digest names) [⟨⟨s, .contextErr⟩, cancelled⟩] :=
      .cons nofun atEach_nil
    cases cancelled with
    | true => exact ensures_pure hlooks
    | false =>
      refine (ensures_unchanged sha256 s digest).bind fun reading same hsame => ?_
      have hread : ∀ earlier, AtEach
          (fun before => StartsFrom sha256 digest names (earlier ++ before)) reading :=
        fun earlier => atEach_of_mem fun exchange hmem before =>
          startsFrom_of_not sha256 _ _ _ exchange
            (not_starts_of_not_touches (hsame.1 exchange hmem))
      cases same with
      | false =>
        refine ensures_pure ?_
        rw [append_nil]
        exact hlooks.append (hread _)
      | true =>
        obtain ⟨empty, hr⟩ := hsame.2 rfl
        refine (startsNamed_reconcileDriver sha256 interval s name digest.ups).bind
          fun driving next hd => ?_
        refine (ih (fun name hmem => hrest name (mem_cons_of_mem _ hmem)) next).imp
          fun after out ha => ?_
        refine hlooks.append ((hread _).append ((hd.imp ?_).append (ha.imp ?_)))
        · exact startsFrom_of_named sha256 hname hr _
        · intro before exchange hs
          exact startsFrom_append sha256 _ _ _ (startsFrom_append sha256 _ _ _
            (startsFrom_append sha256 _ _ _ hs))

theorem collecting_collectNamed (names : List String) (s : Supervisor) :
    Within (fun request => Collecting request.operation) (collectNamed interval names s)
      fun _ => True := by
  induction names generalizing s with
  | nil => exact within_pure trivial
  | cons name rest ih =>
    unfold collectNamed
    split
    · exact ih s
    · refine (within_ask trivial).bind fun exited _ => ?_
      cases exited with
      | false => exact ih s
      | true => exact (within_ask trivial).bind fun _ _ => ih _

theorem collecting_collectExits (s : Supervisor) :
    Within (fun request => Collecting request.operation) (collectExits interval s) fun _ => True :=
  (within_ask trivial).bind fun order _ => collecting_collectNamed interval order s

theorem startsFrom_rest (s : Supervisor) (digest : ConfigDigest) (names : List String) :
    Ensures anyReply (do
        let (applied, s) ← applyConfig sha256 s digest
        if applied then do
          let s ← removeAbsent s names
          reconcileDrivers sha256 interval digest names s
        else pure s)
      fun trace _ => AtEach (StartsFrom sha256 digest names) trace := by
  refine ((startsNothing_applyConfig sha256 s digest).atEach
    (startsFrom_of_not sha256 digest names)).bind fun applying result happlied => ?_
  obtain ⟨applied, s⟩ := result
  cases applied with
  | false =>
    refine ensures_pure ?_
    rw [append_nil]
    exact happlied
  | true =>
    refine ((loadsNothing_removeAbsent s names).startsNothing.atEach
      (startsFrom_of_not sha256 digest names)).bind fun removing s hr => ?_
    refine (startsFrom_reconcileDrivers sha256 interval names (fun _ hname => hname) s).imp
      fun driving next hd => ?_
    refine happlied.append ((hr.imp ?_).append (hd.imp ?_))
    · exact fun before exchange h => startsFrom_append sha256 _ _ _ h
    · exact fun before exchange h =>
        startsFrom_append sha256 _ _ _ (startsFrom_append sha256 _ _ _ h)

variable {sha256}

theorem not_touches_of_collecting {operation : Operation} (h : Collecting operation) :
    ¬ Touches operation := by
  cases operation with
  | now => exact id
  | contextErr => exact id
  | range keys => exact id
  | exited process => exact id
  | _ => exact h.elim

theorem earned_reconcile (s : Supervisor) : Ensures anyReply (reconcile sha256 interval s)
      fun trace _ => AtEach (Earned sha256) trace := by
  refine (collecting_collectExits interval s).ensures.bind fun collecting s hcollecting => ?_
  have hcollected : AtEach (Earned sha256) collecting :=
    atEach_of_mem fun exchange hmem before htouches =>
    absurd htouches (not_touches_of_collecting (hcollecting.1 exchange hmem))
  refine (ensures_snapshot sha256 s).bind fun reading read hread => ?_
  have hquiet : ∀ {trace : Trace} (earlier : Trace → Trace),
      (∀ exchange ∈ trace, ¬ Touches exchange.1.operation) →
      AtEach (fun before => Earned sha256 (earlier before)) trace :=
    fun earlier hnot => atEach_of_mem fun exchange hmem before htouches =>
      absurd htouches (hnot exchange hmem)
  cases read with
  | error error =>
    refine ensures_pure ?_
    rw [append_nil]
    exact hcollected.append (hquiet _ hread.1)
  | ok read =>
    refine (ensures_enumerate s read.2).bind fun listing listed hlisted => ?_
    cases listed with
    | error error =>
      refine ensures_pure ?_
      rw [append_nil]
      exact hcollected.append ((hquiet _ hread.1).append (hquiet _ hlisted.1))
    | ok names =>
      refine (ensures_stillCurrent sha256 s read.1).bind fun rereading same hsame => ?_
      cases same with
      | false =>
        refine ensures_pure ?_
        rw [append_nil]
        exact hcollected.append
          ((hquiet _ hread.1).append ((hquiet _ hlisted.1).append (hquiet _ hsame.1)))
      | true =>
        obtain ⟨again, looking, empty, rfl, hr, -⟩ := hsame.2 rfl
        refine (startsFrom_rest sha256 interval s read.1 names).imp fun rest next hrest => ?_
        refine hcollected.append ((hquiet _ hread.1).append ((hquiet _ hlisted.1).append
          ((hquiet _ hsame.1).append (hrest.imp ?_))))
        intro before exchange hs
        have hc : Cleared sha256 read.1 names
            (collecting ++ (reading ++ (listing ++ (again ++ looking ++ before)))) :=
          ⟨collecting, reading, listing, again, looking ++ before, read.2, empty,
            by rw [append_assoc again], hcollecting.1, hread.2 read rfl,
            hlisted.2 names rfl, hr⟩
        refine fun _ => ⟨read.1, names, hc, ?_⟩
        exact startsFrom_append sha256 _ _ _ (startsFrom_append sha256 _ _ _
          (startsFrom_append sha256 _ _ _ (startsFrom_append sha256 _ _ _ hs)))

theorem Earned.cons {before : Trace} {first exchange : Exchange Reply}
    (h : Earned sha256 before exchange) (hfirst : Collecting first.1.operation) :
    Earned sha256 (first :: before) exchange := by
  intro htouches
  obtain ⟨digest, names, hcleared, hstarts⟩ := h htouches
  exact ⟨digest, names, hcleared.cons hfirst, startsFrom_append sha256 [first] before _ hstarts⟩

theorem earned_turn (s : Supervisor) :
    Ensures anyReply (turn sha256 interval s) fun trace _ => AtEach (Earned sha256) trace := by
  refine (ensures_ask s .contextErr).bind fun looking cancelled hl => ?_
  subst hl
  cases cancelled with
  | true => exact ensures_pure (.cons False.elim atEach_nil)
  | false =>
    refine (earned_reconcile interval s).bind fun passing next hpass => ?_
    refine (ensures_ask next .wait).bind fun waiting goesOn hwait => ensures_pure ?_
    subst hwait
    refine AtEach.append (.cons False.elim atEach_nil)
      (AtEach.append ?_ (.cons False.elim atEach_nil))
    exact hpass.imp fun before exchange h => h.cons trivial

theorem Turns.earned {passes : List Trace} {s : Supervisor} {goesOn : Bool}
    (h : Turns sha256 interval passes s goesOn) : ∀ pass ∈ passes, AtEach (Earned sha256) pass := by
  induction h with
  | start => exact fun pass hpass => nomatch hpass
  | turn h hrun ih =>
    refine forall_mem_append.mpr ⟨ih, forall_mem_singleton.mpr ?_⟩
    exact earned_turn interval _ _ _ (fun _ _ => trivial) hrun

end

end NutOperator.Nutsupervisor
