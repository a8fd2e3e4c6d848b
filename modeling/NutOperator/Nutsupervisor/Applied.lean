import NutOperator.Nutsupervisor.Supervision

/-! What the record of an applied configuration is worth: which reads stand around
the command it rests on, and what was on disk when that command was issued. -/
namespace NutOperator.Nutsupervisor

open Data Effects List

def readOf (file : ConfigFile) : Exchange Reply → Option (Except String Bytes)
  | ⟨⟨_, .readFile other⟩, (reply : Except String Bytes)⟩ =>
    if other = file then some reply else none
  | _ => none

def readsOf (file : ConfigFile) (trace : Trace) : List (Except String Bytes) :=
  trace.filterMap (readOf file)

/-- A command to the daemon. No record rests on a signal to its process. -/
def issues (daemon : Daemon) : Operation → Bool
  | .reload _ _ => false
  | operation => loaded operation = some daemon

def ConfigDigest.marks (digest : ConfigDigest) : List (ConfigFile × Digest) :=
  [(.upsConf, digest.ups), (.upsdUsers, digest.users)]

def DriverWorker.marks (worker : DriverWorker) : List (ConfigFile × Digest) :=
  if worker.hasApplied then [(.upsConf, worker.config)] else []

def Supervisor.marks (s : Supervisor) : Daemon → List (ConfigFile × Digest)
  | none => if s.hasApplied then s.applied.marks else []
  | some name => (s.workers.lookup name).elim [] DriverWorker.marks

section

variable (sha256 : Bytes → Digest)

def Found (digest : Digest) (read : Option (Except String Bytes)) : Prop :=
  ∃ content, read = some (.ok content) ∧ sha256 content = digest

/-- The digests were last read before the last command to the daemon, and if it was a
reload, first again after it. -/
def Checked (daemon : Daemon) (marks : List (ConfigFile × Digest)) (trace : Trace) : Prop :=
  ∃ earlier command later, trace = earlier ++ command :: later ∧
    issues daemon command.1.operation = true ∧
    (∀ exchange ∈ later, loaded exchange.1.operation ≠ some daemon) ∧ ∀ mark ∈ marks,
      Found sha256 mark.2 (readsOf mark.1 earlier).getLast? ∧
      (¬ Starts command.1.operation → Found sha256 mark.2 (readsOf mark.1 later).head?)

def MarksChecked (s : Supervisor) (trace : Trace) : Prop :=
  ∀ daemon, s.marks daemon = [] ∨ Checked sha256 daemon (s.marks daemon) trace

def LastRead (marks : List (ConfigFile × Digest)) (trace : Trace) : Prop :=
  ∀ mark ∈ marks, Found sha256 mark.2 (readsOf mark.1 trace).getLast?

end

/-- Only a daemon without a record is started or reloaded. -/
def Spares (s : Supervisor) (trace : Trace) : Prop :=
  ∀ exchange ∈ trace, ∀ daemon, loaded exchange.1.operation = some daemon → s.marks daemon = []

/-- Every daemon keeps its record or loses it. -/
def Shrinks (s next : Supervisor) : Prop :=
  ∀ daemon, next.marks daemon = s.marks daemon ∨ next.marks daemon = []

section

variable {s next : Supervisor} {sha256 : Bytes → Digest} {past trace : Trace}

theorem Shrinks.trans {last : Supervisor} (h : Shrinks s next) (hlast : Shrinks next last) :
    Shrinks s last := by
  intro daemon
  cases hlast daemon with
  | inl hsame => exact hsame ▸ h daemon
  | inr hnone => exact .inr hnone

theorem marks_setWorker (s : Supervisor) (name : String) (worker : DriverWorker)
    (daemon : Daemon) : (s.setWorker name worker).marks daemon =
      if daemon = some name then worker.marks else s.marks daemon := by
  cases daemon with
  | none => rfl
  | some other =>
    by_cases hname : other = name
    · subst hname
      simp [Supervisor.setWorker, Supervisor.marks]
    · simp [Supervisor.setWorker, Supervisor.marks, AList.lookup_insert_ne hname, hname]

theorem shrinks_dropWorker (s : Supervisor) (name : String) : Shrinks s (s.dropWorker name) := by
  intro daemon
  cases daemon with
  | none => exact .inl rfl
  | some other =>
    by_cases hname : other = name
    · subst hname
      simp [Supervisor.dropWorker, Supervisor.marks]
    · simp [Supervisor.dropWorker, Supervisor.marks, AList.lookup_erase_ne hname]

theorem Checked.append {daemon : Daemon} {marks : List (ConfigFile × Digest)}
    (h : Checked sha256 daemon marks past)
    (hspared : ∀ exchange ∈ trace, loaded exchange.1.operation ≠ some daemon) :
    Checked sha256 daemon marks (past ++ trace) := by
  obtain ⟨earlier, command, later, rfl, hissues, hlast, hmarks⟩ := h
  refine ⟨earlier, command, later ++ trace, by simp, hissues,
    forall_mem_append.mpr ⟨hlast, hspared⟩, fun mark hm => ?_⟩
  refine (hmarks mark hm).imp_right fun hfound hnot => ?_
  obtain ⟨content, hread, hdigest⟩ := hfound hnot
  refine ⟨content, ?_, hdigest⟩
  rw [readsOf, filterMap_append, List.head?_append, ← readsOf, hread]
  rfl

theorem MarksChecked.append (h : MarksChecked sha256 s past) (hspares : Spares s trace) :
    MarksChecked sha256 s (past ++ trace) := by
  intro daemon
  by_cases hmarks : s.marks daemon = []
  · exact .inl hmarks
  · refine .inr (((h daemon).resolve_left hmarks).append fun exchange hmem hloaded => ?_)
    exact hmarks (hspares exchange hmem daemon hloaded)

theorem spares_of_loaded (h : ∀ exchange ∈ trace, loaded exchange.1.operation = none) :
    Spares s trace := by
  intro exchange hmem daemon hloaded
  rw [h exchange hmem] at hloaded
  cases hloaded

theorem spares_of_not_touches (h : ∀ exchange ∈ trace, ¬ Touches exchange.1.operation) :
    Spares s trace :=
  spares_of_loaded fun exchange hmem => loaded_of_not_touches (h exchange hmem)

theorem Spares.append {after : Trace} (h : Spares s trace) (hafter : Spares s after) :
    Spares s (trace ++ after) :=
  forall_mem_append.mpr ⟨h, hafter⟩

theorem spares_quiet {tables : Supervisor} {operation : Operation} {reply : operation.Reply}
    (h : loaded operation = none) : Spares s [⟨⟨tables, operation⟩, reply⟩] :=
  spares_of_loaded (forall_mem_singleton.mpr h)

theorem spares_command {tables : Supervisor} {operation : Operation} {reply : operation.Reply}
    {daemon : Daemon} (h : loaded operation = some daemon) (hmarks : s.marks daemon = []) :
    Spares s [⟨⟨tables, operation⟩, reply⟩] := by
  refine forall_mem_singleton.mpr fun other hother => ?_
  rw [h, Option.some.injEq] at hother
  exact hother ▸ hmarks

theorem MarksChecked.shrink (h : MarksChecked sha256 s past) (hshrinks : Shrinks s next) :
    MarksChecked sha256 next past := by
  intro daemon
  cases hshrinks daemon with
  | inl hsame => exact hsame ▸ h daemon
  | inr hnone => exact .inl hnone

theorem readsOf_deciding (h : ∀ exchange ∈ trace, Deciding exchange.1.operation)
    (file : ConfigFile) : readsOf file trace = [] := by
  refine filterMap_eq_nil_iff.mpr fun exchange hmem => ?_
  obtain ⟨⟨s, op⟩, reply⟩ := exchange
  cases op with
  | readFile other => exact (h _ hmem).elim
  | _ => rfl

theorem LastRead.append {marks : List (ConfigFile × Digest)} (h : LastRead sha256 marks past)
    (hquiet : ∀ file, readsOf file trace = []) : LastRead sha256 marks (past ++ trace) := by
  intro mark hm
  rw [readsOf, filterMap_append, ← readsOf, ← readsOf, hquiet, append_nil]
  exact h mark hm

section

variable {digest : ConfigDigest} {empty : Bool} (h : Reads sha256 digest empty trace)

include h

theorem Reads.found : ∀ mark ∈ digest.marks, ∃ content, readsOf mark.1 trace = [.ok content] ∧
      sha256 content = mark.2 := by
  obtain ⟨s, ups, users, rfl, -, rfl⟩ := h
  simp [ConfigDigest.marks, readsOf, readOf]

theorem Reads.lastRead (past : Trace) : LastRead sha256 digest.marks (past ++ trace) := by
  intro mark hm
  obtain ⟨content, hread, hd⟩ := h.found mark hm
  refine ⟨content, ?_, hd⟩
  rw [readsOf, filterMap_append, ← readsOf, ← readsOf, hread, List.getLast?_concat]

theorem Reads.firstRead (rest : Trace) {mark : ConfigFile × Digest}
    (hmarked : mark ∈ digest.marks) :
    Found sha256 mark.2 (readsOf mark.1 (trace ++ rest)).head? := by
  obtain ⟨content, hread, hd⟩ := h.found mark hmarked
  refine ⟨content, ?_, hd⟩
  rw [readsOf, filterMap_append, ← readsOf, hread]
  rfl

end

end

/-- A part of a pass keeps the records checked, once the marks have been read. -/
abbrev KeepsChecked {α : Type} (sha256 : Bytes → Digest) (marks : List (ConfigFile × Digest))
    (s : Supervisor) (program : Run α) (tables : α → Supervisor) : Prop :=
  Ensures anyReply program fun trace value => ∀ past, LastRead sha256 marks past →
    MarksChecked sha256 s past → MarksChecked sha256 (tables value) (past ++ trace)

section

variable (sha256 : Bytes → Digest) (interval : Duration)

theorem keepsChecked_applyConfig (s : Supervisor) (digest : ConfigDigest) :
    KeepsChecked sha256 digest.marks s (applyConfig sha256 s digest) Prod.snd := by
  unfold applyConfig
  split
  · exact ensures_pure fun past _ h => (append_nil past).symm ▸ h
  · dsimp only
    generalize hcleared : { s with hasApplied := false } = cleared
    have hmarks : cleared.marks none = [] := by rw [← hcleared]; rfl
    have hshrinks : Shrinks s cleared
      | none => .inr hmarks
      | some _ => .inl (by rw [← hcleared]; rfl)
    refine (ensures_ask _ _).bind fun asking reloaded hasking => ?_
    subst hasking
    have hasking : ∀ reply : Except String String,
        Spares cleared [⟨⟨cleared, .invoke Command.reloadUpsd.args⟩, reply⟩] :=
      fun reply => spares_command rfl hmarks
    cases reloaded with
    | error error =>
      refine ensures_pure fun past _ h => (h.shrink hshrinks).append ?_
      exact hasking _
    | ok output =>
      refine (ensures_stillCurrent sha256 _ digest).bind fun reading same hsame => ?_
      have hreading := spares_of_not_touches (s := cleared) hsame.1
      cases same with
      | false =>
        refine ensures_pure fun past _ h => (h.shrink hshrinks).append ?_
        rw [append_nil]
        exact (hasking _).append hreading
      | true =>
        obtain ⟨rereading, looking, again, rfl, hreads, -⟩ := hsame.2 rfl
        refine ensures_pure fun past hlast h daemon => ?_
        rw [append_nil]
        cases daemon with
        | some name =>
          have hkept := (h.shrink hshrinks).append ((hasking (.ok output)).append hreading)
          subst hcleared
          exact hkept (some name)
        | none =>
          refine .inr ⟨past, _, _, rfl, by rfl, fun exchange hmem => ?_, fun mark hm =>
            ⟨hlast mark hm, fun _ => hreads.firstRead looking hm⟩⟩
          rw [loaded_of_not_touches (hsame.1 exchange hmem)]
          exact nofun

theorem keepsChecked_reloadDriver (s : Supervisor) (name : String) (worker : DriverWorker)
    (digest : Digest) :
    KeepsChecked sha256 [(.upsConf, digest)] s (reloadDriver sha256 s name worker digest) id := by
  unfold reloadDriver
  dsimp only
  generalize hmarked : s.setWorker name { worker with hasApplied := false } = marked
  have hmarks : marked.marks (some name) = [] := by
    rw [← hmarked, marks_setWorker, if_pos rfl]
    rfl
  have hshrinks : Shrinks s marked := by
    intro daemon
    rw [← hmarked, marks_setWorker]
    split
    · exact .inr rfl
    · exact .inl rfl
  have hkept : ∀ past trace, MarksChecked sha256 s past → Spares marked trace →
      MarksChecked sha256 marked (past ++ trace) :=
    fun past trace h hspares => (h.shrink hshrinks).append hspares
  refine (ensures_ask _ _).bind fun asking reloaded hasking => ?_
  subst hasking
  have hasking : ∀ reply : Except String String, Spares marked
      [⟨⟨marked, .invoke (Command.reloadOrExit name).args⟩, reply⟩] :=
    fun reply => spares_command rfl hmarks
  have hlooking : ∀ cancelled : Bool, Spares marked [⟨⟨marked, .contextErr⟩, cancelled⟩] :=
    fun cancelled => spares_quiet rfl
  cases reloaded with
  | error error =>
    refine (ensures_ask _ _).bind fun looking cancelled hlooks => ?_
    subst hlooks
    cases cancelled with
    | true =>
      exact ensures_pure fun past _ h => hkept past _ h ((hasking _).append (hlooking true))
    | false =>
      refine (ensures_ask _ _).bind fun signalling _ hsignalling => ?_
      subst hsignalling
      refine ensures_pure fun past _ h => hkept past _ h ?_
      exact (hasking _).append ((hlooking false).append (spares_command rfl hmarks))
  | ok output =>
    refine (ensures_snapshot sha256 marked).bind fun reading read hread => ?_
    have hreading := spares_of_not_touches (s := marked) hread.1
    cases read with
    | error error =>
      refine ensures_pure fun past _ h => hkept past _ h ?_
      rw [append_nil]
      exact (hasking _).append hreading
    | ok read =>
      dsimp only
      split
      · rename_i hups
        refine (ensures_ask _ _).bind fun looking cancelled hlooks => ?_
        subst hlooks
        have hspared := (hasking (.ok output)).append (hreading.append (hlooking cancelled))
        cases cancelled with
        | true => exact ensures_pure fun past _ h => hkept past _ h hspared
        | false =>
          refine ensures_pure fun past hlast h daemon => ?_
          rw [id, marks_setWorker]
          split
          · rename_i hname
            subst hname hups
            refine .inr ⟨past,
              ⟨⟨marked, .invoke (Command.reloadOrExit name).args⟩, .ok output⟩,
              reading ++ [⟨⟨marked, .contextErr⟩, false⟩], rfl, decide_eq_true rfl, ?_,
              fun mark hm => ⟨hlast mark hm, fun _ => ?_⟩⟩
            · refine forall_mem_append.mpr ⟨fun exchange hmem => ?_, by simp [loaded]⟩
              rw [loaded_of_not_touches (hread.1 exchange hmem)]
              exact nofun
            · have hm : mark ∈ read.1.marks := mem_cons.mpr (.inl (mem_singleton.mp hm))
              exact (hread.2 read rfl).firstRead _ hm
          · exact hkept past _ h hspared daemon
      · refine ensures_pure fun past _ h => hkept past _ h ?_
        rw [append_nil]
        exact (hasking _).append hreading

theorem keepsChecked_startDriver (s : Supervisor) (name : String) (digest : Digest)
    (hnone : s.workers.lookup name = none) :
    KeepsChecked sha256 [(.upsConf, digest)] s (startDriver interval s name digest) id := by
  have hmarks : s.marks (some name) = [] := by
    rw [Supervisor.marks, hnone]
    rfl
  refine (ensures_ask _ _).bind fun timing time htiming => ?_
  subst htiming
  split
  · exact ensures_pure fun past _ h => h.append (spares_quiet rfl)
  · refine (ensures_ask _ _).bind fun looking cancelled hlooking => ?_
    subst hlooking
    cases cancelled with
    | true => exact ensures_pure fun past _ h => h.append (by simp [Spares, loaded])
    | false =>
      refine (ensures_ask _ _).bind fun starting reply hstarting => ?_
      subst hstarting
      have hspared : Spares s [⟨⟨s, .now⟩, time⟩, ⟨⟨s, .contextErr⟩, false⟩,
          ⟨⟨s, .start name (startArgs name)⟩, reply⟩] := by
        simpa [Spares, loaded] using hmarks
      cases reply with
      | error error =>
        refine (ensures_ask _ _).bind fun failing failed hfailing => ?_
        subst hfailing
        exact ensures_pure fun past _ h => h.append (hspared.append (spares_quiet rfl))
      | ok process =>
        refine ensures_pure fun past hlast h daemon => ?_
        rw [id, marks_setWorker]
        split
        · rename_i hname
          subst hname
          refine .inr ⟨past ++ [⟨⟨s, .now⟩, time⟩, ⟨⟨s, .contextErr⟩, false⟩],
            ⟨⟨s, .start name (startArgs name)⟩, .ok process⟩, [], by simp, by simp [issues, loaded],
            nofun, fun mark hm => ⟨?_, fun hnot => absurd trivial hnot⟩⟩
          exact hlast.append (readsOf_deciding (by simp [Deciding])) mark hm
        · exact h.append hspared daemon

theorem keepsChecked_reconcileDriver (s : Supervisor) (name : String) (digest : Digest) :
    KeepsChecked sha256 [(.upsConf, digest)] s (reconcileDriver sha256 interval s name digest)
      id := by
  unfold reconcileDriver
  split
  · split
    · exact ensures_pure fun past _ h => (append_nil past).symm ▸ h
    · exact keepsChecked_reloadDriver sha256 s name _ digest
  · rename_i hnone
    exact keepsChecked_startDriver sha256 interval s name digest hnone

theorem keepsChecked_reconcileDrivers (digest : ConfigDigest) (names : List String)
    (s : Supervisor) :
    KeepsChecked sha256 [] s (reconcileDrivers sha256 interval digest names s) id := by
  induction names generalizing s with
  | nil => exact ensures_pure fun past _ h => (append_nil past).symm ▸ h
  | cons name rest ih =>
    refine (ensures_ask _ _).bind fun looking cancelled hlooking => ?_
    have hlooks : ∀ s, Spares s looking := fun s => hlooking ▸ spares_quiet rfl
    cases cancelled with
    | true => exact ensures_pure fun past _ h => h.append (by simpa using hlooks s)
    | false =>
      refine (ensures_unchanged sha256 s digest).bind fun reading same hsame => ?_
      have hread := spares_of_not_touches (s := s) hsame.1
      cases same with
      | false => exact ensures_pure fun past _ h =>
          h.append (by simpa using (hlooks s).append hread)
      | true =>
        obtain ⟨empty, hreads⟩ := hsame.2 rfl
        refine (keepsChecked_reconcileDriver sha256 interval s name digest.ups).bind
          fun driving next hdriving => ?_
        refine (ih next).imp fun after out hafter past _ h => ?_
        have hlast := hreads.lastRead (past ++ looking)
        have hdriven := hdriving (past ++ looking ++ reading)
          (fun mark hm => hlast mark (mem_cons.mpr (.inl (mem_singleton.mp hm))))
          ((h.append (hlooks s)).append hread)
        simpa only [append_assoc] using hafter _ nofun hdriven

theorem shrinks_collectNamed (names : List String) (s : Supervisor) :
    Within (fun request => Collecting request.operation) (collectNamed interval names s)
      (Shrinks s) := by
  induction names generalizing s with
  | nil => exact within_pure fun _ => .inl rfl
  | cons name rest ih =>
    unfold collectNamed
    split
    · exact ih s
    · refine (within_ask trivial).bind fun exited _ => ?_
      cases exited with
      | false => exact ih s
      | true =>
        refine (within_ask trivial).bind fun time _ => ?_
        exact (ih _).imp fun _ h =>
          (shrinks_dropWorker (s.retryLater interval name time) name).trans h

theorem shrinks_removeAbsent (s : Supervisor) (names : List String) :
    Within (fun request => loaded request.operation = none) (removeAbsent s names)
      (Shrinks s) := by
  have hretain : ∀ s : Supervisor, Shrinks s { s with workers := retain names s.workers }
    | s, none => .inl rfl
    | s, some name => by
      simp only [Supervisor.marks, lookup_retain]
      split
      · exact .inl rfl
      · exact .inr rfl
  refine (within_ask (by rfl)).bind fun order _ => ?_
  refine (loadsNothing_stopProcessesContext _ false _).bind fun stopped _ => ?_
  cases stopped with
  | true => exact within_pure (hretain { s with retryAfter := retain names s.retryAfter })
  | false => exact within_pure fun _ => .inl rfl

theorem keepsChecked_reconcile (s : Supervisor) :
    KeepsChecked sha256 [] s (reconcile sha256 interval s) id := by
  refine (ensures_ask s _).bind fun ranging order hranging => ?_
  refine (shrinks_collectNamed interval order s).ensures.bind fun collecting kept hcollecting => ?_
  obtain ⟨hcollected, hshrinks⟩ := hcollecting
  have hcollect : ∀ past, MarksChecked sha256 s past →
      MarksChecked sha256 kept (past ++ (ranging ++ collecting)) := fun past h =>
    (h.shrink hshrinks).append ((hranging ▸ spares_quiet rfl).append <| spares_of_not_touches
      fun exchange hmem => not_touches_of_collecting (hcollected exchange hmem))
  refine (ensures_snapshot sha256 kept).bind fun reading read hread => ?_
  have hreading := spares_of_not_touches (s := kept) hread.1
  cases read with
  | error error =>
    exact ensures_pure fun past _ h => by simpa using (hcollect past h).append hreading
  | ok read =>
    refine (ensures_enumerate kept read.2).bind fun listing listed hlisted => ?_
    have hlisting := hreading.append (spares_of_not_touches hlisted.1)
    cases listed with
    | error error =>
      exact ensures_pure fun past _ h => by simpa using (hcollect past h).append hlisting
    | ok names =>
      refine (ensures_stillCurrent sha256 kept read.1).bind fun rereading same hsame => ?_
      have hrereading := hlisting.append (spares_of_not_touches hsame.1)
      cases same with
      | false =>
        exact ensures_pure fun past _ h => by simpa using (hcollect past h).append hrereading
      | true =>
        obtain ⟨again, looking, empty, rfl, hreads, hdeciding⟩ := hsame.2 rfl
        refine (keepsChecked_applyConfig sha256 kept read.1).bind fun applying result happly => ?_
        have happlied : ∀ past, MarksChecked sha256 s past → MarksChecked sha256 result.2
            (past ++ (ranging ++ (collecting ++ (reading ++ (listing ++ ((again ++ looking) ++
              applying)))))) := by
          intro past h
          have hlast :=
            (hreads.lastRead (past ++ ranging ++ collecting ++ reading ++ listing)).append
            (readsOf_deciding hdeciding)
          simpa using happly _ hlast (by simpa using (hcollect past h).append hrereading)
        obtain ⟨applied, tables⟩ := result
        cases applied with
        | false => exact ensures_pure fun past _ h => by simpa using happlied past h
        | true =>
          refine (shrinks_removeAbsent tables names).ensures.bind fun removing next hnext => ?_
          refine (keepsChecked_reconcileDrivers sha256 interval read.1 names next).imp
            fun driving last hdriving past _ h => ?_
          have hremoved := ((happlied past h).shrink hnext.2).append (spares_of_loaded hnext.1)
          simpa using hdriving _ nofun hremoved

theorem keepsChecked_turn (s : Supervisor) :
    KeepsChecked sha256 [] s (turn sha256 interval s) Prod.snd := by
  refine (ensures_ask _ _).bind fun looking cancelled hlooking => ?_
  subst hlooking
  cases cancelled with
  | true => exact ensures_pure fun past _ h => h.append (spares_quiet rfl)
  | false =>
    refine (keepsChecked_reconcile sha256 interval s).bind fun passing next hpassing => ?_
    refine (ensures_ask _ _).bind fun waiting _ hwaiting => ensures_pure fun past _ h => ?_
    subst hwaiting
    have hlooking : Spares s [⟨⟨s, .contextErr⟩, false⟩] := spares_quiet rfl
    simpa using (hpassing _ nofun (h.append hlooking)).append (spares_quiet rfl)

theorem Turns.marksChecked {passes : List Trace} {s : Supervisor} {goesOn : Bool}
    (h : Turns sha256 interval passes s goesOn) : MarksChecked sha256 s passes.flatten := by
  induction h with
  | start =>
    intro daemon
    cases daemon <;> exact .inl rfl
  | @turn passes s next trace goesOn h hrun ih =>
    rw [flatten_append, flatten_singleton]
    exact keepsChecked_turn sha256 interval s trace _ (fun _ _ => trivial) hrun _ nofun ih

end

/-- The files as they are at each exchange of the run. -/
abbrev Disk := Nat → Files

def ReadFrom (disk : Disk) (trace : Trace) : Prop :=
  ∀ earlier exchange later, trace = earlier ++ exchange :: later → ∀ file content,
    readOf file exchange = some (.ok content) → disk earlier.length file = content

def PreviousRead (file : ConfigFile) (trace before : Trace) : Prop :=
  ∃ read quiet, trace = before ++ read :: quiet ∧ (readOf file read).isSome = true ∧
    readsOf file quiet = []

def NextRead (file : ConfigFile) (trace quiet : Trace) : Prop :=
  ∃ read rest, trace = quiet ++ read :: rest ∧ (readOf file read).isSome = true ∧
    readsOf file quiet = []

/-- The digests were on disk when the last command to the daemon was issued, and still
when the files were read again. -/
def Confirmed (sha256 : Bytes → Digest) (disk : Disk) (trace : Trace) (daemon : Daemon)
    (marks : List (ConfigFile × Digest)) : Prop :=
  ∃ earlier command later, trace = earlier ++ command :: later ∧
    issues daemon command.1.operation = true ∧
    (∀ exchange ∈ later, loaded exchange.1.operation ≠ some daemon) ∧ ∀ mark ∈ marks,
      sha256 (disk earlier.length mark.1) = mark.2 ∧ ∀ quiet, NextRead mark.1 later quiet →
        sha256 (disk (earlier.length + (1 + quiet.length)) mark.1) = mark.2

/-- No file changes between a command and the read before it, or, if the command is a
start, the read after it. -/
def Undisturbed (disk : Disk) (trace : Trace) : Prop :=
  ∀ earlier command later daemon, trace = earlier ++ command :: later →
    issues daemon command.1.operation = true → ∀ file, (∀ before, PreviousRead file earlier before →
        disk earlier.length file = disk before.length file) ∧
      (Starts command.1.operation → ∀ quiet, NextRead file later quiet →
        disk (earlier.length + (1 + quiet.length)) file = disk earlier.length file)

theorem previousRead_of_found {sha256 : Bytes → Digest} {digest : Digest} {file : ConfigFile}
    {disk : Disk} {earlier later : Trace} (h : Found sha256 digest (readsOf file earlier).getLast?)
    (hreads : ReadFrom disk (earlier ++ later)) : ∃ before, PreviousRead file earlier before ∧
      sha256 (disk before.length file) = digest := by
  obtain ⟨content, hlast, hd⟩ := h
  rw [readsOf, List.getLast?_filterMap, List.findSome?_eq_some_iff] at hlast
  obtain ⟨quiet, read, before, hs, hread, hq⟩ := hlast
  have he : earlier = before.reverse ++ read :: quiet.reverse := by
    rw [← reverse_reverse earlier, hs]
    simp
  refine ⟨before.reverse, ⟨read, quiet.reverse, he, by rw [hread]; rfl, ?_⟩, ?_⟩
  · exact filterMap_eq_nil_iff.mpr fun exchange hmem => hq _ (mem_reverse.mp hmem)
  · rw [hreads before.reverse read (quiet.reverse ++ later) (by simp [he]) file content hread]
    exact hd

/-- Unless the files change around a command, what is recorded as applied was on disk
for it. -/
theorem applied_configuration_was_on_disk {sha256 : Bytes → Digest} {interval : Duration}
    {passes : List Trace} {s : Supervisor} {goesOn : Bool} {disk : Disk}
    (hturns : Turns sha256 interval passes s goesOn) (hreads : ReadFrom disk passes.flatten)
    (hundisturbed : Undisturbed disk passes.flatten) (daemon : Daemon)
    (hmarked : s.marks daemon ≠ []) :
    Confirmed sha256 disk passes.flatten daemon (s.marks daemon) := by
  obtain ⟨earlier, command, later, htrace, hissues, hfinal, hchecked⟩ :=
    (hturns.marksChecked sha256 interval daemon).resolve_left hmarked
  refine ⟨earlier, command, later, htrace, hissues, hfinal, fun mark hm => ?_⟩
  obtain ⟨hlast, hfirst⟩ := hchecked mark hm
  obtain ⟨hbefore, hafter⟩ := hundisturbed earlier command later daemon htrace hissues mark.1
  obtain ⟨before, hprevious, hdigest⟩ := previousRead_of_found hlast (htrace ▸ hreads)
  have hissued : sha256 (disk earlier.length mark.1) = mark.2 := by
    rw [hbefore before hprevious, hdigest]
  refine ⟨hissued, fun quiet hnext => ?_⟩
  by_cases hstarts : Starts command.1.operation
  · rw [hafter hstarts quiet hnext, hissued]
  · -- the first read after a reload is the one it was checked by
    obtain ⟨read, rest, rfl, hread, hquiet⟩ := hnext
    obtain ⟨content, hhead, hdigest⟩ := hfirst hstarts
    have hreadOf : readOf mark.1 read = some (.ok content) := by
      obtain ⟨reply, hreply⟩ := Option.isSome_iff_exists.mp hread
      rw [readsOf, List.filterMap_append, ← readsOf, hquiet, List.nil_append,
        List.filterMap_cons_some hreply] at hhead
      rw [hreply, Option.some.inj hhead]
    have hat := hreads (earlier ++ command :: quiet) read rest (by simp [htrace]) mark.1
      content hreadOf
    rw [List.length_append, List.length_cons, Nat.add_comm quiet.length] at hat
    rw [hat, hdigest]

theorem rack_turns : Turns id 1 [rackPass.1] rackPass.2.2 rackPass.2.1 :=
  .turn .start (runs_perform _ _ _)

theorem rack_reads : ∀ exchange ∈ rackPass.1, ∀ file content,
    readOf file exchange = some (.ok content) → rackFiles file = content := by
  refine forall_perform (fun _ request => ?_) _ _
  obtain ⟨s, op⟩ := request
  cases op with
  | readFile other =>
    intro file content hread
    rw [readOf, Option.ite_none_right_eq_some] at hread
    obtain ⟨rfl, hread⟩ := hread
    cases other <;> cases hread <;> rfl
  | _ => nofun

theorem rack_configuration_applied :
    Confirmed id (fun _ => rackFiles) [rackPass.1].flatten (some "rack-b")
      [(.upsConf, rackA)] := by
  have hr : ReadFrom (fun _ => rackFiles) [rackPass.1].flatten := by
    rw [List.flatten_singleton]
    intro earlier exchange later htrace
    exact rack_reads exchange (by simp [htrace])
  have hu : Undisturbed (fun _ => rackFiles) [rackPass.1].flatten :=
    fun _ _ _ _ _ _ _ => ⟨fun _ _ => rfl, fun _ _ _ => rfl⟩
  exact applied_configuration_was_on_disk rack_turns hr hu (some "rack-b") (by decide)

def startDisk : Disk := fun number => if number = 18 then fun _ => rackB else rackFiles

/-- The driver is started with the second configuration and recorded with the first. -/
theorem started_driver_not_reread :
    Turns id 1 [rackPass.1] rackPass.2.2 rackPass.2.1 ∧
      ReadFrom startDisk [rackPass.1].flatten ∧
      rackPass.2.2.marks (some "rack-b") = [(.upsConf, rackA)] ∧
      ¬ Confirmed id startDisk [rackPass.1].flatten (some "rack-b") [(.upsConf, rackA)] := by
  have hat : ∀ {earlier later : Trace} {exchange : Exchange Reply},
      rackPass.1 = earlier ++ exchange :: later → rackPass.1[earlier.length]? = some exchange := by
    intro earlier later exchange htrace
    rw [htrace]
    simp
  rw [List.flatten_singleton]
  refine ⟨rack_turns, fun earlier exchange later htrace file content hread => ?_, by decide, ?_⟩
  · have ho : earlier.length ≠ 18 := by
      intro hstart
      have he := hat htrace
      rw [hstart] at he
      cases he
      cases hread
    rw [startDisk, if_neg ho]
    exact rack_reads exchange (by simp [htrace]) file content hread
  · rintro ⟨earlier, command, later, htrace, hi, -, hmarks⟩
    have honly : ∀ number < 20, (rackPass.1[number]?).any (fun exchange =>
        issues (some "rack-b") exchange.1.operation) = true → number = 18 := by
      decide
    have hlen : rackPass.1.length = 20 := by decide
    have hstart : earlier.length = 18 := by
      refine honly _ ?_ (by rw [hat htrace]; exact hi)
      rw [← hlen, htrace]
      simp
    have hd := (hmarks _ (List.mem_singleton_self _)).1
    rw [startDisk, if_pos hstart] at hd
    cases hd

end NutOperator.Nutsupervisor
