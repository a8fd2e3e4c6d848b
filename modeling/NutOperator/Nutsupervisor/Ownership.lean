import NutOperator.Effects.Monitor
import NutOperator.Nutsupervisor.Runtime

/-! Who owns the driver processes. A ghost list keeps every process that was started
and is not known to have exited; the worker table names each of them. -/
namespace NutOperator.Nutsupervisor

open Data Effects List

def told : Exchange Reply → List Process
  | ⟨⟨_, .exited process⟩, (reply : Bool)⟩ => if reply then [process] else []
  | ⟨⟨_, .awaitExits _ processes⟩, (reply : Awaited)⟩ =>
    if reply = .exited then processes else []
  | ⟨⟨_, .joinExits _ processes⟩, (reply : Bool)⟩ => if reply then processes else []
  | _ => []

def started : Exchange Reply → Option (String × Process)
  | ⟨⟨_, .start name _⟩, (reply : Except String Process)⟩ =>
    match reply with
    | .ok process => some (name, process)
    | .error _ => none
  | _ => none

/-- The background context is never cancelled, and a range visits every key once. -/
def Sane : Exchange Reply → Prop
  | ⟨⟨_, .awaitExits true _⟩, (reply : Awaited)⟩ => reply ≠ .cancelled
  | ⟨⟨_, .joinExits true _⟩, (reply : Bool)⟩ => reply = true
  | ⟨⟨_, .range keys⟩, (order : List String)⟩ => order.Perm keys
  | _ => True

abbrev Drivers := List (String × Process)

abbrev Workers := AList fun _ : String => DriverWorker

def Owns (workers : Workers) (drivers : Drivers) : Prop :=
  ∀ driver ∈ drivers, ∃ worker, workers.lookup driver.1 = some worker ∧ worker.process = driver.2

def advance (drivers : Drivers) (exchange : Exchange Reply) : Drivers :=
  drivers.filter (fun driver => driver.2 ∉ told exchange) ++ (started exchange).toList

/-- Whatever the supervisor does, it owns the drivers, and it starts none twice. -/
def ownership : Monitor Reply Drivers where
  advance := advance
  assumed := fun _ exchange => Sane exchange
  allowed := fun drivers exchange => Owns exchange.1.tables.workers drivers ∧
    ∀ driver, started exchange = some driver → driver.1 ∉ drivers.map Prod.fst

variable {workers : Workers} {drivers : Drivers} {name : String}

theorem Owns.filter (h : Owns workers drivers) (keep : String × Process → Bool) :
    Owns workers (drivers.filter keep) :=
  fun driver hd => h driver (mem_of_mem_filter hd)

theorem triple_ask {s : Supervisor} {op : Operation} {good : String × Process → Prop}
    (hstart : ∀ reply, started ⟨⟨s, op⟩, reply⟩ = none) :
    Triple ownership (fun drivers => Owns s.workers drivers ∧ ∀ driver ∈ drivers, good driver)
      (ask s op) fun reply drivers =>
        (Owns s.workers drivers ∧ ∀ driver ∈ drivers, good driver) ∧ Sane ⟨⟨s, op⟩, reply⟩ ∧
          ∀ driver ∈ drivers, driver.2 ∉ told ⟨⟨s, op⟩, reply⟩ := by
  refine triple_request fun drivers reply hpre hsane => ?_
  have ha : ownership.advance drivers ⟨⟨s, op⟩, reply⟩ =
      drivers.filter fun driver => driver.2 ∉ told ⟨⟨s, op⟩, reply⟩ := by
    show advance drivers _ = _
    rw [advance, hstart reply, Option.toList_none, append_nil]
  rw [ha]
  refine ⟨⟨hpre.1, fun driver hd => ?_⟩, ⟨hpre.1.filter _, ?_⟩, hsane, ?_⟩
  · cases (hstart reply).symm.trans hd
  · exact fun driver hd => hpre.2 driver (mem_of_mem_filter hd)
  · intro driver hd
    exact of_decide_eq_true (mem_filter.mp hd).2

section

variable {s : Supervisor} {op : Operation}
  (hstart : ∀ reply, started ⟨⟨s, op⟩, reply⟩ = none)
include hstart

theorem told_ask : Triple ownership (Owns s.workers) (ask s op) fun reply drivers =>
    Owns s.workers drivers ∧ Sane ⟨⟨s, op⟩, reply⟩ ∧
      ∀ driver ∈ drivers, driver.2 ∉ told ⟨⟨s, op⟩, reply⟩ := by
  have hask := @triple_ask s op (fun _ => True) hstart
  exact (hask.of_pre fun drivers h => ⟨h, fun _ _ => trivial⟩).imp
    fun reply drivers h => ⟨h.1.1, h.2⟩

theorem keeps_ask : Triple ownership (Owns s.workers) (ask s op) fun _ => Owns s.workers :=
  (told_ask hstart).imp fun _ _ h => h.1

end

theorem keeps_signalAll (s : Supervisor) (signal : Signal) (processes : List Process) :
    Triple ownership (Owns s.workers) (signalAll s signal processes) fun _ => Owns s.workers := by
  induction processes with
  | nil => exact triple_skip
  | cons process rest ih => exact (keeps_ask fun _ => rfl).bind fun _ => ih

/-- Processes that were stopped are gone, and only cancellation keeps them. -/
theorem triple_stopProcessesContext (s : Supervisor) (background : Bool)
    (processes : List Process) :
    Triple ownership (Owns s.workers) (stopProcessesContext s background processes)
      fun stopped drivers => Owns s.workers drivers ∧ (background = true → stopped = true) ∧
        (stopped = true → ∀ driver ∈ drivers, driver.2 ∉ processes) := by
  unfold stopProcessesContext
  split
  · rename_i hnone
    subst hnone
    exact triple_pure fun drivers howns => ⟨howns, fun _ => rfl, fun _ _ _ => not_mem_nil⟩
  · refine (keeps_signalAll s .term processes).bind fun _ => ?_
    refine (told_ask fun _ => rfl).bind fun awaited => ?_
    cases awaited with
    | cancelled =>
      refine triple_pure fun drivers h => ⟨h.1, fun hback => ?_, nofun⟩
      subst hback
      exact absurd rfl h.2.1
    | exited => exact triple_pure fun drivers h => ⟨h.1, fun _ => rfl, fun _ => h.2.2⟩
    | elapsed =>
      refine Triple.of_pre ?_ fun drivers h => h.1
      refine (keeps_signalAll s .kill processes).bind fun _ => ?_
      refine (told_ask fun _ => rfl).imp fun joined drivers h => ⟨h.1, fun hback => ?_, ?_⟩
      · subst hback
        exact h.2.1
      · intro hj
        subst hj
        exact h.2.2

theorem lookup_foldl_erase {β : Type} (names : List String) (table : AList fun _ : String => β)
    (name : String) : (names.foldl (fun kept dropped => kept.erase dropped) table).lookup name =
      if name ∈ names then none else table.lookup name := by
  induction names generalizing table with
  | nil => rfl
  | cons dropped rest ih =>
    rw [foldl_cons, ih]
    by_cases hsame : name = dropped
    · subst hsame
      simp
    · rw [AList.lookup_erase_ne hsame]
      simp [hsame]

theorem lookup_retain {β : Type} (names : List String) (table : AList fun _ : String => β)
    (name : String) :
    (retain names table).lookup name = if name ∈ names then table.lookup name else none := by
  unfold retain
  rw [lookup_foldl_erase]
  by_cases hkept : name ∈ names
  · simp [hkept]
  · by_cases hkey : name ∈ table.keys
    · simp [hkept, hkey]
    · have hnone : table.lookup name = none := AList.lookup_eq_none.mpr hkey
      simp [hkept, hnone]

theorem Owns.mem_processes {s : Supervisor} {names : List String} {driver : String × Process}
    (h : Owns s.workers drivers) (hdriver : driver ∈ drivers) (hname : driver.1 ∈ names) :
    driver.2 ∈ s.processes names := by
  obtain ⟨worker, hw, hp⟩ := h driver hdriver
  exact mem_filterMap.mpr ⟨driver.1, hname, by rw [hw, Option.map_some, hp]⟩

theorem Owns.mem_keys {driver : String × Process} (h : Owns workers drivers)
    (hdriver : driver ∈ drivers) : driver.1 ∈ workers.keys := by
  obtain ⟨worker, hw, _⟩ := h driver hdriver
  exact AList.mem_keys.mpr (AList.lookup_isSome.mp (by rw [hw]; rfl))

theorem triple_range {α : Type} {s : Supervisor} {rest : List String → Run α}
    {post : α → Drivers → Prop}
    (h : ∀ order, order.Perm s.workers.keys → Triple ownership (Owns s.workers) (rest order) post) :
    Triple ownership (Owns s.workers) (do rest (← ask s (.range s.workers.keys))) post := by
  refine (told_ask fun _ => rfl).bind fun order => ?_
  exact (triple_of_fact (h order)).of_pre fun drivers hd => ⟨hd.2.1, hd.1⟩

theorem triple_stop (s : Supervisor) :
    Triple ownership (Owns s.workers) (stop s) fun _ drivers => drivers = [] := by
  refine triple_range fun order hperm => ?_
  refine (triple_stopProcessesContext s true _).bind fun stopped => triple_pure ?_
  rintro drivers ⟨howns, hs, hgone⟩
  refine eq_nil_iff_forall_not_mem.mpr fun driver hd => ?_
  exact hgone (hs rfl) driver hd
    (howns.mem_processes hd (hperm.mem_iff.mpr (howns.mem_keys hd)))

theorem triple_removeAbsent (s : Supervisor) (names : List String) :
    Triple ownership (Owns s.workers) (removeAbsent s names)
      fun next drivers => Owns next.workers drivers := by
  refine triple_range fun order hperm => ?_
  refine (triple_stopProcessesContext { s with retryAfter := retain names s.retryAfter } false
    _).bind fun stopped => ?_
  cases stopped with
  | false => exact triple_pure fun drivers h => h.1
  | true =>
    refine triple_pure ?_
    rintro drivers ⟨howns, _, hgone⟩ driver hd
    obtain ⟨worker, hw, hp⟩ := howns driver hd
    have hname : driver.1 ∈ names := by
      by_contra ha
      refine hgone rfl driver hd (howns.mem_processes hd ?_)
      simpa [ha] using hperm.mem_iff.mpr (howns.mem_keys hd)
    refine ⟨worker, ?_, hp⟩
    show (retain names s.workers).lookup driver.1 = some worker
    rw [lookup_retain, if_pos hname]
    exact hw

section

variable (sha256 : Bytes → Digest) (s : Supervisor)

theorem keeps_snapshot :
    Triple ownership (Owns s.workers) (snapshot sha256 s) fun _ => Owns s.workers := by
  refine (keeps_ask fun _ => rfl).bind fun ups => ?_
  cases ups with
  | error error => exact triple_skip
  | ok ups =>
    refine (keeps_ask fun _ => rfl).bind fun users => ?_
    cases users <;> exact triple_skip

theorem keeps_enumerate (empty : Bool) :
    Triple ownership (Owns s.workers) (enumerate s empty) fun _ => Owns s.workers := by
  unfold enumerate
  split
  · exact triple_skip
  · refine (keeps_ask fun _ => rfl).bind fun listed => ?_
    cases listed <;> exact triple_skip

theorem keeps_unchanged (want : ConfigDigest) :
    Triple ownership (Owns s.workers) (unchanged sha256 s want) fun _ => Owns s.workers := by
  refine (keeps_snapshot sha256 s).bind fun current => ?_
  cases current <;> exact triple_skip

theorem keeps_stillCurrent (want : ConfigDigest) :
    Triple ownership (Owns s.workers) (stillCurrent sha256 s want) fun _ => Owns s.workers := by
  refine (keeps_unchanged sha256 s want).bind fun same => ?_
  cases same with
  | false => exact triple_skip
  | true => exact (keeps_ask fun _ => rfl).bind fun _ => triple_skip

end

section

variable (h : Owns workers drivers)

include h

theorem Owns.insert {worker changed : DriverWorker}
    (hworker : workers.lookup name = some worker) (hprocess : changed.process = worker.process) :
    Owns (workers.insert name changed) drivers := by
  intro driver hd
  obtain ⟨owner, ho, hsame⟩ := h driver hd
  by_cases hname : driver.1 = name
  · rw [hname] at ho ⊢
    cases hworker.symm.trans ho
    exact ⟨changed, AList.lookup_insert workers, hprocess.trans hsame⟩
  · exact ⟨owner, (AList.lookup_insert_ne hname).trans ho, hsame⟩

theorem Owns.erase {worker : DriverWorker} (hworker : workers.lookup name = some worker)
    (hgone : ∀ driver ∈ drivers, driver.2 ≠ worker.process) : Owns (workers.erase name)
    drivers := by
  intro driver hd
  obtain ⟨owner, ho, hsame⟩ := h driver hd
  have hname : driver.1 ≠ name := by
    intro hname
    rw [hname] at ho
    cases hworker.symm.trans ho
    exact hgone driver hd hsame.symm
  exact ⟨owner, (AList.lookup_erase_ne hname).trans ho, hsame⟩

theorem Owns.concat {process : Process} (hnone : workers.lookup name = none) (digest : Digest) :
    Owns (workers.insert name ⟨process, digest, true⟩) (drivers ++ [(name, process)]) := by
  intro driver hd
  cases mem_append.mp hd with
  | inl hold =>
    obtain ⟨owner, ho, hsame⟩ := h driver hold
    have hname : driver.1 ≠ name := by
      intro hname
      rw [hname, hnone] at ho
      cases ho
    exact ⟨owner, (AList.lookup_insert_ne hname).trans ho, hsame⟩
  | inr hnew =>
    cases mem_singleton.mp hnew
    exact ⟨_, AList.lookup_insert workers, rfl⟩

theorem Owns.not_mem_of_lookup (hnone : workers.lookup name = none) :
    name ∉ drivers.map Prod.fst := by
  intro hmem
  obtain ⟨driver, hd, hname⟩ := mem_map.mp hmem
  obtain ⟨owner, ho, _⟩ := h driver hd
  rw [hname, hnone] at ho
  cases ho

end

/-- The tables a part of a pass leaves own the drivers it leaves. -/
abbrev KeepsOwnership (s : Supervisor) (program : Run Supervisor) : Prop :=
  Triple ownership (Owns s.workers) program fun next drivers => Owns next.workers drivers

section

variable (sha256 : Bytes → Digest) (interval : Duration)

variable {s : Supervisor}

theorem triple_reloadDriver {worker : DriverWorker} (hworker : s.workers.lookup name = some worker)
    (digest : Digest) : KeepsOwnership s (reloadDriver sha256 s name worker digest) := by
  unfold reloadDriver
  dsimp only
  generalize hm : s.setWorker name { worker with hasApplied := false } = marked
  have hlookup : marked.workers.lookup name = some { worker with hasApplied := false } := by
    rw [← hm]
    exact AList.lookup_insert _
  have hmarked : ∀ drivers, Owns s.workers drivers → Owns marked.workers drivers := by
    intro drivers h
    rw [← hm]
    exact h.insert hworker rfl
  refine Triple.of_pre ?_ hmarked
  refine (keeps_ask fun _ => rfl).bind fun reloaded => ?_
  cases reloaded with
  | error error =>
    refine (keeps_ask fun _ => rfl).bind fun cancelled => ?_
    cases cancelled with
    | true => exact triple_pure fun _ h => h
    | false => exact (keeps_ask fun _ => rfl).bind fun _ => triple_pure fun _ h => h
  | ok output =>
    refine (keeps_snapshot sha256 marked).bind fun current => ?_
    cases current with
    | error error => exact triple_pure fun _ h => h
    | ok current =>
      dsimp only
      split
      · refine (keeps_ask fun _ => rfl).bind fun cancelled => ?_
        cases cancelled with
        | true => exact triple_pure fun _ h => h
        | false => exact triple_pure fun _ h => h.insert hlookup rfl
      · exact triple_pure fun _ h => h

theorem triple_start (hnone : s.workers.lookup name = none) (args : List String) :
    Triple ownership (Owns s.workers) (ask s (.start name args)) fun reply drivers =>
      match (reply : Except String Process) with
      | .ok process => ∃ before, Owns s.workers before ∧ drivers = before ++ [(name, process)]
      | .error _ => Owns s.workers drivers := by
  refine triple_request fun drivers reply howns _ => ?_
  refine ⟨⟨howns, ?_⟩, ?_⟩
  · intro driver hd
    cases reply with
    | error error => cases hd
    | ok process =>
      cases hd
      exact howns.not_mem_of_lookup hnone
  · cases reply with
    | error error =>
      show Owns s.workers (drivers.filter _ ++ [])
      rw [append_nil]
      exact howns.filter _
    | ok process => exact ⟨_, howns.filter _, rfl⟩

theorem triple_startDriver (hnone : s.workers.lookup name = none) (digest : Digest) :
    KeepsOwnership s (startDriver interval s name digest) := by
  refine (keeps_ask fun _ => rfl).bind fun time => ?_
  split
  · exact triple_pure fun _ h => h
  · refine (keeps_ask fun _ => rfl).bind fun cancelled => ?_
    cases cancelled with
    | true => exact triple_pure fun _ h => h
    | false =>
      refine (triple_start hnone _).bind fun reply => ?_
      cases reply with
      | error error => exact (keeps_ask fun _ => rfl).bind fun _ => triple_pure fun _ h => h
      | ok process =>
        refine triple_pure ?_
        rintro drivers ⟨before, howns, rfl⟩
        exact howns.concat hnone digest

theorem triple_reconcileDriver (s : Supervisor) (name : String) (digest : Digest) :
    KeepsOwnership s (reconcileDriver sha256 interval s name digest) := by
  unfold reconcileDriver
  split
  · rename_i worker hw
    split
    · exact triple_pure fun _ h => h
    · exact triple_reloadDriver sha256 hw digest
  · rename_i hnone
    exact triple_startDriver interval hnone digest

theorem triple_reconcileDrivers (digest : ConfigDigest) (names : List String) (s : Supervisor) :
    KeepsOwnership s (reconcileDrivers sha256 interval digest names s) := by
  induction names generalizing s with
  | nil => exact triple_pure fun _ h => h
  | cons name rest ih =>
    refine (keeps_ask fun _ => rfl).bind fun cancelled => ?_
    cases cancelled with
    | true => exact triple_pure fun _ h => h
    | false =>
      refine (keeps_unchanged sha256 s digest).bind fun same => ?_
      cases same with
      | false => exact triple_pure fun _ h => h
      | true => exact (triple_reconcileDriver sha256 interval s name digest.ups).bind ih

theorem triple_collectNamed (names : List String) (s : Supervisor) :
    KeepsOwnership s (collectNamed interval names s) := by
  induction names generalizing s with
  | nil => exact triple_pure fun _ h => h
  | cons name rest ih =>
    unfold collectNamed
    split
    · exact ih s
    · rename_i worker hw
      refine (told_ask fun _ => rfl).bind fun exited => ?_
      cases exited with
      | false => exact (ih s).of_pre fun _ h => h.1
      | true =>
        have hnow : Triple ownership
            (fun drivers => Owns s.workers drivers ∧ ∀ driver ∈ drivers,
              driver.2 ∉ [worker.process])
            (ask s .now) fun _ drivers => Owns (s.workers.erase name) drivers := by
          refine (triple_ask fun _ => rfl).imp fun time drivers h => ?_
          exact h.1.1.erase hw fun driver hd hsame =>
            h.1.2 driver hd (mem_singleton.mpr hsame)
        refine (hnow.of_pre fun drivers h => ⟨h.1, h.2.2⟩).bind fun time => ?_
        exact ih ((s.retryLater interval name time).dropWorker name)

theorem triple_collectExits (s : Supervisor) : KeepsOwnership s (collectExits interval s) :=
  triple_range fun order _ => triple_collectNamed interval order s

theorem triple_applyConfig (s : Supervisor) (digest : ConfigDigest) :
    Triple ownership (Owns s.workers) (applyConfig sha256 s digest)
      fun result drivers => Owns result.2.workers drivers := by
  unfold applyConfig
  split
  · exact triple_pure fun _ h => h
  · dsimp only
    refine (@keeps_ask { s with hasApplied := false } _ fun _ => rfl).bind fun reloaded => ?_
    cases reloaded with
    | error error => exact triple_pure fun _ h => h
    | ok output =>
      refine (keeps_stillCurrent sha256 { s with hasApplied := false } digest).bind fun same => ?_
      cases same <;> exact triple_pure fun _ h => h

theorem triple_reconcile (s : Supervisor) : KeepsOwnership s (reconcile sha256 interval s) := by
  refine (triple_collectExits interval s).bind fun s => ?_
  refine (keeps_snapshot sha256 s).bind fun read => ?_
  cases read with
  | error error => exact triple_pure fun _ h => h
  | ok read =>
    refine (keeps_enumerate s read.2).bind fun listed => ?_
    cases listed with
    | error error => exact triple_pure fun _ h => h
    | ok names =>
      refine (keeps_stillCurrent sha256 s read.1).bind fun same => ?_
      cases same with
      | false => exact triple_pure fun _ h => h
      | true =>
        refine (triple_applyConfig sha256 s read.1).bind fun result => ?_
        obtain ⟨applied, s⟩ := result
        cases applied with
        | false => exact triple_pure fun _ h => h
        | true =>
          exact (triple_removeAbsent s names).bind
            (triple_reconcileDrivers sha256 interval read.1 names)

theorem triple_turn (s : Supervisor) : Triple ownership (Owns s.workers) (turn sha256 interval s)
      fun result drivers => Owns result.2.workers drivers := by
  refine (keeps_ask fun _ => rfl).bind fun cancelled => ?_
  cases cancelled with
  | true => exact triple_pure fun _ h => h
  | false =>
    refine (triple_reconcile sha256 interval s).bind fun s => ?_
    exact (keeps_ask fun _ => rfl).bind fun _ => triple_pure fun _ h => h

end

end NutOperator.Nutsupervisor
