import NutOperator.Nutsupervisor.Ownership
import NutOperator.Nutsupervisor.Passes

/-! Whole runs of the supervisor, among processes that exit on their own and files
that change at any moment. -/
namespace NutOperator.Nutsupervisor

open Data Effects List

inductive Happening where
  | exchange (exchange : Exchange Reply)
  | exit (process : Process)
  | write (file : ConfigFile) (content : Bytes)

abbrev History := List Happening

def exchangeOf : Happening → Option (Exchange Reply)
  | .exchange exchange => some exchange
  | _ => none

def exchangesOf (history : History) : Trace := history.filterMap exchangeOf

def liveAfter (drivers : Drivers) : Happening → Drivers
  | .exchange exchange => drivers ++ (started exchange).toList
  | .exit process => drivers.filter fun driver => driver.2 ≠ process
  | .write _ _ => drivers

def live (history : History) : Drivers := history.foldl liveAfter []

def reported : Happening → List Process
  | .exchange exchange => told exchange
  | _ => []

def Truthful : Drivers → History → Prop
  | _, [] => True
  | drivers, happening :: rest =>
    (∀ driver ∈ drivers, driver.2 ∉ reported happening) ∧
      Truthful (liveAfter drivers happening) rest

instance Truthful.decidable : ∀ drivers history, Decidable (Truthful drivers history)
  | _, [] => inferInstanceAs (Decidable True)
  | drivers, happening :: rest =>
    have := Truthful.decidable (liveAfter drivers happening) rest
    inferInstanceAs (Decidable (_ ∧ _))

theorem live_sublist {drivers known : Drivers} {history : History}
    (hknown : drivers.Sublist known) (h : Truthful drivers history) :
    (history.foldl liveAfter drivers).Sublist (ownership.after known (exchangesOf history)) := by
  induction history generalizing drivers known with
  | nil => exact hknown
  | cons happening rest ih =>
    obtain ⟨hgone, hrest⟩ := h
    cases happening with
    | exit process => exact ih (filter_sublist.trans hknown) hrest
    | write file content => exact ih hknown hrest
    | exchange exchange =>
      refine ih ?_ hrest
      -- What the reply reports as exited is not live, so the live ones stay.
      have hkept : drivers.filter (fun driver => driver.2 ∉ told exchange) = drivers :=
        filter_eq_self.mpr fun driver hd => decide_eq_true (hgone driver hd)
      change (drivers ++ _).Sublist (known.filter _ ++ _)
      rw [← hkept]
      exact (hknown.filter _).append (List.Sublist.refl _)

/-- No driver is started while one of its name may be running. -/
theorem nodup_after {trace : Trace} (h : ownership.Accepts [] trace) :
    ((ownership.after [] trace).map Prod.fst).Nodup := by
  apply h.induction (motive := fun trace => ((ownership.after [] trace).map Prod.fst).Nodup)
  · exact nodup_nil
  · intro history exchange ih hallowed
    rw [Monitor.after_append]
    change ((advance (ownership.after [] history) exchange).map Prod.fst).Nodup
    have hkept : (((ownership.after [] history).filter
        fun driver => driver.2 ∉ told exchange).map Prod.fst).Nodup :=
      ih.sublist (filter_sublist.map Prod.fst)
    cases hs : started exchange with
    | none => simpa [advance, hs] using hkept
    | some driver =>
      rw [advance, hs, map_append, Option.toList_some, map_singleton]
      refine List.Nodup.append hkept (nodup_singleton _) ?_
      rw [disjoint_singleton]
      intro hmem
      exact hallowed.2 driver hs ((filter_sublist.map Prod.fst).subset hmem)

section

variable {sha256 : Bytes → Digest} {interval : Duration} {passes : List Trace} {s : Supervisor}
  {goesOn : Bool}

theorem assumes_of_sane {drvs : Drivers} {trace : Trace}
    (h : ∀ exchange ∈ trace, Sane exchange) : ownership.Assumes drvs trace :=
  Monitor.along_of_mem (fun exchange hmem _ => h exchange hmem) drvs

theorem Turns.owned (h : Turns sha256 interval passes s goesOn)
    (hsane : ∀ exchange ∈ passes.flatten, Sane exchange) :
    ownership.Accepts [] passes.flatten ∧ Owns s.workers (ownership.after [] passes.flatten) := by
  induction h with
  | start => exact ⟨trivial, fun driver hd => nomatch hd⟩
  | @turn passes s next trace goesOn h hrun ih =>
    rw [flatten_append, flatten_singleton] at hsane ⊢
    obtain ⟨ha, howns⟩ := ih fun exchange hmem =>
      hsane exchange (mem_append_left _ hmem)
    have hturn := triple_turn sha256 interval s _ trace _ howns hrun
      (assumes_of_sane fun exchange hmem => hsane exchange (mem_append_right _ hmem))
    rw [Monitor.after_append]
    exact ⟨Monitor.along_append.mpr ⟨ha, hturn.1⟩, hturn.2⟩

theorem Supervises.owned {shutdown : Trace} (h : Supervises sha256 interval passes shutdown)
    (hsane : ∀ exchange ∈ passes.flatten ++ shutdown, Sane exchange) :
    ownership.Accepts [] (passes.flatten ++ shutdown) ∧
      ownership.after [] (passes.flatten ++ shutdown) = [] := by
  obtain ⟨s, last, hturns, hstop⟩ := h
  obtain ⟨ha, howns⟩ := hturns.owned fun exchange hmem =>
    hsane exchange (mem_append_left _ hmem)
  have hend := triple_stop s _ shutdown last howns hstop
    (assumes_of_sane fun exchange hmem => hsane exchange (mem_append_right _ hmem))
  rw [Monitor.after_append]
  exact ⟨Monitor.along_append.mpr ⟨ha, hend.1⟩, hend.2⟩

/-- At every moment of every run of the supervisor: no two live drivers have one
name; the worker table owns every live driver, and none is live after the shutdown;
and a pass in which a driver is started or stopped has read the configuration, listed
its names and read the same again, a start being for a listed name, with the
configuration read once more. -/
theorem drivers_owned_and_passes_cleared {shutdown : Trace} {history : History}
    (h : Supervises sha256 interval passes shutdown)
    (hsane : ∀ exchange ∈ passes.flatten ++ shutdown, Sane exchange)
    (hhistory : exchangesOf history <+: passes.flatten ++ shutdown)
    (htruthful : Truthful [] history) : ((live history).map Prod.fst).Nodup ∧
      (∀ exchange rest, passes.flatten ++ shutdown = exchangesOf history ++ exchange :: rest →
        Owns exchange.1.tables.workers (live history)) ∧
      (exchangesOf history = passes.flatten ++ shutdown → live history = []) ∧
      ∀ pass ∈ passes, AtEach (Earned sha256) pass := by
  obtain ⟨ha, hnone⟩ := h.owned hsane
  have hlive : (live history).Sublist (ownership.after [] (exchangesOf history)) :=
    live_sublist (List.Sublist.refl []) htruthful
  refine ⟨?_, ?_, ?_, ?_⟩
  · obtain ⟨rest, hrest⟩ := hhistory
    rw [← hrest] at ha
    exact (nodup_after (Monitor.along_append.mp ha).1).sublist (hlive.map Prod.fst)
  · intro exchange rest hs driver hd
    rw [hs] at ha
    exact ha.split.1 driver (hlive.subset hd)
  · intro hall
    rw [hall, hnone] at hlive
    exact List.sublist_nil.mp hlive
  · obtain ⟨s, last, hturns, _⟩ := h
    exact hturns.earned interval

end

abbrev Files := ConfigFile → Bytes

section

variable (listing : Bytes → String)

def agrees (files : Files) : Happening → Bool
  | .exchange ⟨⟨_, .readFile file⟩, (reply : Except String Bytes)⟩ =>
    decide (reply = .ok (files file))
  | .exchange ⟨⟨_, .invoke args⟩, (reply : Except String String)⟩ =>
    decide (args = Command.list.args → reply = .ok (listing (files .upsConf)))
  | _ => true

def filesAfter (files : Files) : Happening → Files
  | .write file content => Function.update files file content
  | _ => files

def filesAt (files : Files) (history : History) : Files := history.foldl filesAfter files

def faithful : Files → History → Bool
  | _, [] => true
  | files, happening :: rest =>
    agrees listing files happening && faithful (filesAfter files happening) rest

end

def operationOf (happening : Happening) : Option Operation :=
  (exchangeOf happening).map fun exchange => exchange.1.operation

def rackA : Bytes := [97]

def rackB : Bytes := [98]

def rackListing (content : Bytes) : String :=
  if content = rackA then "rack-a" else "rack-b"

def rackReply : (request : Request) → Reply request
  | ⟨_, .now⟩ => (0 : Int)
  | ⟨_, .contextErr⟩ => false
  | ⟨_, .readFile .upsConf⟩ => .ok rackA
  | ⟨_, .readFile .upsdUsers⟩ => .ok []
  | ⟨_, .invoke args⟩ => .ok (if args = Command.list.args then rackListing rackB else "")
  | ⟨_, .range keys⟩ => keys
  | ⟨_, .exited _⟩ => true
  | ⟨_, .start _ _⟩ => .ok (0 : Nat)
  | ⟨_, .reload _ _⟩ => none
  | ⟨_, .signal _ _⟩ => ()
  | ⟨_, .awaitExits _ _⟩ => .exited
  | ⟨_, .joinExits _ _⟩ => true
  | ⟨_, .wait⟩ => true

def rackPass : Trace × Bool × Supervisor := perform (fun _ => rackReply) [] (turn id 1 {})

def rackShutdown : Trace × Supervisor := perform (fun _ => rackReply) [] (stop rackPass.2.2)

theorem rack_supervises : Supervises id 1 [rackPass.1] rackShutdown.1 :=
  ⟨rackPass.2.2, rackShutdown.2, .turn .start (runs_perform _ _ _), runs_perform _ _ _⟩

theorem sane_rackReply (request : Request) : Sane ⟨request, rackReply request⟩ := by
  obtain ⟨s, op⟩ := request
  cases op with
  | range keys => exact List.Perm.refl keys
  | awaitExits background processes => cases background <;> simp [Sane, rackReply]
  | joinExits background processes => cases background <;> simp [Sane, rackReply]
  | _ => trivial

theorem rack_sane : ∀ exchange ∈ [rackPass.1].flatten ++ rackShutdown.1, Sane exchange := by
  intro exchange hmem
  rw [flatten_singleton] at hmem
  cases mem_append.mp hmem with
  | inl hpass => exact forall_perform (fun _ request => sane_rackReply request) _ _ _ hpass
  | inr hs =>
    exact forall_perform (fun _ request => sane_rackReply request) _ _ _ hs

def rackFiles : Files
  | .upsConf => rackA
  | .upsdUsers => []

/-- The pass, with the configuration replaced while its names are listed and put
back right after. -/
def rackHistory : History := (rackPass.1.take 4).map .exchange ++ .write .upsConf rackB ::
    ((rackPass.1.drop 4).take 1).map .exchange ++ .write .upsConf rackA ::
    (rackPass.1.drop 5).map .exchange

theorem exchangesOf_rackHistory : exchangesOf rackHistory = rackPass.1 := rfl

theorem truthful_rackHistory : Truthful [] rackHistory := by decide

/-- The configuration changes while its names are listed and is back before it is read
again, so the pass goes on, and starts a driver that the configuration never named at
any read. -/
theorem starts_driver_of_rolled_back_configuration :
    Supervises id 1 [rackPass.1] rackShutdown.1 ∧
      (∀ exchange ∈ [rackPass.1].flatten ++ rackShutdown.1, Sane exchange) ∧
      exchangesOf rackHistory = rackPass.1 ∧
      Truthful [] rackHistory ∧
      faithful rackListing rackFiles rackHistory = true ∧
      (rackHistory[20]?).bind operationOf = some (.start "rack-b" (startArgs "rack-b")) ∧
      filesAt rackFiles (rackHistory.take 20) .upsConf = rackA ∧
      readNames (rackListing rackA) = .ok ["rack-a"] :=
  ⟨rack_supervises, rack_sane, exchangesOf_rackHistory, truthful_rackHistory, by decide,
    by decide, by decide, by decide⟩

theorem rack_drivers_owned : ((live rackHistory).map Prod.fst).Nodup ∧
      Owns rackPass.2.2.workers (live rackHistory) ∧
      AtEach (Earned id) rackPass.1 := by
  have hp : exchangesOf rackHistory <+: [rackPass.1].flatten ++ rackShutdown.1 := by
    rw [exchangesOf_rackHistory, List.flatten_singleton]
    exact List.prefix_append _ _
  have h := drivers_owned_and_passes_cleared rack_supervises rack_sane hp truthful_rackHistory
  refine ⟨h.1, ?_, h.2.2.2 rackPass.1 (List.mem_singleton_self _)⟩
  have hnext : rackShutdown.1 = rackShutdown.1.head (by decide) :: rackShutdown.1.tail :=
    (List.cons_head_tail _).symm
  exact h.2.1 _ _ (by rw [exchangesOf_rackHistory, List.flatten_singleton, ← hnext])

end NutOperator.Nutsupervisor
