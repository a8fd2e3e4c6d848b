import NutOperator.Effects.Concurrent
import NutOperator.Execution.Loop

/-! Whole executions: the loop and the waves it launched take steps in any order.
The loop's own exchanges fix its ghost state at every moment, and every launched
wave follows the wave program from its launch on. -/
namespace NutOperator.Execution

open Effects List

instance : ∀ request, Inhabited (Reply request)
  | .now => ⟨(0 : Int)⟩
  | .newID => ⟨""⟩
  | .observe _ => ⟨.error ""⟩
  | .approve _ => ⟨.error ""⟩
  | .resolveTargets _ _ => ⟨.error ""⟩
  | .refreshNodeRelease _ _ => ⟨.error ""⟩
  | .sleep _ _ => ⟨none⟩
  | .runAction _ _ => ⟨{}, none⟩
  | .contextErr _ => ⟨none⟩
  | .record _ _ => ⟨none⟩
  | .report _ => ⟨()⟩
  | .cancelExecution => ⟨()⟩
  | .launchWave _ _ _ _ => ⟨()⟩
  | .selectWave _ _ => ⟨.due⟩
  | .receiveWave _ => ⟨{}⟩

/-- Launching a wave starts the wave program; its channel holds its result. -/
def control (executor : Executor) :
    (request : Request) → Control Request Reply WaveExecutionResult (Reply request)
  | .launchWave slot config wave state => .spawn slot (executor.runWave config wave state) ()
  | .selectWave slot _ => .receive slot WaveSignal.outcome
  | .receiveWave slot => .receive slot some
  | _ => .external

abbrev ExecutionMachine := Machine Request Reply (Result × Option String) WaveExecutionResult

abbrev History := List (Event Reply)

def start (executor : Executor) (input : Input) : ExecutionMachine :=
  { main := executor.execute input, threads := fun _ => none }

/-- `Executes executor input history execution`: an execution of the input that
has come this far, in some order of its steps and with some replies. -/
def Executes (executor : Executor) (input : Input) (history : History)
    (execution : ExecutionMachine) : Prop :=
  Reaches (control executor) (start executor input) history execution

def loopState (history : History) : LoopState := (view none history).foldl loopAdvance {}

section

variable {executor : Executor} {input : Input} {execution : ExecutionMachine}
  {history before after : History}

theorem Executes.of_append (h : Executes executor input (before ++ after) execution) :
    ∃ middle, Executes executor input before middle :=
  (Reaches.of_append h).imp fun _ hmid => hmid.1

theorem Executes.accepts (h : Executes executor input history execution) :
    (loop input).Accepts {} (view none history) := by
  obtain ⟨rest, out, hruns⟩ := (Reaches.follows_main h).exists_runs
  have hall := triple_execute executor input {} _ out rfl hruns
    (Monitor.along_of_forall (fun _ _ => trivial) _ _)
  exact (Monitor.along_append.mp hall.1).1

theorem Executes.allowed {exchange : Exchange Reply}
    (h : Executes executor input (before ++ ⟨none, exchange⟩ :: after) execution) :
    loopAllowed input (loopState before) exchange := by
  have ha := h.accepts
  rw [view_append, view_cons_self] at ha
  exact ha.split

end

section

variable (history : History)

def dispatches : List Dispatched := (view none history).filterMap dispatchOf

def launches : List Nat := (view none history).filterMap launchOf

def received : List (Nat × WaveExecutionResult) := (view none history).filterMap receivedOf

end

theorem mem_launches {history : History} {slot : Nat} : slot ∈ launches history ↔
      ∃ config wave state, ⟨none, .launchWave slot config wave state, ()⟩ ∈ history := by
  constructor
  · intro h
    obtain ⟨⟨request, reply⟩, hmem, hlaunch⟩ := mem_filterMap.mp h
    cases request with
    | launchWave other config wave state =>
      cases hlaunch
      exact ⟨config, wave, state, mem_view.mp hmem⟩
    | _ => cases hlaunch
  · rintro ⟨config, wave, state, hmem⟩
    exact mem_filterMap.mpr ⟨_, mem_view.mpr hmem, rfl⟩

/-- What the ghost state says about the exchanges it was computed from. -/
structure Tracks (input : Input) (trace : Trace) (state : LoopState) : Prop where
  count : state.dispatched = (trace.filterMap dispatchOf).length
  inOrder : (trace.filterMap dispatchOf).map Dispatched.label =
    (input.waves.take state.dispatched).map Wave.label
  earlier : ∀ slot ∈ trace.filterMap launchOf, slot < state.dispatched
  distinct : (trace.filterMap launchOf).Nodup
  outstanding : (trace.filterMap launchOf).Perm
    (state.running ++ (trace.filterMap receivedOf).map Prod.fst)
  revoked : state.revoked = trace.any refusalOf
  dried : ∀ dispatched ∈ trace.filterMap dispatchOf, dispatched.dryRun = true →
    (effectiveDryRun input || state.revoked) = true
  flags : (trace.filterMap dispatchOf).Pairwise
    fun first second => first.dryRun = true → second.dryRun = true
  current : state.waveOpen = true → state.dryRun = (effectiveDryRun input || state.revoked) ∧
    (trace.filterMap dispatchOf).getLast?.map (·.dryRun) = some state.dryRun
  unfailed : state.failed = false → trace.filterMap failureOf = [] ∧
    ∀ received ∈ trace.filterMap receivedOf, received.2.err = none

theorem tracks_nil (input : Input) : Tracks input [] {} := by
  refine ⟨rfl, by simp, by simp, by simp, by simp, rfl, by simp, by simp, by simp, by simp⟩

section

variable {input : Input} {trace : Trace} {state : LoopState} {exchange : Exchange Reply}
  (h : Tracks input trace state) (hallowed : loopAllowed input state exchange)
include h hallowed

theorem Tracks.inOrder_snoc : ((trace ++ [exchange]).filterMap dispatchOf).map Dispatched.label =
    (input.waves.take (loopAdvance state exchange).dispatched).map Wave.label := by
  rw [(loopAdvance_eq _ _).1]
  cases hdispatch : dispatchOf exchange with
  | none => simpa [hdispatch] using h.inOrder
  | some dispd =>
    obtain ⟨wave, later, hidx, hg, hd⟩ := dispatching_of_allowed hallowed hdispatch
    have hlabel : dispd.label = wave.label := by
      rw [Dispatched.label, Wave.label, hidx, hg]
    have htake : input.waves.take (state.dispatched + 1) =
        input.waves.take state.dispatched ++ [wave] := by
      rw [take_add, hd.position]
      rfl
    simp [hdispatch, h.inOrder, htake, hlabel]

theorem Tracks.earlier_snoc : ∀ slot ∈ (trace ++ [exchange]).filterMap launchOf,
    slot < (loopAdvance state exchange).dispatched := by
  rw [(loopAdvance_eq _ _).1, filterMap_append]
  refine forall_mem_append.mpr
    ⟨fun slot hb => Nat.lt_add_right _ (h.earlier slot hb), fun slot hlast => ?_⟩
  have hlaunch : launchOf exchange = some slot := by simpa using hlast
  obtain ⟨dispd, hd⟩ := (dispatchOf_of_launchOf hlaunch).1
  rw [slot_eq_of_allowed hallowed hlaunch, hd]
  exact Nat.lt_succ_self _

theorem Tracks.distinct_snoc : ((trace ++ [exchange]).filterMap launchOf).Nodup := by
  rw [filterMap_append]
  cases hlaunch : launchOf exchange with
  | none => simpa [hlaunch] using h.distinct
  | some slot =>
    have hnew : slot ∉ trace.filterMap launchOf := by
      rw [slot_eq_of_allowed hallowed hlaunch]
      exact fun hmem => Nat.lt_irrefl _ (h.earlier _ hmem)
    rw [filterMap_cons_some hlaunch, filterMap_nil]
    exact h.distinct.append (nodup_singleton slot) (by simpa using hnew)

theorem Tracks.dried_snoc : ∀ dispatched ∈ (trace ++ [exchange]).filterMap dispatchOf,
    dispatched.dryRun = true →
      (effectiveDryRun input || (loopAdvance state exchange).revoked) = true := by
  rw [filterMap_append, (loopAdvance_eq _ _).2.2.1, ← Bool.or_assoc]
  intro dispatched hmem hdry
  cases mem_append.mp hmem with
  | inl hb => rw [h.dried dispatched hb hdry, Bool.true_or]
  | inr hlast =>
    have hd : dispatchOf exchange = some dispatched := by simpa using hlast
    obtain ⟨_, _, _, _, hdispatching⟩ := dispatching_of_allowed hallowed hd
    rw [← hdispatching.dryRun, hdry, Bool.true_or]

theorem Tracks.flags_snoc : ((trace ++ [exchange]).filterMap dispatchOf).Pairwise
    fun first second => first.dryRun = true → second.dryRun = true := by
  rw [filterMap_append, pairwise_append]
  refine ⟨h.flags, by cases hd : dispatchOf exchange <;> simp [hd], ?_⟩
  intro first hf second hs hdry
  have hd : dispatchOf exchange = some second := by simpa using hs
  obtain ⟨_, _, _, _, hdispatching⟩ := dispatching_of_allowed hallowed hd
  rw [hdispatching.dryRun]
  exact h.dried first hf hdry

theorem Tracks.current_snoc (hopen : (loopAdvance state exchange).waveOpen = true) :
    (loopAdvance state exchange).dryRun =
        (effectiveDryRun input || (loopAdvance state exchange).revoked) ∧
      ((trace ++ [exchange]).filterMap dispatchOf).getLast?.map (·.dryRun) =
        some (loopAdvance state exchange).dryRun := by
  obtain ⟨hg, hcase⟩ := open_of_advance hallowed hopen
  rw [(loopAdvance_eq _ _).2.2.1, hg, Bool.or_false, filterMap_append]
  cases hcase with
  | inl ho =>
    obtain ⟨dispd, hd, hdry⟩ := ho
    obtain ⟨_, _, _, _, hdispatching⟩ := dispatching_of_allowed hallowed hd
    rw [hdry, hdispatching.dryRun]
    simp [hd, ← hdispatching.dryRun]
  | inr hsame =>
    rw [hsame.2.2, filterMap_cons_none hsame.1, filterMap_nil, append_nil]
    exact h.current hsame.2.1

theorem Tracks.outstanding_snoc : ((trace ++ [exchange]).filterMap launchOf).Perm
    ((loopAdvance state exchange).running ++
      ((trace ++ [exchange]).filterMap receivedOf).map Prod.fst) := by
  rw [(loopAdvance_eq _ _).2.1, filterMap_append, filterMap_append]
  cases hlaunch : launchOf exchange with
  | some slot =>
    have hnone := (dispatchOf_of_launchOf hlaunch).2
    simp only [hnone, hlaunch, Option.elim, Option.toList, filterMap_cons, filterMap_nil,
      append_nil]
    refine (h.outstanding.append_right [slot]).trans ?_
    rw [append_assoc, append_assoc]
    exact perm_append_comm.append_left _
  | none =>
    cases hr : receivedOf exchange with
    | none => simpa [hlaunch, hr] using h.outstanding
    | some received =>
      have hmem := mem_running_of_allowed hallowed hr
      simp only [hlaunch, hr, Option.elim, filterMap_cons, filterMap_nil,
        append_nil, map_append, map_cons, map_nil]
      refine (h.outstanding.trans ((perm_cons_erase hmem).append_right _)).trans ?_
      rw [cons_append, ← append_assoc]
      exact (perm_append_singleton _ _).symm

end

theorem Tracks.snoc {input : Input} {trace : Trace} {state : LoopState} {exchange : Exchange Reply}
    (h : Tracks input trace state) (hallowed : loopAllowed input state exchange) :
    Tracks input (trace ++ [exchange]) (loopAdvance state exchange) where
  count := by
    rw [(loopAdvance_eq _ _).1, h.count]
    cases hd : dispatchOf exchange <;> simp [hd]
  inOrder := h.inOrder_snoc hallowed
  earlier := h.earlier_snoc hallowed
  distinct := h.distinct_snoc hallowed
  outstanding := h.outstanding_snoc hallowed
  revoked := by
    rw [(loopAdvance_eq _ _).2.2.1, h.revoked]
    simp
  dried := h.dried_snoc hallowed
  flags := h.flags_snoc hallowed
  current := h.current_snoc hallowed
  unfailed := by
    intro hu
    obtain ⟨hs, hfail, hr⟩ := failed_loopAdvance state exchange hu
    obtain ⟨hfailures, hb⟩ := h.unfailed hs
    refine ⟨by simp [hfailures, hfail], ?_⟩
    rw [filterMap_append]
    exact forall_mem_append.mpr ⟨hb, fun received hlast => hr received (by simpa using hlast)⟩

section

variable {executor : Executor} {input : Input} {execution : ExecutionMachine}
  {history before after : History}

/-- At every moment of an execution the ghost state tells its past. -/
theorem Executes.tracks (h : Executes executor input history execution) :
    Tracks input (view none history) (loopState history) := by
  apply h.accepts.induction (motive := fun trace =>
    Tracks input trace (trace.foldl loopAdvance {})) (tracks_nil input)
  intro trace exchange ht hallowed
  rw [foldl_append]
  exact ht.snoc hallowed

theorem exists_split_of_mem {α : Type} {read : Exchange Reply → Option α} {actor : Option Nat}
    {value : α} (h : value ∈ (view actor history).filterMap read) :
    ∃ front exchange back, history = front ++ ⟨actor, exchange⟩ :: back ∧
      read exchange = some value := by
  obtain ⟨exchange, hmem, hread⟩ := mem_filterMap.mp h
  obtain ⟨front, back, hs⟩ := append_of_mem (mem_view.mp hmem)
  exact ⟨front, exchange, back, hs, hread⟩

theorem spawnOf_control {event : Event Reply} {slot : Nat} {thread : Run WaveExecutionResult} :
    spawnOf (control executor) event = some (slot, thread) ↔
      ∃ config wave state, event.exchange = ⟨.launchWave slot config wave state, ()⟩ ∧
        thread = executor.runWave config wave state := by
  obtain ⟨actor, request, reply⟩ := event
  cases request with
  | launchWave other config wave state =>
    simp only [spawnOf, control]
    constructor
    · intro hspawn
      cases hspawn
      exact ⟨config, wave, state, rfl, rfl⟩
    · rintro ⟨_, _, _, he, rfl⟩
      cases he
      rfl
  | _ =>
    simp only [spawnOf, control]
    constructor
    · intro hspawn
      cases hspawn
    · rintro ⟨_, _, _, he, _⟩
      cases he

section

variable (h : Executes executor input history execution)
include h

theorem Executes.control_eq_external {event : Event Reply} (hmem : event ∈ history)
    (hactor : event.actor ≠ none) : control executor event.exchange.1 = .external := by
  by_contra hc
  exact hactor (Reaches.actor_eq_none h hmem hc)

theorem Executes.spawns_eq :
    (spawns (control executor) history).map Prod.fst = launches history := by
  rw [spawns, launches, view, map_filterMap, filterMap_filterMap]
  apply filterMap_congr
  intro event hmem
  by_cases ha : event.actor = none
  · rw [if_pos ha]
    obtain ⟨actor, request, reply⟩ := event
    cases request <;> rfl
  · rw [if_neg ha]
    simp [spawnOf, h.control_eq_external hmem ha]

theorem Executes.receipts_eq : receipts (control executor) history = received history := by
  rw [receipts, received, view, filterMap_filterMap]
  apply filterMap_congr
  intro event hmem
  by_cases ha : event.actor = none
  · rw [if_pos ha]
    obtain ⟨actor, request, reply⟩ := event
    cases request <;> rfl
  · rw [if_neg ha]
    simp [receiptOf, h.control_eq_external hmem ha]

end

theorem Executes.spawn_unique {event : Event Reply} {slot : Nat} {thread : Run WaveExecutionResult}
    (h : Executes executor input (before ++ event :: after) execution)
    (hspawn : spawnOf (control executor) event = some (slot, thread)) :
    (∀ spawned ∈ spawns (control executor) before, spawned.1 ≠ slot) ∧
      ∀ spawned ∈ spawns (control executor) after, spawned.1 ≠ slot := by
  have hd : (launches (before ++ event :: after)).Nodup := h.tracks.distinct
  rw [← h.spawns_eq, spawns, filterMap_append, filterMap_cons_some hspawn,
    map_append, map_cons, nodup_append, nodup_cons] at hd
  obtain ⟨_, ⟨ha, _⟩, hb⟩ := hd
  constructor
  · intro spawned hmem hslot
    exact hb spawned.1 (mem_map_of_mem hmem) slot mem_cons_self hslot
  · intro spawned hmem hslot
    have hagain : spawned.1 ∈ (spawns (control executor) after).map Prod.fst := mem_map_of_mem hmem
    exact ha (hslot ▸ hagain)

theorem Executes.launch_unique {slot : Nat} {config other : WaveRunConfig} {wave second : Wave}
    {state last : WaveAdaptiveState} (h : Executes executor input history execution)
    (hlaunch : ⟨none, .launchWave slot config wave state, ()⟩ ∈ history)
    (hother : ⟨none, .launchWave slot other second last, ()⟩ ∈ history) :
    config = other ∧ wave = second ∧ state = last := by
  obtain ⟨before, after, rfl⟩ := append_of_mem hlaunch
  have hunique := h.spawn_unique (spawnOf_control.mpr ⟨config, wave, state, rfl, rfl⟩)
  have hs : spawnOf (control executor) ⟨none, .launchWave slot other second last, ()⟩ =
      some (slot, executor.runWave other second last) := rfl
  cases mem_append.mp hother with
  | inl hb => exact absurd rfl (hunique.1 _ (mem_filterMap.mpr ⟨_, hb, hs⟩))
  | inr hrest =>
    cases mem_cons.mp hrest with
    | inl hsame =>
      cases hsame
      exact ⟨rfl, rfl, rfl⟩
    | inr ha => exact absurd rfl (hunique.2 _ (mem_filterMap.mpr ⟨_, ha, hs⟩))

theorem Executes.launched {slot : Nat} {exchange : Exchange Reply}
    (h : Executes executor input (before ++ ⟨some slot, exchange⟩ :: after) execution) :
    ∃ front config wave state back,
      before = front ++ ⟨none, .launchWave slot config wave state, ()⟩ :: back ∧
        (WaveAsks config.dryRun wave.index exchange.1 ∨ StartsWave exchange.1) := by
  obtain ⟨event, hmem, thread, hspawn⟩ := Reaches.spawned_of_thread h rfl
  obtain ⟨config, wave, state, he, rfl⟩ := spawnOf_control.mp hspawn
  have ha : event.actor = none := by
    apply Reaches.actor_eq_none h (mem_append_left _ hmem)
    rw [he]
    simp [control]
  obtain ⟨front, back, rfl⟩ := append_of_mem hmem
  have hevent : event = ⟨none, .launchWave slot config wave state, ()⟩ := by
    rw [← ha, ← he]
  refine ⟨front, config, wave, state, back, by rw [hevent], ?_⟩
  -- Only the part of the history up to this step says what the wave asked.
  have hlead : front ++ event :: back ++ ⟨some slot, exchange⟩ :: after =
      (front ++ event :: (back ++ [⟨some slot, exchange⟩])) ++ after := by simp
  rw [hlead] at h
  obtain ⟨mid, hmid⟩ := Executes.of_append h
  have hu := hmid.spawn_unique hspawn
  have hlived := (Reaches.spawned_lived hmid rfl hspawn hu.1 hu.2).2.2
  apply hlived.asks (asks_runWave executor config wave state)
  rw [view_append, view_cons_self]
  exact mem_append_right _ mem_cons_self

variable {later : History} {slot : Nat} {config : WaveRunConfig} {wave : Wave}
  {state : WaveAdaptiveState}

section

variable (h : Executes executor input before execution)

include h

section

variable (hlaunch : ⟨none, .launchWave slot config wave state, ()⟩ ∈ before)

include hlaunch

theorem Executes.prepared_of_launch :
    ∃ run following window waveStart, Prepared input run ∧ run.tierPolicy = .overlap ∧
      config = run.waveRun wave following config.dryRun window waveStart := by
  obtain ⟨front, back, rfl⟩ := append_of_mem hlaunch
  obtain ⟨_, run, following, window, waveStart, hp, hpolicy, hc, _, _⟩ := h.allowed
  exact ⟨run, following, window, waveStart, hp, hpolicy, hc⟩

theorem Executes.lived :
    ∃ front back, before = front ++ ⟨none, .launchWave slot config wave state, ()⟩ :: back ∧
      view (some slot) before = view (some slot) back ∧
      (∀ receipt ∈ receipts (control executor) front, receipt.1 ≠ slot) ∧
      Lived (control executor) slot (executor.runWave config wave state) back
        (execution.threads slot) := by
  obtain ⟨front, back, rfl⟩ := append_of_mem hlaunch
  have hs : spawnOf (control executor) ⟨none, .launchWave slot config wave state, ()⟩ =
      some (slot, executor.runWave config wave state) := rfl
  have hu := h.spawn_unique hs
  obtain ⟨hidle, hr, hlived⟩ := Reaches.spawned_lived h rfl hs hu.1 hu.2
  refine ⟨front, back, rfl, ?_, hr, hlived⟩
  rw [view_append, hidle, view_cons_of_ne (by simp), nil_append]

theorem Executes.runs_of_launch :
    ∃ rest run, Runs (executor.runWave config wave state)
      (view (some slot) before ++ rest) run := by
  obtain ⟨front, back, _, hview, _, hlived⟩ := h.lived hlaunch
  rw [hview]
  exact hlived.exists_runs

end

theorem Executes.idle (hnever : slot ∉ launches before) :
    view (some slot) before = [] ∧ execution.threads slot = none := by
  have hidle := Reaches.idle h (rfl : (start executor input).threads slot = none) ?_
  · exact ⟨hidle.1, hidle.2.2⟩
  · intro spawned hmem hslot
    have hs : spawned.1 ∈ (spawns (control executor) before).map Prod.fst := mem_map_of_mem hmem
    rw [h.spawns_eq, hslot] at hs
    exact hnever hs

end

theorem Executes.settled (h : Executes executor input (before ++ later) execution)
    (hlaunch : ⟨none, .launchWave slot config wave state, ()⟩ ∈ before)
    (hreceived : slot ∈ (received before).map Prod.fst) :
    ∃ run, (slot, run) ∈ received before ∧
      Runs (executor.runWave config wave state) (view (some slot) before) run ∧
      view (some slot) later = [] := by
  obtain ⟨middle, hb, hlater⟩ := Reaches.of_append h
  have hmid : Executes executor input before middle := hb
  obtain ⟨front, back, rfl, hview, hfront, hlived⟩ := hmid.lived hlaunch
  rw [← hmid.receipts_eq] at hreceived ⊢
  rw [hview]
  generalize hcurrent : middle.threads slot = current at hlived
  cases hlived with
  | running hf hr =>
    obtain ⟨receipt, hmem, hslot⟩ := mem_map.mp hreceived
    rw [receipts_append] at hmem
    exact absurd hslot (forall_mem_append.mpr ⟨hfront, hr⟩ receipt hmem)
  | @received early late event run htrace hreceipt hruns ha hr =>
    refine ⟨run, mem_filterMap.mpr ⟨event, by simp [htrace], hreceipt⟩, hruns, ?_⟩
    have hs : spawnOf (control executor) ⟨none, .launchWave slot config wave state, ()⟩ =
        some (slot, executor.runWave config wave state) := rfl
    rw [append_assoc, cons_append] at h
    have hnever := (h.spawn_unique hs).2
    rw [spawns_append] at hnever
    exact (hlater.idle hcurrent fun spawned hmem =>
      hnever spawned (mem_append_right _ hmem)).1

theorem Executes.received_unique {run other : WaveExecutionResult}
    (h : Executes executor input before execution) (hrun : (slot, run) ∈ received before)
    (hother : (slot, other) ∈ received before) : run = other := by
  have hd := h.tracks.outstanding.nodup_iff.mp h.tracks.distinct
  have hsame := inj_on_of_nodup_map (nodup_append.mp hd).2.1 hrun hother rfl
  exact (Prod.mk.inj hsame).2

end

theorem exists_dispatch_at {history : History} {position : Nat} {dispatched : Dispatched}
    (h : history[position]?.map (fun event => (event.actor, dispatchOf event.exchange)) =
      some (none, some dispatched)) :
    ∃ exchange, history.drop position = ⟨none, exchange⟩ :: history.drop (position + 1) ∧
      dispatchOf exchange = some dispatched := by
  obtain ⟨⟨actor, exchange⟩, he, hpair⟩ := Option.map_eq_some_iff.mp h
  obtain ⟨ha, hd⟩ := Prod.mk.inj hpair
  cases ha
  obtain ⟨hlen, hget⟩ := List.getElem?_eq_some_iff.mp he
  exact ⟨exchange, by rw [drop_eq_getElem_cons hlen, hget], hd⟩

def deliver : (request : Request) → WaveExecutionResult → Reply request
  | .selectWave _ _, run => .finished run
  | .receiveWave _, run => run
  | _, _ => default

/-- The execution of a schedule: who takes the next step, and what is answered. -/
def simulate (executor : Executor) (input : Input)
    (environment : History → (request : Request) → Reply request) (actors : List (Option Nat)) :
    History × ExecutionMachine :=
  Machine.schedule (control executor) environment deliver actors [] (start executor input)

section

variable (executor : Executor) (input : Input)
  (environment : History → (request : Request) → Reply request) (actors : List (Option Nat))

theorem outcome_deliver (request : Request) (slot : Nat)
    (outcome : Reply request → Option WaveExecutionResult) (result : WaveExecutionResult)
    (h : control executor request = .receive slot outcome) :
    outcome (deliver request result) = some result := by
  cases request with
  | selectWave other dueAfter =>
    cases h
    rfl
  | receiveWave other =>
    cases h
    rfl
  | _ => cases h

theorem executes_simulate :
    Executes executor input (simulate executor input environment actors).1
      (simulate executor input environment actors).2 :=
  Machine.reaches_schedule (outcome_deliver executor) actors [] _

end

/-- At a moment of an execution every wave launched before has run to its end
without an error and does nothing later, and no wave the loop ran itself failed. -/
structure Quiesced (executor : Executor) (before later : History) : Prop where
  finished : ∀ slot config wave state, ⟨none, .launchWave slot config wave state, ()⟩ ∈ before →
      ∃ run, Runs (executor.runWave config wave state) (view (some slot) before) run ∧
        run.err = none ∧ view (some slot) later = []
  unfailed : (view none before).filterMap failureOf = []

def WaitsForAll (input : Input) (wave : Wave) (later : List Wave) : Prop :=
  wave.communicationBarrier = true ∨ later = [] ∧ ∃ name, wave.groups = [name] ∧
      (groupNamed input.groups name).action = actionAgentShutdown

theorem awaitsPending_of_waitsForAll {inp : Input} {wave : Wave} {later : List Wave}
    (h : WaitsForAll inp wave later) : awaitsPending inp.groups wave later = true := by
  unfold awaitsPending
  rcases h with hb | ⟨rfl, name, hg, ha⟩
  · rw [hb, Bool.true_or]
  · simp [terminalHandoffWave, hg, ha]

section

variable {executor : Executor} {input : Input} {execution : ExecutionMachine}
  {before after : History}
  {exchange : Exchange Reply} {dispatched : Dispatched}

/-- Under every policy and in every order of steps, a wave that waits for all is
dispatched when everything before it is over. -/
theorem Executes.quiesced {wave : Wave} {later : List Wave}
    (h : Executes executor input (before ++ ⟨none, exchange⟩ :: after) execution)
    (hdispatch : dispatchOf exchange = some dispatched)
    (hposition : input.waves.drop (dispatches before).length = wave :: later)
    (hwaits : WaitsForAll input wave later) : Quiesced executor before
    (⟨none, exchange⟩ :: after) := by
  obtain ⟨mid, hb⟩ := h.of_append
  have htraced := hb.tracks
  obtain ⟨_, _, _, _, hd⟩ := dispatching_of_allowed h.allowed hdispatch
  have hsame := hd.position
  rw [htraced.count] at hsame
  obtain ⟨rfl, rfl⟩ := List.cons.inj (hsame.symm.trans hposition)
  have hnone := hd.drained (awaitsPending_of_waitsForAll hwaits)
  obtain ⟨hfail, hr⟩ := htraced.unfailed hd.unfailed
  refine ⟨fun slot cfg launched current hlaunch => ?_, hfail⟩
  have hreceived : slot ∈ (received before).map Prod.fst := by
    have hmem := mem_launches.mpr ⟨cfg, launched, current, hlaunch⟩
    have houts := htraced.outstanding
    rw [hnone, List.nil_append] at houts
    exact houts.mem_iff.mp hmem
  obtain ⟨run, hrun, hruns, hl⟩ := h.settled hlaunch hreceived
  exact ⟨run, hruns, hr (slot, run) hrun, hl⟩

theorem Executes.quiesced_of_untiered
    (h : Executes executor input (before ++ ⟨none, exchange⟩ :: after) execution)
    (hdispatch : dispatchOf exchange = some dispatched)
    (huntiered : ∀ wave ∈ input.waves, wave.shutdownTier = none) :
    Quiesced executor before (⟨none, exchange⟩ :: after) := by
  obtain ⟨mid, hb⟩ := h.of_append
  obtain ⟨_, _, _, _, hd⟩ := dispatching_of_allowed h.allowed hdispatch
  refine ⟨fun slot cfg wave current hlaunch => ?_, (hb.tracks.unfailed hd.unfailed).1⟩
  obtain ⟨front, back, rfl⟩ := List.append_of_mem hlaunch
  obtain ⟨_, run, later, window, waveStart, _, _, hc, hdue, hl⟩ := hb.allowed
  have hmem : wave ∈ input.waves := by
    apply List.mem_of_mem_drop
    rw [hl.position]
    exact List.mem_cons_self
  rw [hc] at hdue
  simp only [ExecutionRun.waveRun, lowerTierDueAfter, huntiered wave hmem] at hdue
  cases later <;> cases hdue

end

end NutOperator.Execution
