import NutOperator.Effects.Program
import Mathlib.Logic.Function.Basic

/-! A main program that spawns threads and receives their results. One step of
one party is one event; the environment answers every other request. Each party
on its own follows its program, whatever the schedule. -/
namespace NutOperator.Effects

open List

variable {Request : Type} {Reply : Request → Type} {α ω : Type}

/-- `Follows program trace later`: under the replies of `trace` the program has
become `later`. -/
inductive Follows : Program Request Reply α → List (Exchange Reply) →
    Program Request Reply α → Prop where
  | refl (program : Program Request Reply α) : Follows program [] program
  | ask {request : Request} {next : Reply request → Program Request Reply α}
      {trace : List (Exchange Reply)} {later : Program Request Reply α} (reply : Reply request)
      (rest : Follows (next reply) trace later) :
      Follows (.ask request next) (⟨request, reply⟩ :: trace) later

variable {program later : Program Request Reply α}

theorem Follows.runs_append {before after : List (Exchange Reply)} {value : α}
    (h : Follows program before later) (hrun : Runs later after value) :
    Runs program (before ++ after) value := by
  induction h with
  | refl program => exact hrun
  | ask reply rest ih => exact .ask reply (ih hrun)

theorem Follows.runs {trace : List (Exchange Reply)}
    {value : α} (h : Follows program trace (.done value)) : Runs program trace value := by
  simpa using h.runs_append (.done value)

/-- A run that was cut short can always be finished. -/
theorem Follows.exists_runs [∀ request, Inhabited (Reply request)] {trace : List (Exchange Reply)}
    (h : Follows program trace later) : ∃ after value, Runs program (trace ++ after) value :=
  ⟨_, _, h.runs_append (runs_perform (fun _ request => (default : Reply request)) [] later)⟩

/-- What a request asks of the scheduler. -/
inductive Control (Request : Type) (Reply : Request → Type) (ω ρ : Type) where
  /-- Answered by the environment. -/
  | external
  | spawn (slot : Nat) (thread : Program Request Reply ω) (reply : ρ)
  /-- A reply with an outcome hands over the result of the thread, which has
  ended; any other reply leaves the thread alone. -/
  | receive (slot : Nat) (outcome : ρ → Option ω)

/-- An exchange of the main program, or of the thread in a slot. -/
structure Event {Request : Type} (Reply : Request → Type) where
  actor : Option Nat
  exchange : Exchange Reply

/-- The exchanges of one party. -/
def view (actor : Option Nat) (trace : List (Event Reply)) : List (Exchange Reply) :=
  trace.filterMap fun event => if event.actor = actor then some event.exchange else none

@[simp] theorem view_nil (actor : Option Nat) : view actor ([] : List (Event Reply)) = [] := rfl

@[simp] theorem view_append (actor : Option Nat) (before after : List (Event Reply)) :
    view actor (before ++ after) = view actor before ++ view actor after :=
  filterMap_append

@[simp] theorem view_cons_self (actor : Option Nat) (exchange : Exchange Reply)
    (trace : List (Event Reply)) :
    view actor (⟨actor, exchange⟩ :: trace) = exchange :: view actor trace := by
  simp [view]

theorem view_cons_of_ne {actor : Option Nat} {event : Event Reply} {trace : List (Event Reply)}
    (h : event.actor ≠ actor) : view actor (event :: trace) = view actor trace := by
  simp [view, h]

theorem mem_view {actor : Option Nat} {exchange : Exchange Reply} {trace : List (Event Reply)} :
    exchange ∈ view actor trace ↔ (⟨actor, exchange⟩ : Event Reply) ∈ trace := by
  simp only [view, mem_filterMap, Option.ite_none_right_eq_some, Option.some.injEq]
  constructor
  · rintro ⟨event, hmem, rfl, rfl⟩
    exact hmem
  · exact fun h => ⟨_, h, rfl, rfl⟩

structure Machine (Request : Type) (Reply : Request → Type) (α ω : Type) where
  main : Program Request Reply α
  threads : Nat → Option (Program Request Reply ω)

section

variable (control : (request : Request) → Control Request Reply ω (Reply request))

inductive Machine.Step : Machine Request Reply α ω → Event Reply → Machine Request Reply α ω →
    Prop where
  | external {request : Request} {next : Reply request → Program Request Reply α}
      {threads : Nat → Option (Program Request Reply ω)}
      (hcontrol : control request = .external) (reply : Reply request) :
      Step ⟨.ask request next, threads⟩ ⟨none, request, reply⟩ ⟨next reply, threads⟩
  | spawn {request : Request} {next : Reply request → Program Request Reply α}
      {threads : Nat → Option (Program Request Reply ω)} {slot : Nat}
      {thread : Program Request Reply ω} {reply : Reply request}
      (hcontrol : control request = .spawn slot thread reply) :
      Step ⟨.ask request next, threads⟩ ⟨none, request, reply⟩
        ⟨next reply, Function.update threads slot (some thread)⟩
  | receive {request : Request} {next : Reply request → Program Request Reply α}
      {threads : Nat → Option (Program Request Reply ω)} {slot : Nat}
      {outcome : Reply request → Option ω} {reply : Reply request} {value : ω}
      (hcontrol : control request = .receive slot outcome) (hreply : outcome reply = some value)
      (hdone : threads slot = some (.done value)) :
      Step ⟨.ask request next, threads⟩ ⟨none, request, reply⟩
        ⟨next reply, Function.update threads slot none⟩
  | pass {request : Request} {next : Reply request → Program Request Reply α}
      {threads : Nat → Option (Program Request Reply ω)} {slot : Nat}
      {outcome : Reply request → Option ω} {reply : Reply request}
      (hcontrol : control request = .receive slot outcome) (hreply : outcome reply = none) :
      Step ⟨.ask request next, threads⟩ ⟨none, request, reply⟩ ⟨next reply, threads⟩
  | thread {main : Program Request Reply α} {threads : Nat → Option (Program Request Reply ω)}
      {slot : Nat} {request : Request} {next : Reply request → Program Request Reply ω}
      (hslot : threads slot = some (.ask request next))
      (hcontrol : control request = .external) (reply : Reply request) :
      Step ⟨main, threads⟩ ⟨some slot, request, reply⟩
        ⟨main, Function.update threads slot (some (next reply))⟩

/-- `Reaches machine trace later`: a schedule of any kind, up to any moment. -/
inductive Reaches : Machine Request Reply α ω → List (Event Reply) →
    Machine Request Reply α ω → Prop where
  | refl (machine : Machine Request Reply α ω) : Reaches machine [] machine
  | step {machine next later : Machine Request Reply α ω} {event : Event Reply}
      {trace : List (Event Reply)} (hstep : Machine.Step control machine event next)
      (rest : Reaches next trace later) : Reaches machine (event :: trace) later

def spawnOf (event : Event Reply) : Option (Nat × Program Request Reply ω) :=
  match control event.exchange.1 with
  | .spawn slot thread _ => some (slot, thread)
  | _ => none

def receiptOf (event : Event Reply) : Option (Nat × ω) :=
  match control event.exchange.1 with
  | .receive slot outcome => (outcome event.exchange.2).map fun value => (slot, value)
  | _ => none

def spawns (trace : List (Event Reply)) : List (Nat × Program Request Reply ω) :=
  trace.filterMap (spawnOf control)

def receipts (trace : List (Event Reply)) : List (Nat × ω) := trace.filterMap (receiptOf control)

variable {control}
  {machine next later : Machine Request Reply α ω} {trace before after : List (Event Reply)}
  {slot : Nat}

@[simp] theorem spawns_append : spawns control (before ++ after) =
    spawns control before ++ spawns control after :=
  filterMap_append

@[simp] theorem receipts_append : receipts control (before ++ after) =
    receipts control before ++ receipts control after :=
  filterMap_append

theorem Reaches.of_append (h : Reaches control machine (before ++ after) later) :
    ∃ mid, Reaches control machine before mid ∧ Reaches control mid after later := by
  induction before generalizing machine with
  | nil => exact ⟨machine, .refl machine, h⟩
  | cons event rest ih =>
    cases h with
    | step hstep hrest =>
      obtain ⟨mid, hb, ha⟩ := ih hrest
      exact ⟨mid, .step hstep hb, ha⟩

variable {event : Event Reply} {current : Option (Program Request Reply ω)}
  {thread : Program Request Reply ω}

theorem Reaches.snoc (h : Reaches control machine trace next)
    (hstep : Machine.Step control next event later) :
    Reaches control machine (trace ++ [event]) later := by
  induction h with
  | refl machine => exact .step hstep (.refl later)
  | step hf rest ih => exact .step hf (ih hstep)

theorem Reaches.follows_main (h : Reaches control machine trace later) :
    Follows machine.main (view none trace) later.main := by
  induction h with
  | refl machine => exact .refl _
  | step hstep rest ih =>
    cases hstep with
    | thread hslot hc reply =>
      rw [view_cons_of_ne (by simp)]
      exact ih
    | _ =>
      rw [view_cons_self]
      exact .ask _ ih

inductive SlotStep (control : (request : Request) → Control Request Reply ω (Reply request))
    (slot : Nat) : Option (Program Request Reply ω) → Event Reply →
      Option (Program Request Reply ω) → Prop where
  | own {request : Request} {next : Reply request → Program Request Reply ω}
      (hcontrol : control request = .external) (reply : Reply request) :
      SlotStep control slot (some (.ask request next)) ⟨some slot, request, reply⟩
        (some (next reply))
  | spawned {before : Option (Program Request Reply ω)} {event : Event Reply}
      {thread : Program Request Reply ω} (hactor : event.actor = none)
      (hspawn : spawnOf control event = some (slot, thread)) :
      SlotStep control slot before event (some thread)
  | received {event : Event Reply} {value : ω} (hactor : event.actor = none)
      (hspawn : spawnOf control event = none)
      (hreceipt : receiptOf control event = some (slot, value)) :
      SlotStep control slot (some (.done value)) event none
  | other {thread : Option (Program Request Reply ω)} {event : Event Reply}
      (hactor : event.actor ≠ some slot)
      (hspawn : ∀ thread, spawnOf control event ≠ some (slot, thread))
      (hreceipt : ∀ value, receiptOf control event ≠ some (slot, value)) :
      SlotStep control slot thread event thread

theorem Machine.Step.slotStep (h : Machine.Step control machine event next) (slot : Nat) :
    SlotStep control slot (machine.threads slot) event (next.threads slot) := by
  cases h with
  | external hcontrol reply =>
    exact .other (by simp) (by simp [spawnOf, hcontrol]) (by simp [receiptOf, hcontrol])
  | @spawn request _ threads started thread reply hcontrol =>
    dsimp only
    by_cases hsame : started = slot
    · subst hsame
      rw [Function.update_self]
      exact .spawned rfl (by simp [spawnOf, hcontrol])
    · rw [Function.update_of_ne (Ne.symm hsame)]
      exact .other (by simp) (by simp [spawnOf, hcontrol, hsame]) (by simp [receiptOf, hcontrol])
  | @receive request _ threads ended out reply value hcontrol hreply hdone =>
    dsimp only
    by_cases hsame : ended = slot
    · subst hsame
      rw [Function.update_self, hdone]
      exact .received rfl (by simp [spawnOf, hcontrol]) (by simp [receiptOf, hcontrol, hreply])
    · rw [Function.update_of_ne (Ne.symm hsame)]
      exact .other (by simp) (by simp [spawnOf, hcontrol])
        (by simp [receiptOf, hcontrol, hreply, hsame])
  | pass hcontrol hreply =>
    exact .other (by simp) (by simp [spawnOf, hcontrol]) (by simp [receiptOf, hcontrol, hreply])
  | @thread _ threads moved request next hslot hcontrol reply =>
    dsimp only
    by_cases hsame : moved = slot
    · subst hsame
      rw [Function.update_self, hslot]
      exact .own hcontrol reply
    · rw [Function.update_of_ne (Ne.symm hsame)]
      exact .other (by simpa using hsame) (by simp [spawnOf, hcontrol])
        (by simp [receiptOf, hcontrol])

theorem receipts_cons_ne (hevent : ∀ value, receiptOf control event ≠ some (slot, value))
    (htrace : ∀ receipt ∈ receipts control trace, receipt.1 ≠ slot) :
    ∀ receipt ∈ receipts control (event :: trace), receipt.1 ≠ slot := by
  rw [receipts, filterMap_cons]
  split
  · exact htrace
  · rename_i receipt hr
    refine forall_mem_cons.mpr ⟨?_, htrace⟩
    rintro rfl
    exact hevent receipt.2 hr

theorem spawns_cons_ne (h : ∀ spawned ∈ spawns control (event :: trace), spawned.1 ≠ slot) :
    (∀ thread, spawnOf control event ≠ some (slot, thread)) ∧
      ∀ spawned ∈ spawns control trace, spawned.1 ≠ slot := by
  constructor
  · intro thread hs
    exact h (slot, thread) (mem_filterMap.mpr ⟨event, mem_cons_self, hs⟩) rfl
  · intro spawned hmem
    obtain ⟨other, ho, hs⟩ := mem_filterMap.mp hmem
    exact h spawned (mem_filterMap.mpr ⟨other, mem_cons_of_mem _ ho, hs⟩)

theorem Reaches.idle (h : Reaches control machine trace later) (hnone : machine.threads slot = none)
    (hspawned : ∀ spawned ∈ spawns control trace, spawned.1 ≠ slot) :
    view (some slot) trace = [] ∧ (∀ receipt ∈ receipts control trace, receipt.1 ≠ slot) ∧
      later.threads slot = none := by
  induction h with
  | refl machine => exact ⟨rfl, by simp [receipts], hnone⟩
  | @step machine next later event trace hstep rest ih =>
    have hl := spawns_cons_ne hspawned
    have hslot := hstep.slotStep slot
    rw [hnone] at hslot
    generalize hnext : next.threads slot = after at hslot
    cases hslot with
    | spawned ha hs => exact absurd hs (hl.1 _)
    | other ha hs hr =>
      have hrest := ih hnext hl.2
      rw [view_cons_of_ne ha]
      exact ⟨hrest.1, receipts_cons_ne hr hrest.2.1, hrest.2.2⟩

/-- What became of a thread: it is still running, or it ended and its result was
received, once, after its last step. -/
inductive Lived (control : (request : Request) → Control Request Reply ω (Reply request))
    (slot : Nat) (thread : Program Request Reply ω) (trace : List (Event Reply)) :
    Option (Program Request Reply ω) → Prop where
  | running {current : Program Request Reply ω}
      (hfollows : Follows thread (view (some slot) trace) current)
      (hreceipts : ∀ receipt ∈ receipts control trace, receipt.1 ≠ slot) :
      Lived control slot thread trace (some current)
  | received {before after : List (Event Reply)} {event : Event Reply} {value : ω}
      (htrace : trace = before ++ event :: after)
      (hreceipt : receiptOf control event = some (slot, value))
      (hruns : Runs thread (view (some slot) trace) value)
      (hafter : view (some slot) (event :: after) = [])
      (hreceipts : ∀ receipt ∈ receipts control (before ++ after), receipt.1 ≠ slot) :
      Lived control slot thread trace none

theorem Lived.cons_own {request : Request} {next : Reply request → Program Request Reply ω}
    {reply : Reply request} (hcontrol : control request = .external)
    (h : Lived control slot (next reply) trace current) :
    Lived control slot (.ask request next) (⟨some slot, request, reply⟩ :: trace) current := by
  cases h with
  | running hf hr =>
    apply Lived.running
    · rw [view_cons_self]
      exact .ask reply hf
    · exact receipts_cons_ne (by simp [receiptOf, hcontrol]) hr
  | @received before after event value htrace hreceipt hruns ha hr =>
    apply Lived.received (by rw [htrace, cons_append]) hreceipt _ ha
    · exact receipts_cons_ne (by simp [receiptOf, hcontrol]) hr
    · rw [view_cons_self]
      exact .ask reply hruns

theorem Lived.cons_other (hactor : event.actor ≠ some slot)
    (hevent : ∀ value, receiptOf control event ≠ some (slot, value))
    (h : Lived control slot thread trace current) :
    Lived control slot thread (event :: trace) current := by
  cases h with
  | running hf hr =>
    apply Lived.running
    · rw [view_cons_of_ne hactor]
      exact hf
    · exact receipts_cons_ne hevent hr
  | @received before after other value htrace hreceipt hruns ha hr =>
    apply Lived.received (by rw [htrace, cons_append]) hreceipt _ ha
    · exact receipts_cons_ne hevent hr
    · rw [view_cons_of_ne hactor]
      exact hruns

theorem Reaches.lived (h : Reaches control machine trace later)
    (hthread : machine.threads slot = some thread)
    (hspawned : ∀ spawned ∈ spawns control trace, spawned.1 ≠ slot) :
    Lived control slot thread trace (later.threads slot) := by
  induction h generalizing thread with
  | refl machine =>
    rw [hthread]
    exact .running (.refl thread) (by simp [receipts])
  | @step machine next later event trace hstep rest ih =>
    have hlater := spawns_cons_ne hspawned
    have hslot := hstep.slotStep slot
    rw [hthread] at hslot
    generalize hnext : next.threads slot = after at hslot
    cases hslot with
    | own hc reply => exact .cons_own hc (ih hnext hlater.2)
    | spawned ha hs => exact absurd hs (hlater.1 _)
    | received ha hs hr =>
      have hidle := rest.idle hnext hlater.2
      have hview : view (some slot) (event :: trace) = [] := by
        rw [view_cons_of_ne (by simp [ha])]
        exact hidle.1
      rw [hidle.2.2]
      exact .received (nil_append _).symm hr (hview ▸ .done _) hview hidle.2.1
    | other ha hs hr => exact .cons_other ha hr (ih hnext hlater.2)

/-- A thread follows its program from the moment it is spawned. -/
theorem Reaches.spawned_lived (h : Reaches control machine (before ++ event :: after) later)
    (hnone : machine.threads slot = none) (hspawn : spawnOf control event = some (slot, thread))
    (hbefore : ∀ spawned ∈ spawns control before, spawned.1 ≠ slot)
    (hafter : ∀ spawned ∈ spawns control after, spawned.1 ≠ slot) :
    view (some slot) before = [] ∧ (∀ receipt ∈ receipts control before, receipt.1 ≠ slot) ∧
      Lived control slot thread after (later.threads slot) := by
  obtain ⟨mid, hr, hrest⟩ := h.of_append
  have hidle := hr.idle hnone hbefore
  refine ⟨hidle.1, hidle.2.1, ?_⟩
  cases hrest with
  | @step _ next _ _ _ hstep rest =>
    have hslot := hstep.slotStep slot
    rw [hidle.2.2] at hslot
    generalize hnext : next.threads slot = current at hslot
    cases hslot with
    | spawned ha ho =>
      rw [hspawn] at ho
      cases ho
      exact rest.lived hnext hafter
    | other ha ho hreceipt => exact absurd hspawn (ho thread)

theorem Reaches.actor_eq_none (h : Reaches control machine trace later) (hmem : event ∈ trace)
    (hcontrol : control event.exchange.1 ≠ .external) : event.actor = none := by
  induction h with
  | refl machine => cases hmem
  | step hstep rest ih =>
    cases mem_cons.mp hmem with
    | inr hl => exact ih hl
    | inl hsame =>
      subst hsame
      cases hstep with
      | thread hslot he reply => exact absurd he hcontrol
      | _ => rfl

/-- A thread that takes a step was spawned before. -/
theorem Reaches.spawned_of_thread {exchange : Exchange Reply}
    (h : Reaches control machine (before ++ ⟨some slot, exchange⟩ :: after) later)
    (hnone : machine.threads slot = none) :
    ∃ event ∈ before, ∃ thread, spawnOf control event = some (slot, thread) := by
  obtain ⟨mid, hr, hrest⟩ := h.of_append
  by_contra hnever
  have hs : ∀ spawned ∈ spawns control before, spawned.1 ≠ slot := by
    intro spawned hmem hslot
    obtain ⟨event, he, hspawn⟩ := mem_filterMap.mp hmem
    subst hslot
    exact hnever ⟨event, he, spawned.2, hspawn⟩
  have hidle := (hr.idle hnone hs).2.2
  cases hrest with
  | step hstep rest =>
    cases hstep with
    | thread hslot hc reply =>
      dsimp only at hidle
      rw [hslot] at hidle
      cases hidle

theorem Lived.exists_runs [∀ request, Inhabited (Reply request)]
    (h : Lived control slot thread trace current) :
    ∃ rest value, Runs thread (view (some slot) trace ++ rest) value := by
  cases h with
  | running hf hr => exact hf.exists_runs
  | @received before after event value htrace hreceipt hruns ha hr =>
    exact ⟨[], value, by rwa [append_nil]⟩

theorem Lived.asks [∀ request, Inhabited (Reply request)] {asks : Request → Prop} {post : ω → Prop}
    (h : Lived control slot thread trace current) (hwithin : Within asks thread post) :
    ∀ exchange ∈ view (some slot) trace, asks exchange.1 := by
  intro exchange hmem
  obtain ⟨rest, value, hruns⟩ := h.exists_runs
  exact (hwithin _ value hruns).1 exchange (mem_append_left _ hmem)

variable (control)
  (environment : List (Event Reply) → (request : Request) → Reply request)
  (deliver : (request : Request) → ω → Reply request)

/-- One step of one party, if it can move. A reply of the environment without an
outcome ends a wait; any other leaves it until the thread is done. -/
def Machine.move (history : List (Event Reply)) (machine : Machine Request Reply α ω) :
    Option Nat → Option (Event Reply × Machine Request Reply α ω)
  | none =>
    match machine.main with
    | .done _ => none
    | .ask request next =>
      match control request with
      | .external =>
        let reply := environment history request
        some (⟨none, request, reply⟩, ⟨next reply, machine.threads⟩)
      | .spawn slot thread reply =>
        some (⟨none, request, reply⟩,
          ⟨next reply, Function.update machine.threads slot (some thread)⟩)
      | .receive slot outcome =>
        let reply := environment history request
        match outcome reply, machine.threads slot with
        | none, _ => some (⟨none, request, reply⟩, ⟨next reply, machine.threads⟩)
        | some _, some (.done value) =>
          some (⟨none, request, deliver request value⟩,
            ⟨next (deliver request value), Function.update machine.threads slot none⟩)
        | some _, _ => none
  | some slot =>
    match machine.threads slot with
    | some (.ask request next) =>
      match control request with
      | .external =>
        let reply := environment history request
        some (⟨some slot, request, reply⟩,
          ⟨machine.main, Function.update machine.threads slot (some (next reply))⟩)
      | _ => none
    | _ => none

/-- The run of a schedule. Parties that cannot move are passed over. -/
def Machine.schedule : List (Option Nat) → List (Event Reply) → Machine Request Reply α ω →
    List (Event Reply) × Machine Request Reply α ω
  | [], _, machine => ([], machine)
  | actor :: rest, history, machine =>
    match machine.move control environment deliver history actor with
    | none => Machine.schedule rest history machine
    | some (event, next) =>
      let later := Machine.schedule rest (history ++ [event]) next
      (event :: later.1, later.2)

variable {control environment deliver}

theorem Machine.step_of_move {history : List (Event Reply)} {actor : Option Nat}
    (hdelivered : ∀ request slot out value, control request = .receive slot out →
      out (deliver request value) = some value)
    (h : machine.move control environment deliver history actor = some (event, next)) :
    Machine.Step control machine event next := by
  obtain ⟨main, threads⟩ := machine
  cases actor with
  | none =>
    cases main with
    | done value => cases h
    | ask request cont =>
      simp only [Machine.move] at h
      split at h
      · rename_i hcontrol
        cases h
        exact .external hcontrol _
      · rename_i hcontrol
        cases h
        exact .spawn hcontrol
      · rename_i hcontrol
        split at h
        · rename_i hr
          cases h
          exact .pass hcontrol hr
        · rename_i ht
          cases h
          exact .receive hcontrol (hdelivered request _ _ _ hcontrol) ht
        · cases h
  | some slot =>
    simp only [Machine.move] at h
    split at h
    · rename_i hslot
      split at h
      · rename_i hcontrol
        cases h
        exact .thread hslot hcontrol _
      · cases h
    · cases h

theorem Machine.reaches_schedule
    (hdelivered : ∀ request slot out value, control request = .receive slot out →
      out (deliver request value) = some value)
    (actors : List (Option Nat)) (history : List (Event Reply))
    (machine : Machine Request Reply α ω) :
    Reaches control machine (Machine.schedule control environment deliver actors history machine).1
      (Machine.schedule control environment deliver actors history machine).2 := by
  induction actors generalizing history machine with
  | nil => exact .refl machine
  | cons actor rest ih =>
    unfold Machine.schedule
    cases hmove : machine.move control environment deliver history actor with
    | none => exact ih history machine
    | some moved => exact .step (Machine.step_of_move hdelivered hmove) (ih _ _)

end

end NutOperator.Effects
