import NutOperator.Controller.Flow
import NutOperator.Data.Claims
import NutOperator.Effects.Monitor
import NutOperator.Planner.Text

/-! The runs the manager owns. Workers, passes and the manager take turns at one
lock; every lock region is one event, and a pass that publishes a run goes through
several of them. -/
namespace NutOperator.Controller

open Data Effects List
open Execution (Time)
open Planner (quote)

/-- The execution of a flow, as its worker last published it. -/
structure FlowRun where
  flow : ShutdownFlow
  (done discard : Bool := false)
  cadence : Duration := 0
deriving Repr, DecidableEq

inductive Admission where
  | unready
  | opened
  | stopped
deriving Repr, DecidableEq

structure FlowRuns where
  admission : Admission := .unready
  limit : Nat
  /-- Every run ever submitted; its worker keeps the number of its run. -/
  cells : List FlowRun := []
  /-- The numbers of the runs owned, by the name of the flow. -/
  runs : AList fun _ : String => Nat := ∅
  claims : Claims String String := ∅

def newFlowRuns (limit : Nat) : FlowRuns := { limit := limit }

def maxConcurrentFlowRuns : Nat := 8

def FlowRuns.worker (s : FlowRuns) (number : Nat) : Option FlowRun :=
  s.cells[number]?.filter fun run => !run.done

def FlowRuns.owned (s : FlowRuns) (name : String) : Option FlowRun :=
  (s.runs.lookup name).bind fun number => s.cells[number]?

def FlowRuns.submit (s : FlowRuns) (flow : ShutdownFlow) (cadence : Duration) : FlowRuns × Bool :=
  if s.admission ≠ .opened ∨ s.limit ≤ s.runs.keys.length ∨
      (s.runs.lookup flow.name).isSome then (s, false)
  else
    ({ s with
        cells := s.cells ++ [{ flow := flow, cadence := cadence }]
        runs := s.runs.insert flow.name s.cells.length }, true)

def FlowRuns.publish (s : FlowRuns) (number : Nat) (status : ShutdownFlowStatus) : FlowRuns :=
  match s.worker number with
  | none => s
  | some run => { s with cells := s.cells.set number { run with flow.status := status } }

/-- The end of a worker: its claims go with it, and a discarded run is not kept. -/
def FlowRuns.complete (s : FlowRuns) (number : Nat) (status : ShutdownFlowStatus) : FlowRuns :=
  match s.worker number with
  | none => s
  | some run =>
    { s with
      cells := s.cells.set number { run with flow.status := status, done := true }
      claims := s.claims.release run.flow.name
      runs := if run.discard then s.runs.erase run.flow.name else s.runs }

/-- A copy, in which nothing is marked for discarding. -/
def FlowRuns.snapshot (s : FlowRuns) (name : String) : Option FlowRun :=
  (s.owned name).map fun run => { run with discard := false }

def FlowRuns.cancel (s : FlowRuns) (name : String) : FlowRuns :=
  match s.runs.lookup name with
  | none => s
  | some number =>
    match s.cells[number]? with
    | none => s
    | some run =>
      { s with
        cells := s.cells.set number { run with discard := true }
        runs := if run.done then s.runs.erase name else s.runs }

def FlowRuns.acknowledge (s : FlowRuns) (name : String) : FlowRuns :=
  match s.owned name with
  | none => s
  | some run => if run.done then { s with runs := s.runs.erase name } else s

def claimsClash (key held : String) : Bool := key = "*" || held = "*" || held = key

def FlowRuns.claim (s : FlowRuns) (owner : String) (keys : List String) : Except String FlowRuns :=
  match s.claims.claim claimsClash owner keys with
  | .error other =>
    .error s!"shutdown flow {quote other} owns conflicting execution resources"
  | .ok claims => .ok { s with claims := claims }

inductive RunsEvent where
  | start
  | stop
  | submit (flow : ShutdownFlow) (cadence : Duration)
  /-- The worker of a run claims under the name of its flow. -/
  | claim (number : Nat) (keys : List String)
  | publish (number : Nat) (status : ShutdownFlowStatus)
  | complete (number : Nat) (status : ShutdownFlowStatus)
  | cancel (name : String)
  | acknowledge (name : String)
  | snapshot (name : String)
deriving Repr, DecidableEq

def FlowRuns.claimFor (s : FlowRuns) (number : Nat) (keys : List String) : FlowRuns :=
  match s.worker number with
  | none => s
  | some run =>
    match s.claim run.flow.name keys with
    | .error _ => s
    | .ok later => later

def FlowRuns.step (s : FlowRuns) : RunsEvent → FlowRuns
  | .start => if s.admission = .unready then { s with admission := .opened } else s
  | .stop => { s with admission := .stopped }
  | .submit flow cadence => (s.submit flow cadence).1
  | .claim number keys => s.claimFor number keys
  | .publish number status => s.publish number status
  | .complete number status => s.complete number status
  | .cancel name => s.cancel name
  | .acknowledge name => s.acknowledge name
  | .snapshot _ => s

def FlowRuns.run (s : FlowRuns) (events : List RunsEvent) : FlowRuns := events.foldl FlowRuns.step s

inductive FlowRun.Evolves (number : Nat) (run : FlowRun) : RunsEvent → FlowRun → Prop where
  | same (event : RunsEvent) : Evolves number run event run
  | publish (status : ShutdownFlowStatus) (hopen : run.done = false) :
      Evolves number run (.publish number status) { run with flow.status := status }
  | complete (status : ShutdownFlowStatus) (hopen : run.done = false) :
      Evolves number run (.complete number status) { run with flow.status := status, done := true }
  | cancel : Evolves number run (.cancel run.flow.name) { run with discard := true }

/-- The ways in which a run stops being owned. -/
inductive FlowRun.GivenUp (number : Nat) (run : FlowRun) : RunsEvent → Prop where
  | acknowledged (hdone : run.done = true) : GivenUp number run (.acknowledge run.flow.name)
  | cancelled (hdone : run.done = true) : GivenUp number run (.cancel run.flow.name)
  | discarded (status : ShutdownFlowStatus) (hopen : run.done = false)
      (hdiscard : run.discard = true) : GivenUp number run (.complete number status)

inductive FlowRuns.Moves (s : FlowRuns) : RunsEvent → FlowRuns → Prop where
  | keeps (event : RunsEvent) (admission : Admission) :
      Moves s event { s with admission := admission }
  | submits (flow : ShutdownFlow) (cadence : Duration) (hroom : s.runs.keys.length < s.limit)
      (hfree : s.runs.lookup flow.name = none) :
      Moves s (.submit flow cadence)
        { s with
          cells := s.cells ++ [{ flow := flow, cadence := cadence }]
          runs := s.runs.insert flow.name s.cells.length }
  | claims {number : Nat} {run : FlowRun} {keys : List String} {claims : Claims String String}
      (hworker : s.worker number = some run)
      (hclaim : s.claims.claim claimsClash run.flow.name keys = .ok claims) :
      Moves s (.claim number keys) { s with claims := claims }
  | revises {event : RunsEvent} {number : Nat} {run changed : FlowRun}
      (hrun : s.cells[number]? = some run) (hevolves : run.Evolves number event changed)
      (hdone : changed.done = run.done) :
      Moves s event { s with cells := s.cells.set number changed }
  | completes {number : Nat} {run : FlowRun} (status : ShutdownFlowStatus)
      (hworker : s.worker number = some run) :
      Moves s (.complete number status)
        { s with
          cells := s.cells.set number { run with flow.status := status, done := true }
          claims := s.claims.release run.flow.name }
  /-- What else the event did is in `later`; it keeps the run that is given up, and its cell. -/
  | forgets {event : RunsEvent} {later : FlowRuns} {number : Nat} {run before : FlowRun}
      (h : Moves s event later) (hcell : later.cells[number]? = some run)
      (hlookup : later.runs.lookup run.flow.name = some number) (hdone : run.done = true)
      (hbefore : s.cells[number]? = some before) (hgiven : before.GivenUp number event) :
      Moves s event { later with runs := later.runs.erase run.flow.name }

structure FlowRuns.Sound (s : FlowRuns) : Prop where
  bounded : s.runs.keys.length ≤ s.limit
  named : ∀ name number, s.runs.lookup name = some number →
    ∃ run, s.cells[number]? = some run ∧ run.flow.name = name
  working : ∀ number run, s.worker number = some run → s.runs.lookup run.flow.name = some number
  held : ∀ key owner, s.claims.lookup key = some owner →
    ∃ number run, s.worker number = some run ∧ run.flow.name = owner
  exclusive : s.claims.Exclusive claimsClash

theorem worker_eq_some {s : FlowRuns} {number : Nat} {run : FlowRun} :
    s.worker number = some run ↔ s.cells[number]? = some run ∧ run.done = false := by
  simp [FlowRuns.worker, Option.filter_eq_some_iff]

theorem claimsClash_self (key : String) : claimsClash key key = true := by
  simp [claimsClash]

theorem claimsClash_comm (key held : String) : claimsClash key held = claimsClash held key := by
  simp only [claimsClash, eq_comm (a := held)]
  cases decide (key = "*") <;> cases decide (held = "*") <;> simp

section

variable {cells : List FlowRun} {number : Nat} {run : FlowRun} (h : cells[number]? = some run)
  (changed : FlowRun)
include h

theorem getElem?_set_of_getElem? (other : Nat) :
    (cells.set number changed)[other]? = if other = number then some changed else
    cells[other]? := by
  obtain ⟨hlt, -⟩ := List.getElem?_eq_some_iff.mp h
  rw [getElem?_set]
  by_cases hsame : other = number
  · simp [hsame, hlt]
  · simp [hsame, Ne.symm hsame]

theorem getElem?_set_same : (cells.set number changed)[number]? = some changed := by
  rw [getElem?_set_of_getElem? h, if_pos rfl]

end

namespace FlowRuns.Sound

variable {s : FlowRuns} {number : Nat} {run : FlowRun} {name : String}

section

variable (h : s.Sound)

include h

section

variable (hrun : s.cells[number]? = some run) (changed : FlowRun)
  (hname : changed.flow.name = run.flow.name)
include hrun hname

theorem named_set (name : String) (owned : Nat) (hlookup : s.runs.lookup name = some owned) :
    ∃ found, (s.cells.set number changed)[owned]? = some found ∧ found.flow.name = name := by
  obtain ⟨found, hf, hsame⟩ := h.named name owned hlookup
  rw [getElem?_set_of_getElem? hrun]
  split
  · rename_i hn
    subst hn
    cases hrun.symm.trans hf
    exact ⟨changed, rfl, hname.trans hsame⟩
  · exact ⟨found, hf, hsame⟩

theorem revise (hdone : changed.done = run.done) :
    Sound { s with cells := s.cells.set number changed } where
  bounded := h.bounded
  named := h.named_set hrun changed hname
  working := by
    intro other found hworker
    rw [worker_eq_some, getElem?_set_of_getElem? hrun] at hworker
    obtain ⟨hcell, hopen⟩ := hworker
    split at hcell
    · rename_i hsame
      cases hcell
      rw [hname, hsame]
      exact h.working number run (worker_eq_some.mpr ⟨hrun, hdone ▸ hopen⟩)
    · exact h.working other found (worker_eq_some.mpr ⟨hcell, hopen⟩)
  held := by
    intro key owner hkey
    obtain ⟨other, found, hworker, ho⟩ := h.held key owner hkey
    obtain ⟨hcell, hopen⟩ := worker_eq_some.mp hworker
    by_cases hsame : other = number
    · subst hsame
      cases hrun.symm.trans hcell
      exact ⟨other, changed, worker_eq_some.mpr ⟨getElem?_set_same hrun _, hdone.trans hopen⟩,
        hname.trans ho⟩
    · refine ⟨other, found, worker_eq_some.mpr ⟨?_, hopen⟩, ho⟩
      rw [getElem?_set_of_getElem? hrun, if_neg hsame]
      exact hcell
  exclusive := h.exclusive

end

theorem finish (hworker : s.worker number = some run) (changed : FlowRun)
    (hname : changed.flow.name = run.flow.name) (hdone : changed.done = true) :
    Sound { s with
      cells := s.cells.set number changed
      claims := s.claims.release run.flow.name } where
  bounded := h.bounded
  named := h.named_set (worker_eq_some.mp hworker).1 changed hname
  working := by
    intro other found hother
    rw [worker_eq_some, getElem?_set_of_getElem? (worker_eq_some.mp hworker).1] at hother
    obtain ⟨hcell, hopen⟩ := hother
    split at hcell
    · cases hcell
      cases hdone.symm.trans hopen
    · exact h.working other found (worker_eq_some.mpr ⟨hcell, hopen⟩)
  held := by
    intro key owner hkey
    obtain ⟨hb, ho⟩ := Claims.lookup_release.mp hkey
    obtain ⟨other, found, hother, rfl⟩ := h.held key owner hb
    obtain ⟨hcell, hopen⟩ := worker_eq_some.mp hother
    have hne : other ≠ number := by
      rintro rfl
      cases hworker.symm.trans hother
      exact ho rfl
    refine ⟨other, found, worker_eq_some.mpr ⟨?_, hopen⟩, rfl⟩
    rw [getElem?_set_of_getElem? (worker_eq_some.mp hworker).1, if_neg hne]
    exact hcell
  exclusive := h.exclusive.release _

theorem forget (hlookup : s.runs.lookup name = some number)
    (hrun : s.cells[number]? = some run) (hdone : run.done = true) :
    Sound { s with runs := s.runs.erase name } where
  bounded := by
    rw [AList.keys_erase]
    exact (length_erase_le).trans h.bounded
  named := by
    intro other owned ho
    by_cases hsame : other = name
    · rw [hsame, AList.lookup_erase] at ho
      cases ho
    · rw [AList.lookup_erase_ne hsame] at ho
      exact h.named other owned ho
  working := by
    intro other found hw
    have hf := h.working other found hw
    have hne : found.flow.name ≠ name := by
      intro hsame
      rw [hsame, hlookup] at hf
      cases hf
      obtain ⟨hcell, hopen⟩ := worker_eq_some.mp hw
      cases hrun.symm.trans hcell
      cases hdone.symm.trans hopen
    rw [AList.lookup_erase_ne hne]
    exact hf
  held := h.held
  exclusive := h.exclusive

theorem submit {flow : ShutdownFlow} (cadence : Duration)
    (hroom : s.runs.keys.length < s.limit) (hfree : s.runs.lookup flow.name = none) :
    Sound { s with
      cells := s.cells ++ [{ flow := flow, cadence := cadence }]
      runs := s.runs.insert flow.name s.cells.length } := by
  have hnew : ∀ other, other < s.cells.length →
      (s.cells ++ [{ flow := flow, cadence := cadence }])[other]? = s.cells[other]? :=
    fun other hlt => getElem?_append_left hlt
  refine ⟨?_, ?_, ?_, ?_, h.exclusive⟩
  · rw [AList.keys_insert, length_cons,
      erase_of_not_mem fun hmem => AList.lookup_eq_none.mp hfree hmem]
    exact hroom
  · intro name owned hl
    by_cases hsame : name = flow.name
    · subst hsame
      obtain rfl := Option.some.inj ((AList.lookup_insert _).symm.trans hl)
      exact ⟨_, getElem?_concat_length, rfl⟩
    · rw [AList.lookup_insert_ne hsame] at hl
      obtain ⟨found, hfound, hname⟩ := h.named name owned hl
      exact ⟨found, (hnew owned (List.getElem?_eq_some_iff.mp hfound).1).trans hfound, hname⟩
  · intro other found hworker
    obtain ⟨hcell, hopen⟩ := worker_eq_some.mp hworker
    obtain ⟨hlt, -⟩ := List.getElem?_eq_some_iff.mp hcell
    rw [length_append, length_singleton] at hlt
    rcases Nat.lt_succ_iff_lt_or_eq.mp hlt with hold | rfl
    · rw [hnew other hold] at hcell
      have hfound := h.working other found (worker_eq_some.mpr ⟨hcell, hopen⟩)
      have hne : found.flow.name ≠ flow.name := by
        intro hsame
        rw [hsame, hfree] at hfound
        cases hfound
      rw [AList.lookup_insert_ne hne]
      exact hfound
    · cases getElem?_concat_length.symm.trans hcell
      exact AList.lookup_insert _
  · intro key owner hkey
    obtain ⟨other, found, hworker, ho⟩ := h.held key owner hkey
    obtain ⟨hcell, hopen⟩ := worker_eq_some.mp hworker
    refine ⟨other, found, worker_eq_some.mpr ⟨?_, hopen⟩, ho⟩
    exact (hnew other (List.getElem?_eq_some_iff.mp hcell).1).trans hcell

theorem claim {keys : List String} {claims : Claims String String}
    (hworker : s.worker number = some run)
    (hclaim : s.claims.claim claimsClash run.flow.name keys = .ok claims) :
    Sound { s with claims := claims } := by
  refine ⟨h.bounded, h.named, h.working, ?_, h.exclusive.claim claimsClash_comm hclaim⟩
  intro key owner hkey
  rcases Claims.of_lookup_claim hclaim hkey with ⟨-, rfl⟩ | hb
  · exact ⟨number, run, hworker, rfl⟩
  · exact h.held key owner hb

end

end FlowRuns.Sound

section

variable {s : FlowRuns} {event : RunsEvent} {number : Nat} {run later : FlowRun} {name : String}

theorem FlowRun.Evolves.name_eq (h : run.Evolves number event later) :
    later.flow.name = run.flow.name := by
  cases h <;> rfl

theorem evolves_of_set {changed : FlowRun} (hrun : s.cells[number]? = some run)
    (hevolves : run.Evolves number event changed) {other : Nat}
    (hcell : (s.cells.set number changed)[other]? = some later) :
    ∃ before, s.cells[other]? = some before ∧ before.Evolves other event later := by
  rw [getElem?_set_of_getElem? hrun] at hcell
  split at hcell
  · rename_i hsame
    cases hcell
    exact ⟨run, hsame ▸ hrun, hsame ▸ hevolves⟩
  · exact ⟨later, hcell, .same event⟩

theorem claim_eq_ok {owner : String} {keys : List String} {claimed : FlowRuns} :
    s.claim owner keys = .ok claimed ↔
      ∃ claims, s.claims.claim claimsClash owner keys = .ok claims ∧
        claimed = { s with claims := claims } := by
  rw [FlowRuns.claim]
  cases s.claims.claim claimsClash owner keys with
  | error other => simp
  | ok claims => simp [eq_comm]

theorem FlowRuns.Sound.moves (h : s.Sound) (event : RunsEvent) : s.Moves event (s.step event) := by
  have hidle : s.Moves event s := .keeps event s.admission
  cases event with
  | start =>
    rw [FlowRuns.step]
    split
    · exact .keeps _ _
    · exact hidle
  | stop => exact .keeps _ _
  | snapshot name => exact hidle
  | submit flow cadence =>
    rw [FlowRuns.step, FlowRuns.submit]
    split
    · exact hidle
    · rename_i hfree
      simp only [not_or, not_le, Bool.not_eq_true, Option.isSome_eq_false_iff,
        Option.isNone_iff_eq_none] at hfree
      exact .submits flow cadence hfree.2.1 hfree.2.2
  | claim number keys =>
    rw [FlowRuns.step, FlowRuns.claimFor]
    split
    · exact hidle
    · rename_i run hworker
      split
      · exact hidle
      · rename_i claimed hc
        obtain ⟨claims, hclaim, rfl⟩ := claim_eq_ok.mp hc
        exact .claims hworker hclaim
  | publish number status =>
    rw [FlowRuns.step, FlowRuns.publish]
    split
    · exact hidle
    · rename_i run hworker
      obtain ⟨hrun, hopen⟩ := worker_eq_some.mp hworker
      exact .revises hrun (.publish status hopen) rfl
  | complete number status =>
    rw [FlowRuns.step, FlowRuns.complete]
    split
    · exact hidle
    · rename_i run hworker
      obtain ⟨hrun, hopen⟩ := worker_eq_some.mp hworker
      have hended := FlowRuns.Moves.completes status hworker
      split
      · rename_i hd
        have hgone := hended.forgets (getElem?_set_same hrun _) (h.working number run hworker) rfl
          hrun (.discarded status hopen hd)
        exact hgone
      · exact hended
  | cancel name =>
    rw [FlowRuns.step, FlowRuns.cancel]
    split
    · exact hidle
    · rename_i number hlookup
      obtain ⟨run, hrun, rfl⟩ := h.named name number hlookup
      have hm := FlowRuns.Moves.revises hrun .cancel rfl
      rw [hrun]
      dsimp only
      split
      · rename_i hdone
        have hgone := hm.forgets (getElem?_set_same hrun _) hlookup hdone hrun (.cancelled hdone)
        exact hgone
      · exact hm
  | acknowledge name =>
    rw [FlowRuns.step, FlowRuns.acknowledge]
    split
    · exact hidle
    · rename_i run ho
      obtain ⟨number, hlookup, hrun⟩ := Option.bind_eq_some_iff.mp ho
      obtain ⟨named, hn, rfl⟩ := h.named name number hlookup
      cases hrun.symm.trans hn
      split
      · rename_i hdone
        exact hidle.forgets hrun hlookup hdone hrun (.acknowledged hdone)
      · exact hidle

namespace FlowRuns.Moves

variable {moved : FlowRuns}

section

variable (h : s.Moves event moved)

include h

theorem sound (hsound : s.Sound) : moved.Sound := by
  induction h with
  | keeps event admission =>
    exact ⟨hsound.bounded, hsound.named, hsound.working, hsound.held, hsound.exclusive⟩
  | submits flow cadence hroom hfree => exact hsound.submit cadence hroom hfree
  | claims hw hc => exact hsound.claim hw hc
  | revises hrun he hdone => exact hsound.revise hrun _ he.name_eq hdone
  | completes status hw => exact hsound.finish hw _ rfl rfl
  | forgets _ hcell hl hdone _ _ ih => exact ih.forget hl hcell hdone

theorem limit_eq : moved.limit = s.limit := by
  induction h with
  | forgets _ _ _ _ _ _ ih => exact ih
  | _ => rfl

theorem length_cells_le : s.cells.length ≤ moved.cells.length := by
  induction h with
  | forgets _ _ _ _ _ _ ih => exact ih
  | _ => simp

theorem of_getElem?_cells (hcell : moved.cells[number]? = some later) :
    (number = s.cells.length ∧ later.discard = false ∧ later.done = false) ∨
      ∃ run, s.cells[number]? = some run ∧ run.Evolves number event later := by
  induction h with
  | submits flow cadence hroom hfree =>
    rcases Nat.lt_trichotomy number s.cells.length with hlt | rfl | hgt
    · rw [getElem?_append_left hlt] at hcell
      exact .inr ⟨later, hcell, .same _⟩
    · cases getElem?_concat_length.symm.trans hcell
      exact .inl ⟨rfl, rfl, rfl⟩
    · have hlt := (List.getElem?_eq_some_iff.mp hcell).1
      rw [length_append, length_singleton] at hlt
      omega
  | revises hrun he hdone => exact .inr (evolves_of_set hrun he hcell)
  | completes status hw =>
    obtain ⟨hrun, hopen⟩ := worker_eq_some.mp hw
    exact .inr (evolves_of_set hrun (.complete status hopen) hcell)
  | forgets _ _ _ _ _ _ ih => exact ih hcell
  | _ => exact .inr ⟨later, hcell, .same _⟩

theorem lookup_runs (hlookup : s.runs.lookup name = some number)
    (hcell : s.cells[number]? = some run) :
    moved.runs.lookup name = some number ∨ run.GivenUp number event := by
  induction h with
  | submits flow cadence hroom hfree =>
    have hne : name ≠ flow.name := by
      rintro rfl
      cases hfree.symm.trans hlookup
    exact .inl ((AList.lookup_insert_ne hne).trans hlookup)
  | @forgets event later other changed before _ _ ho _ hb hgiven ih =>
    rcases ih with hkept | hgone
    · by_cases hsame : name = changed.flow.name
      · rw [hsame, ho] at hkept
        cases hkept
        cases hcell.symm.trans hb
        exact .inr hgiven
      · exact .inl ((AList.lookup_erase_ne hsame).trans hkept)
    · exact .inr hgone
  | _ => exact .inl hlookup

theorem lookup_claims {key owner : String} (hkey : s.claims.lookup key = some owner) :
    moved.claims.lookup key = some owner ∨
      ∃ number run status, event = .complete number status ∧ s.worker number = some run ∧
        run.flow.name = owner := by
  induction h with
  | claims hw hc => exact .inl (Claims.lookup_of_claim claimsClash_self hc hkey)
  | @completes number run status hw =>
    by_cases ho : owner = run.flow.name
    · exact .inr ⟨number, run, status, rfl, hw, ho.symm⟩
    · exact .inl (Claims.lookup_release.mpr ⟨hkey, ho⟩)
  | forgets _ _ _ _ _ _ ih => exact ih
  | _ => exact .inl hkey

end

end FlowRuns.Moves

theorem FlowRuns.Sound.step (h : s.Sound) (event : RunsEvent) : (s.step event).Sound :=
  (h.moves event).sound h

theorem exists_evolves (h : s.Sound) (event : RunsEvent) (hcell : s.cells[number]? = some run) :
    ∃ later, (s.step event).cells[number]? = some later ∧ run.Evolves number event later := by
  have hlt := (List.getElem?_eq_some_iff.mp hcell).1
  have hl := getElem?_eq_getElem (hlt.trans_le (h.moves event).length_cells_le)
  refine ⟨_, hl, ?_⟩
  rcases (h.moves event).of_getElem?_cells hl with ⟨rfl, -⟩ | ⟨before, hb, he⟩
  · exact absurd hlt (lt_irrefl _)
  · cases hcell.symm.trans hb
    exact he

theorem claimFor_eq_of_ok {keys : List String} {claimed : FlowRuns}
    (hworker : s.worker number = some run) (hclaim : s.claim run.flow.name keys = .ok claimed) :
    s.claimFor number keys = claimed := by
  simp only [FlowRuns.claimFor, hworker, hclaim]

theorem lookup_claims_complete (hworker : s.worker number = some run)
    (status : ShutdownFlowStatus) (key : String) :
    (s.complete number status).claims.lookup key ≠ some run.flow.name := by
  rw [FlowRuns.complete, hworker]
  intro hkey
  exact (Claims.lookup_release.mp hkey).2 rfl

theorem owned_complete (h : s.Sound) (hworker : s.worker number = some run)
    (hdiscarded : run.discard = false) (status : ShutdownFlowStatus) :
    (s.complete number status).owned run.flow.name =
      some { run with flow.status := status, done := true } := by
  simp only [FlowRuns.complete, hworker, hdiscarded, FlowRuns.owned, h.working number run hworker,
    Option.bind_some, Bool.false_eq_true, if_false]
  exact getElem?_set_same (worker_eq_some.mp hworker).1 _

theorem submit_of_worker (h : s.Sound) (hworker : s.worker number = some run)
    (flow : ShutdownFlow) (cadence : Duration) (hname : flow.name = run.flow.name) :
    s.submit flow cadence = (s, false) := by
  have ho := h.working number run hworker
  rw [← hname] at ho
  rw [FlowRuns.submit, if_pos (.inr (.inr (by rw [ho]; rfl)))]

end

theorem FlowRuns.Sound.run {s : FlowRuns} (h : s.Sound) (events : List RunsEvent) :
    (s.run events).Sound := by
  induction events generalizing s with
  | nil => exact h
  | cons event rest ih => exact ih (h.step event)

theorem sound_newFlowRuns (limit : Nat) : (newFlowRuns limit).Sound where
  bounded := Nat.zero_le limit
  named := nofun
  working := by
    intro number run hw
    cases (worker_eq_some.mp hw).1
  held := nofun
  exclusive := nofun

theorem sound_run (limit : Nat) (events : List RunsEvent) :
    ((newFlowRuns limit).run events).Sound :=
  (sound_newFlowRuns limit).run events

theorem limit_run (limit : Nat) (events : List RunsEvent) :
    ((newFlowRuns limit).run events).limit = limit := by
  induction events using reverseRecOn with
  | nil => rfl
  | append_singleton past event ih =>
    rw [FlowRuns.run, foldl_append]
    exact ((sound_run limit past).moves event).limit_eq.trans ih

theorem cancel_mem_of_discard {limit : Nat} {events : List RunsEvent} {number : Nat}
    {run : FlowRun} (hcell : ((newFlowRuns limit).run events).cells[number]? = some run)
    (hdiscarded : run.discard = true) : RunsEvent.cancel run.flow.name ∈ events := by
  induction events using reverseRecOn generalizing run with
  | nil => cases hcell
  | append_singleton past event ih =>
    rw [FlowRuns.run, foldl_append] at hcell
    rw [mem_append]
    rcases ((sound_run limit past).moves event).of_getElem?_cells hcell with
      ⟨-, hf, -⟩ | ⟨before, hb, he⟩
    · cases hf.symm.trans hdiscarded
    · cases he with
      | same => exact .inl (ih hb hdiscarded)
      | cancel => exact .inr mem_cons_self
      | _ =>
        have hm := ih hb hdiscarded
        exact .inl hm

end NutOperator.Controller
