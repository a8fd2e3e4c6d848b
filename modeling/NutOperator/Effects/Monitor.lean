import NutOperator.Effects.Program
import Mathlib.Data.List.Induction

/-! Monitors: a ghost state that follows the exchanges of a run and says which of
them it allows. Triples relate the ghost state before and after a program, so
that what whole runs may do is proved program by program. -/
namespace NutOperator.Effects

/-- `assumed` restricts the environment, `allowed` is what the program owes. -/
structure Monitor {Request : Type} (Reply : Request → Type) (σ : Type) where
  advance : σ → Exchange Reply → σ
  assumed : σ → Exchange Reply → Prop := fun _ _ => True
  allowed : σ → Exchange Reply → Prop

variable {Request : Type} {Reply : Request → Type} {σ α β : Type}

namespace Monitor

variable (monitor : Monitor Reply σ)

def after (state : σ) (trace : List (Exchange Reply)) : σ := trace.foldl monitor.advance state

/-- The property holds of every exchange at the state it is made in. -/
def Along (property : σ → Exchange Reply → Prop) : σ → List (Exchange Reply) → Prop
  | _, [] => True
  | state, exchange :: rest =>
    property state exchange ∧ Along property (monitor.advance state exchange) rest

def Assumes : σ → List (Exchange Reply) → Prop := monitor.Along monitor.assumed

def Accepts : σ → List (Exchange Reply) → Prop := monitor.Along monitor.allowed

@[simp] theorem after_nil (state : σ) : monitor.after state [] = state := rfl

@[simp] theorem after_cons (state : σ) (exchange : Exchange Reply) (rest : List (Exchange Reply)) :
    monitor.after state (exchange :: rest) = monitor.after (monitor.advance state exchange) rest :=
      rfl

@[simp] theorem after_append (state : σ) (before later : List (Exchange Reply)) :
    monitor.after state (before ++ later) = monitor.after (monitor.after state before) later :=
  List.foldl_append

variable {monitor} {property : σ → Exchange Reply → Prop}

theorem along_append {state : σ} {before later : List (Exchange Reply)} :
    monitor.Along property state (before ++ later) ↔ monitor.Along property state before ∧
        monitor.Along property (monitor.after state before) later := by
  induction before generalizing state with
  | nil => simp [Along]
  | cons exchange rest ih => simp [Along, ih, and_assoc]

instance Along.decidable [∀ state exchange, Decidable (property state exchange)] :
    ∀ state trace, Decidable (monitor.Along property state trace)
  | _, [] => inferInstanceAs (Decidable True)
  | state, exchange :: rest =>
    have := Along.decidable (monitor.advance state exchange) rest
    inferInstanceAs (Decidable (_ ∧ _))

theorem Along.split {state : σ} {before later : List (Exchange Reply)} {exchange : Exchange Reply}
    (h : monitor.Along property state (before ++ exchange :: later)) :
    property (monitor.after state before) exchange :=
  (along_append.mp h).2.1

theorem along_of_mem {trace : List (Exchange Reply)}
    (h : ∀ exchange ∈ trace, ∀ state, property state exchange) (state : σ) :
    monitor.Along property state trace := by
  induction trace generalizing state with
  | nil => trivial
  | cons exchange rest ih =>
    exact ⟨h exchange List.mem_cons_self state,
      ih (fun other hmem => h other (List.mem_cons_of_mem _ hmem)) _⟩

theorem along_of_forall (h : ∀ state exchange, property state exchange) (state : σ)
    (trace : List (Exchange Reply)) : monitor.Along property state trace :=
  along_of_mem (fun exchange _ state => h state exchange) state

theorem Along.induction {motive : List (Exchange Reply) → Prop} {state : σ}
    {trace : List (Exchange Reply)} (h : monitor.Along property state trace) (nil : motive [])
    (snoc : ∀ history exchange, motive history →
      property (monitor.after state history) exchange → motive (history ++ [exchange])) :
    motive trace := by
  induction trace using List.reverseRecOn with
  | nil => exact nil
  | append_singleton history exchange ih =>
    exact snoc history exchange (ih (along_append.mp h).1) h.split

end Monitor

/-- Whatever the replies, the program asks only what is allowed. -/
def Monitor.Obeys (monitor : Monitor Reply σ) : σ → Program Request Reply α → Prop
  | _, .done _ => True
  | state, .ask request next =>
    ∀ reply, monitor.assumed state ⟨request, reply⟩ → monitor.allowed state ⟨request, reply⟩ ∧
        monitor.Obeys (monitor.advance state ⟨request, reply⟩) (next reply)

theorem Monitor.obeys_request_bind {monitor : Monitor Reply σ} {state : σ} {request : Request}
    {next : Reply request → Program Request Reply α}
    (h : ∀ reply, monitor.assumed state ⟨request, reply⟩ → monitor.allowed state ⟨request, reply⟩ ∧
        monitor.Obeys (monitor.advance state ⟨request, reply⟩) (next reply)) :
    monitor.Obeys state (Program.request request >>= next) := h

/-- From a state with `pre`, in an environment that keeps to what is assumed,
the program only does what is allowed and ends with `post`. -/
def Triple (monitor : Monitor Reply σ) (pre : σ → Prop) (program : Program Request Reply α)
    (post : α → σ → Prop) : Prop :=
  ∀ state trace value, pre state → Runs program trace value → monitor.Assumes state trace →
    monitor.Accepts state trace ∧ post value (monitor.after state trace)

/-- Whatever the reply, the request is allowed and the ghost state keeps `pre`. -/
def Monitor.Keeps (monitor : Monitor Reply σ) (pre : σ → Prop) (request : Request) : Prop :=
  ∀ state (reply : Reply request), pre state → monitor.assumed state ⟨request, reply⟩ →
    monitor.allowed state ⟨request, reply⟩ ∧ pre (monitor.advance state ⟨request, reply⟩)

section

variable {monitor : Monitor Reply σ} {pre : σ → Prop}

variable {post : α → σ → Prop} {program : Program Request Reply α}

theorem triple_pure {value : α} (h : ∀ state, pre state → post value state) :
    Triple monitor pre (pure value : Program Request Reply α) post := by
  intro state trace result hpre hrun _
  obtain ⟨rfl, rfl⟩ := runs_pure_iff.mp hrun
  exact ⟨trivial, h state hpre⟩

theorem triple_return {value : α} {known : σ} (h : post value known) :
    Triple monitor (· = known) (pure value : Program Request Reply α) post := by
  apply triple_pure
  rintro state rfl
  exact h

theorem triple_skip {value : α} :
    Triple monitor pre (pure value : Program Request Reply α) fun _ => pre :=
  triple_pure fun _ h => h

theorem triple_request {request : Request} {post : Reply request → σ → Prop}
    (h : ∀ state reply, pre state → monitor.assumed state ⟨request, reply⟩ →
      monitor.allowed state ⟨request, reply⟩ ∧
        post reply (monitor.advance state ⟨request, reply⟩)) :
    Triple monitor pre (Program.request request) post := by
  intro state trace reply hpre hrun ha
  obtain rfl := runs_request_iff.mp hrun
  have hr := h state reply hpre ha.1
  exact ⟨⟨hr.1, trivial⟩, hr.2⟩

theorem Triple.bind {cont : α → Program Request Reply β} {mid : α → σ → Prop}
    {post : β → σ → Prop} (hfirst : Triple monitor pre program mid)
    (hrest : ∀ value, Triple monitor (mid value) (cont value) post) :
    Triple monitor pre (program >>= cont) post := by
  intro state trace result hpre hrun ha
  obtain ⟨before, later, value, rfl, hb, hl⟩ := runs_bind_iff.mp hrun
  have hs := Monitor.along_append.mp ha
  have hmid := hfirst state before value hpre hb hs.1
  have hend := hrest value _ later result hmid.2 hl hs.2
  rw [Monitor.after_append]
  exact ⟨Monitor.along_append.mpr ⟨hmid.1, hend.1⟩, hend.2⟩

theorem Triple.imp {weaker : α → σ → Prop} (h : Triple monitor pre program post)
    (himplies : ∀ value state, post value state → weaker value state) : Triple monitor pre program
    weaker := by
  intro state trace value hpre hrun ha
  have hend := h state trace value hpre hrun ha
  exact ⟨hend.1, himplies value _ hend.2⟩

theorem Triple.of_pre {stronger : σ → Prop} (h : Triple monitor pre program post)
    (himplies : ∀ state, stronger state → pre state) : Triple monitor stronger program post :=
  fun state trace value hpre => h state trace value (himplies state hpre)

/-- A fact that does not depend on the ghost state can be taken out of the
precondition. -/
theorem triple_of_fact {fact : Prop} (h : fact → Triple monitor pre program post) :
    Triple monitor (fun state => fact ∧ pre state) program post :=
  fun state trace value hpre => h hpre.1 state trace value hpre.2

theorem triple_of_forall (h : ∀ state, pre state → Triple monitor (· = state) program post) :
    Triple monitor pre program post :=
  fun state trace value hpre => h state hpre state trace value rfl

/-- The frame rule: a program that asks only what keeps `pre` keeps it. -/
theorem Within.triple {asks : Request → Prop} {post : α → Prop} (h : Within asks program post)
    (hkeeps : ∀ request, asks request → monitor.Keeps pre request) :
    Triple monitor pre program fun value state => post value ∧ pre state := by
  intro state trace value hpre hrun ha
  have hw := h trace value hrun
  refine (?_ : _ ∧ pre _).imp_right fun hend => ⟨hw.2, hend⟩
  have hasks := hw.1
  clear hw hrun
  induction trace generalizing state with
  | nil => exact ⟨trivial, hpre⟩
  | cons exchange rest ih =>
    have hstep := hkeeps _ (hasks exchange List.mem_cons_self) state exchange.2 hpre ha.1
    have hrest := ih _ hstep.2 ha.2 fun other hmem => hasks other (List.mem_cons_of_mem _ hmem)
    exact ⟨⟨hstep.1, hrest.1⟩, hrest.2⟩

theorem Within.triple_bind {asks : Request → Prop} {mid : α → Prop}
    {cont : α → Program Request Reply β} {post : β → σ → Prop} (h : Within asks program mid)
    (hkeeps : ∀ request, asks request → monitor.Keeps pre request)
    (hrest : ∀ value, mid value → Triple monitor pre (cont value) post) :
    Triple monitor pre (program >>= cont) post :=
  (h.triple hkeeps).bind fun value => triple_of_fact (hrest value)

end

end NutOperator.Effects
