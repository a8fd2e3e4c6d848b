import Mathlib.Data.List.Basic

/-! Programs that ask an environment. A program is a finite tree: a value, or a
request and what to do with each reply. Its runs pair every request with the
reply it got, so what holds of all runs holds in every environment. -/
namespace NutOperator.Effects

open List

inductive Program (Request : Type) (Reply : Request → Type) (α : Type) where
  | done (value : α)
  | ask (request : Request) (next : Reply request → Program Request Reply α)

variable {Request : Type} {Reply : Request → Type} {α β : Type}

namespace Program

def bind : Program Request Reply α → (α → Program Request Reply β) → Program Request Reply β
  | .done value, continuation => continuation value
  | .ask request next, continuation => .ask request fun reply => (next reply).bind continuation

instance : Monad (Program Request Reply) where
  pure := .done
  bind := bind

def request (request : Request) : Program Request Reply (Reply request) := .ask request .done

end Program

/-- A request with the reply it got. -/
abbrev Exchange (Reply : Request → Type) := (request : Request) × Reply request

/-- `Runs program trace value`: under the replies of `trace`, in order, the
program ends with `value`. -/
inductive Runs : Program Request Reply α → List (Exchange Reply) → α → Prop where
  | done (value : α) : Runs (.done value) [] value
  | ask {request : Request} {next : Reply request → Program Request Reply α}
      {trace : List (Exchange Reply)} {value : α} (reply : Reply request)
      (rest : Runs (next reply) trace value) :
      Runs (.ask request next) (⟨request, reply⟩ :: trace) value

variable {trace : List (Exchange Reply)}

theorem runs_pure_iff {value result : α} :
    Runs (pure value : Program Request Reply α) trace result ↔ trace = [] ∧ value = result := by
  constructor
  · intro h
    cases h
    exact ⟨rfl, rfl⟩
  · rintro ⟨rfl, rfl⟩
    exact .done value

theorem runs_request_iff {request : Request} {reply : Reply request} :
    Runs (Program.request request) trace reply ↔ trace = [⟨request, reply⟩] := by
  constructor
  · intro h
    cases h with
    | ask other rest =>
      cases rest
      rfl
  · rintro rfl
    exact .ask reply (.done reply)

theorem runs_bind_iff {program : Program Request Reply α}
    {cont : α → Program Request Reply β} {result : β} :
    Runs (program >>= cont) trace result ↔
      ∃ before after value, trace = before ++ after ∧ Runs program before value ∧
        Runs (cont value) after result := by
  induction program generalizing trace with
  | done first =>
    constructor
    · intro h
      exact ⟨[], trace, first, rfl, .done first, h⟩
    · rintro ⟨before, after, value, rfl, hbefore, hafter⟩
      cases hbefore
      exact hafter
  | ask request next ih =>
    constructor
    · intro h
      cases h with
      | ask reply rest =>
        obtain ⟨before, after, value, rfl, hbefore, hafter⟩ := (ih reply).mp rest
        exact ⟨⟨request, reply⟩ :: before, after, value, rfl, .ask reply hbefore, hafter⟩
    · rintro ⟨before, after, value, rfl, hbefore, hafter⟩
      cases hbefore with
      | ask reply rest => exact .ask reply ((ih reply).mpr ⟨_, after, value, rfl, rest, hafter⟩)

theorem runs_request_bind_iff {request : Request} {cont : Reply request → Program Request Reply β}
    {result : β} : Runs (Program.request request >>= cont) trace result ↔
      ∃ reply rest, trace = ⟨request, reply⟩ :: rest ∧ Runs (cont reply) rest result := by
  constructor
  · intro h
    obtain ⟨before, after, reply, rfl, hreq, hrest⟩ := runs_bind_iff.mp h
    exact ⟨reply, after, by rw [runs_request_iff.mp hreq, singleton_append], hrest⟩
  · rintro ⟨reply, rest, rfl, hrest⟩
    exact .ask reply hrest

/-- The run against an environment that decides each reply from the exchanges
before it. -/
def perform (environment : List (Exchange Reply) → (request : Request) → Reply request)
    (history : List (Exchange Reply)) : Program Request Reply α → List (Exchange Reply) × α
  | .done value => ([], value)
  | .ask request next =>
    let reply := environment history request
    let rest := perform environment (history ++ [⟨request, reply⟩]) (next reply)
    (⟨request, reply⟩ :: rest.1, rest.2)

/-- Every environment has a run: programs always end. -/
theorem runs_perform (env : List (Exchange Reply) → (request : Request) → Reply request)
    (history : List (Exchange Reply)) (program : Program Request Reply α) :
    Runs program (perform env history program).1 (perform env history program).2 := by
  induction program generalizing history with
  | done value => exact .done value
  | ask request next ih => exact .ask _ (ih _ _)

theorem forall_perform {assumed : Exchange Reply → Prop}
    {env : List (Exchange Reply) → (request : Request) → Reply request}
    (henvironment : ∀ history request, assumed ⟨request, env history request⟩)
    (history : List (Exchange Reply)) (program : Program Request Reply α) :
    ∀ exchange ∈ (perform env history program).1, assumed exchange := by
  induction program generalizing history with
  | done value => simp [perform]
  | ask request next ih => exact forall_mem_cons.mpr ⟨henvironment history request, ih _ _⟩

/-- Whenever the environment keeps to `assumed`, a run of the program meets the
postcondition. -/
def Ensures (assumed : Exchange Reply → Prop) (program : Program Request Reply α)
    (post : List (Exchange Reply) → α → Prop) : Prop :=
  ∀ trace value, (∀ exchange ∈ trace, assumed exchange) → Runs program trace value →
    post trace value

section

variable {assumed : Exchange Reply → Prop}

variable {program : Program Request Reply α} {post : List (Exchange Reply) → α → Prop}

/-- In an environment that always keeps to `assumed` the program ends, and its
run meets the postcondition. -/
theorem Ensures.perform (h : Ensures assumed program post)
    {env : List (Exchange Reply) → (request : Request) → Reply request}
    (henvironment : ∀ history request, assumed ⟨request, env history request⟩)
    (history : List (Exchange Reply)) :
    post (perform env history program).1 (perform env history program).2 :=
  h _ _ (forall_perform henvironment history program) (runs_perform env history program)

theorem Ensures.imp {weaker : List (Exchange Reply) → α → Prop} (h : Ensures assumed program post)
    (himplies : ∀ trace value, post trace value → weaker trace value) :
    Ensures assumed program weaker :=
  fun trace value ha hrun => himplies trace value (h trace value ha hrun)

theorem Ensures.and {also : List (Exchange Reply) → α → Prop} (h : Ensures assumed program post)
    (halso : Ensures assumed program also) :
    Ensures assumed program fun trace val => post trace val ∧ also trace val :=
  fun trace val ha hrun => ⟨h trace val ha hrun, halso trace val ha hrun⟩

theorem ensures_pure {value : α} (h : post [] value) :
    Ensures assumed (pure value : Program Request Reply α) post := by
  intro trace result _ hrun
  obtain ⟨rfl, rfl⟩ := runs_pure_iff.mp hrun
  exact h

theorem ensures_request {request : Request} {post : List (Exchange Reply) → Reply request → Prop}
    (h : ∀ reply, assumed ⟨request, reply⟩ → post [⟨request, reply⟩] reply) :
    Ensures assumed (Program.request request) post := by
  intro trace reply ha hrun
  obtain rfl := runs_request_iff.mp hrun
  exact h reply (ha _ (mem_singleton_self _))

/-- The sequence rule: the rest runs after a trace that meets the first part's
postcondition. -/
theorem Ensures.bind {cont : α → Program Request Reply β}
    {mid : List (Exchange Reply) → α → Prop} {post : List (Exchange Reply) → β → Prop}
    (hfirst : Ensures assumed program mid) (hrest : ∀ before value, mid before value →
      Ensures assumed (cont value) fun after result => post (before ++ after) result) :
    Ensures assumed (program >>= cont) post := by
  intro trace result ha hrun
  obtain ⟨before, after, value, rfl, hb, hafter⟩ := runs_bind_iff.mp hrun
  have hmid := hfirst before value (fun exchange hmem => ha exchange (mem_append_left _ hmem)) hb
  exact hrest before value hmid after result
    (fun exchange hmem => ha exchange (mem_append_right _ hmem)) hafter

end

/-- Every run asks only what is allowed and ends in a value with `post`. -/
def Within (allowed : Request → Prop) (program : Program Request Reply α) (post : α → Prop) :
    Prop :=
  ∀ trace value, Runs program trace value → (∀ exchange ∈ trace, allowed exchange.1) ∧ post value

section

variable {allowed : Request → Prop}

variable {post : α → Prop} {program : Program Request Reply α}

theorem within_pure {value : α} (h : post value) :
    Within allowed (pure value : Program Request Reply α) post := by
  intro trace result hrun
  obtain ⟨rfl, rfl⟩ := runs_pure_iff.mp hrun
  exact ⟨by simp, h⟩

theorem within_request {request : Request} {post : Reply request → Prop} (h : allowed request)
    (hpost : ∀ reply, post reply) : Within allowed (Program.request request) post := by
  intro trace reply hrun
  obtain rfl := runs_request_iff.mp hrun
  exact ⟨by simpa using h, hpost reply⟩

theorem within_asked {request : Request} (h : allowed request) :
    Within allowed (Program.request request : Program Request Reply (Reply request))
      fun _ => True :=
  within_request h fun _ => trivial

theorem Within.bind {cont : α → Program Request Reply β} {mid : α → Prop}
    {post : β → Prop} (hfirst : Within allowed program mid)
    (hrest : ∀ value, mid value → Within allowed (cont value) post) :
    Within allowed (program >>= cont) post := by
  intro trace result hrun
  obtain ⟨before, after, value, rfl, hb, ha⟩ := runs_bind_iff.mp hrun
  obtain ⟨hallowed, hmid⟩ := hfirst before value hb
  obtain ⟨hl, hpost⟩ := hrest value hmid after result ha
  exact ⟨forall_mem_append.mpr ⟨hallowed, hl⟩, hpost⟩

section

variable (h : Within allowed program post)

include h

theorem Within.imp {weaker : α → Prop}
    (himplies : ∀ value, post value → weaker value) : Within allowed program weaker :=
  fun trace value hrun => ⟨(h trace value hrun).1, himplies value (h trace value hrun).2⟩

theorem Within.mono {wider : Request → Prop}
    (hmono : ∀ request, allowed request → wider request) : Within wider program post :=
  fun trace value hrun =>
    ⟨fun exchange hmem => hmono _ ((h trace value hrun).1 exchange hmem), (h trace value hrun).2⟩

theorem Within.ensures {assumed : Exchange Reply → Prop} :
    Ensures assumed program fun trace value =>
      (∀ exchange ∈ trace, allowed exchange.1) ∧ post value :=
  fun trace value _ hrun => h trace value hrun

end

end

/-- The property holds of every event, given those before it. -/
def AtEach {ε : Type} (property : List ε → ε → Prop) (trace : List ε) : Prop :=
  ∀ before event after, trace = before ++ event :: after → property before event

section

variable {ε : Type} {property : List ε → ε → Prop}

theorem atEach_of_mem {trace : List ε} (h : ∀ event ∈ trace, ∀ before, property before event) :
    AtEach property trace := by
  rintro before event after rfl
  exact h event (by simp) before

theorem atEach_nil : AtEach property [] := by
  intro before event after hs
  simp at hs

theorem AtEach.cons {first : ε} {rest : List ε} (hfirst : property [] first)
    (hrest : AtEach (fun before => property (first :: before)) rest) :
    AtEach property (first :: rest) := by
  intro before event after hs
  cases before with
  | nil =>
    cases hs
    exact hfirst
  | cons head tail =>
    cases hs
    exact hrest tail event after rfl

theorem AtEach.append {first second : List ε} (hfirst : AtEach property first)
    (hsecond : AtEach (fun before => property (first ++ before)) second) :
    AtEach property (first ++ second) := by
  intro before event after hs
  rcases append_eq_append_iff.mp hs with ⟨mid, rfl, hrest⟩ | ⟨mid, hrest, ha⟩
  · exact hsecond mid event after hrest
  · cases mid with
    | nil =>
      rw [append_nil] at hrest
      have hstart : property (first ++ []) event := hsecond [] event after ha.symm
      rwa [append_nil, hrest] at hstart
    | cons head tail =>
      cases ha
      exact hfirst before event tail hrest

theorem AtEach.imp {weaker : List ε → ε → Prop} {trace : List ε} (h : AtEach property trace)
    (himplies : ∀ before event, property before event → weaker before event) :
    AtEach weaker trace :=
  fun before event after hs => himplies before event (h before event after hs)

end

end NutOperator.Effects
