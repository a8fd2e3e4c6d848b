import NutOperator.Effects.Concurrent
import NutOperator.Effects.Monitor
import Mathlib.Algebra.BigOperators.Group.List.Basic
import Mathlib.Algebra.Group.Prod
import Mathlib.Data.List.Nodup

/-! Ledgers: every exchange has a weight in a commutative monoid, and the ghost
state is the sum so far. The sum over a history of several parties is the sum over
the parties. Where every reply comes with the time it took, the program sees only
the reply. -/
namespace NutOperator.Effects

variable {Request : Type} {Reply : Request → Type} {M : Type} [AddCommMonoid M]

theorem sum_map_single {α : Type} [DecidableEq α] {items : List α} (hdistinct : items.Nodup)
    {item : α} (hmem : item ∈ items) (weight : M) :
    (items.map fun other => if item = other then weight else 0).sum = weight := by
  rw [List.sum_map_eq_nsmul_single item, List.count_eq_one_of_mem hdistinct hmem]
  · rw [if_pos rfl, one_nsmul]
  · intro other ho _
    rw [if_neg (Ne.symm ho)]

/-- The weight of a stretch of a run. -/
def total (weigh : Exchange Reply → M) (trace : List (Exchange Reply)) : M := (trace.map weigh).sum

def ledger (weigh : Exchange Reply → M) : Monitor Reply M where
  advance charged exchange := charged + weigh exchange
  allowed := fun _ _ => True

section

variable {weigh : Exchange Reply → M}

@[simp] theorem total_nil : total weigh [] = 0 := rfl

@[simp] theorem total_cons (exchange : Exchange Reply) (trace : List (Exchange Reply)) :
    total weigh (exchange :: trace) = weigh exchange + total weigh trace := by
  simp [total]

theorem total_prod {N : Type} [AddCommMonoid N] (other : Exchange Reply → N)
    (trace : List (Exchange Reply)) :
    total (fun exchange => (weigh exchange, other exchange)) trace =
      (total weigh trace, total other trace) := by
  induction trace with
  | nil => rfl
  | cons exchange rest ih => simp [ih]

theorem total_filterMap {α : Type} {read : Exchange Reply → Option α} (price : α → M)
    (trace : List (Exchange Reply)) :
    total (fun exchange => (read exchange).elim 0 price) trace =
      ((trace.filterMap read).map price).sum := by
  induction trace with
  | nil => rfl
  | cons exchange rest ih => cases hread : read exchange <;> simp [ih, hread]

theorem after_ledger (charged : M) (trace : List (Exchange Reply)) :
    (ledger weigh).after charged trace = charged + total weigh trace := by
  induction trace generalizing charged with
  | nil => simp
  | cons exchange rest ih =>
    rw [Monitor.after_cons, ih, total_cons, ← add_assoc]
    rfl

theorem keeps_of_free {request : Request} (h : ∀ reply, weigh ⟨request, reply⟩ = 0)
    (pre : M → Prop) : (ledger weigh).Keeps pre request := by
  intro charged reply hpre _
  refine ⟨trivial, ?_⟩
  simpa [ledger, h reply] using hpre

theorem total_view_cons (actor : Option Nat) (event : Event Reply) (history : List (Event Reply)) :
    total weigh (view actor (event :: history)) =
      (if event.actor = actor then weigh event.exchange else 0) +
        total weigh (view actor history) := by
  by_cases ha : event.actor = actor
  · simp [view, ha]
  · simp [view_cons_of_ne ha, ha]

/-- What a history comes to is what its parties come to. -/
theorem total_history {history : List (Event Reply)} {actors : List (Option Nat)}
    (hdistinct : actors.Nodup) (hactors : ∀ event ∈ history, event.actor ∈ actors) :
    total weigh (history.map Event.exchange) =
      (actors.map fun actor => total weigh (view actor history)).sum := by
  induction history with
  | nil => simp
  | cons event rest ih =>
    have hrest := ih fun other hmem => hactors other (List.mem_cons_of_mem _ hmem)
    have hown := sum_map_single hdistinct (hactors event List.mem_cons_self) (weigh event.exchange)
    simp only [total_view_cons, List.sum_map_add, hown, ← hrest, List.map_cons, total_cons]

end

variable {τ α β : Type}

@[reducible] def TimedReply (Reply : Request → Type) (τ : Type) (request : Request) : Type :=
  Reply request × τ

def Program.timed (τ : Type) : Program Request Reply α → Program Request (TimedReply Reply τ) α
  | .done value => .done value
  | .ask request next => .ask request fun reply => (next reply.1).timed τ

def untimed (exchange : Exchange (TimedReply Reply τ)) : Exchange Reply :=
  ⟨exchange.1, exchange.2.1⟩

theorem Program.timed_bind (program : Program Request Reply α)
    (cont : α → Program Request Reply β) :
    (program >>= cont).timed τ = program.timed τ >>= fun value => (cont value).timed τ := by
  induction program with
  | done value => rfl
  | ask request next ih =>
    exact congrArg (Program.ask request) (funext fun reply => ih reply.1)

theorem Runs.untimed {program : Program Request Reply α}
    {trace : List (Exchange (TimedReply Reply τ))} {value : α}
    (h : Runs (program.timed τ) trace value) : Runs program (trace.map untimed) value := by
  induction program generalizing trace with
  | done value =>
    cases h
    exact .done _
  | ask request next ih =>
    cases h with
    | ask reply rest => exact .ask reply.1 (ih reply.1 rest)

theorem Within.timed {asks : Request → Prop} {program : Program Request Reply α}
    {post : α → Prop} (h : Within asks program post) : Within asks (program.timed τ) post := by
  intro trace value hrun
  obtain ⟨hasks, hpost⟩ := h _ _ hrun.untimed
  exact ⟨fun exchange hmem => hasks _ (List.mem_map_of_mem hmem), hpost⟩

section

variable {σ : Type} {mon : Monitor (TimedReply Reply τ) σ} {pre : σ → Prop}

theorem triple_timed_pure {value : α} {post : α → σ → Prop}
    (h : ∀ state, pre state → post value state) :
    Triple mon pre ((pure value : Program Request Reply α).timed τ) post :=
  triple_pure h

theorem triple_timed_request {request : Request} {post : Reply request → σ → Prop}
    (h : ∀ state reply, pre state → mon.assumed state ⟨request, reply⟩ →
      mon.allowed state ⟨request, reply⟩ ∧
        post reply.1 (mon.advance state ⟨request, reply⟩)) :
    Triple mon pre ((Program.request request : Program Request Reply _).timed τ) post := by
  intro state trace value hpre hrun ha
  cases hrun with
  | ask reply rest =>
    cases rest
    have hr := h state reply hpre ha.1
    exact ⟨⟨hr.1, trivial⟩, hr.2⟩

theorem Triple.timed_bind {program : Program Request Reply α}
    {cont : α → Program Request Reply β} {mid : α → σ → Prop} {post : β → σ → Prop}
    (hfirst : Triple mon pre (program.timed τ) mid)
    (hrest : ∀ value, Triple mon (mid value) ((cont value).timed τ) post) :
    Triple mon pre ((program >>= cont).timed τ) post := by
  rw [Program.timed_bind]
  exact hfirst.bind hrest

end

def elapsed [AddCommMonoid τ] (trace : List (Exchange (TimedReply Reply τ))) : τ :=
  total (fun exchange => exchange.2.2) trace

end NutOperator.Effects
