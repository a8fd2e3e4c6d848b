import Mathlib.Data.List.AList

/-! Claims on keys. An owner gets all the keys it asks for or none, and is refused
when one of them clashes with a key that somebody else holds. -/
namespace NutOperator.Data

abbrev Claims (κ ο : Type) := AList fun _ : κ => ο

variable {κ ο : Type} [DecidableEq κ] [DecidableEq ο]

namespace Claims

def conflict (clash : κ → κ → Bool) (claims : Claims κ ο) (owner : ο) (keys : List κ) : Option ο :=
  keys.findSome? fun key =>
    (claims.entries.find? fun held => held.2 ≠ owner ∧ clash key held.1).map (·.2)

def insertAll (claims : Claims κ ο) (owner : ο) (keys : List κ) : Claims κ ο :=
  keys.foldl (fun claims key => claims.insert key owner) claims

def claim (clash : κ → κ → Bool) (claims : Claims κ ο) (owner : ο) (keys : List κ) :
    Except ο (Claims κ ο) :=
  match claims.conflict clash owner keys with
  | some other => .error other
  | none => .ok (claims.insertAll owner keys)

def release (claims : Claims κ ο) (owner : ο) : Claims κ ο :=
  ⟨claims.entries.filter fun held => held.2 ≠ owner, claims.nodupKeys.sublist List.filter_sublist⟩

def Exclusive (clash : κ → κ → Bool) (claims : Claims κ ο) : Prop :=
  ∀ key held owner other, claims.lookup key = some owner → claims.lookup held = some other →
    clash key held = true → owner = other

@[simp] theorem lookup_release {claims : Claims κ ο} {owner other : ο} {key : κ} :
    (claims.release owner).lookup key = some other ↔
      claims.lookup key = some other ∧ other ≠ owner := by
  rw [← Option.mem_def, ← Option.mem_def, AList.mem_lookup_iff, AList.mem_lookup_iff, release,
    List.mem_filter, decide_eq_true_iff]

omit [DecidableEq ο] in
theorem lookup_insertAll (claims : Claims κ ο) (owner : ο) (keys : List κ) (key : κ) :
    (claims.insertAll owner keys).lookup key =
      if key ∈ keys then some owner else claims.lookup key := by
  rw [insertAll]
  induction keys generalizing claims with
  | nil => simp
  | cons first rest ih =>
    rw [List.foldl_cons, ih]
    by_cases hrest : key ∈ rest
    · simp [hrest]
    · by_cases hf : key = first
      · subst hf
        simp
      · simp [hrest, hf, AList.lookup_insert_ne hf]

variable {clash : κ → κ → Bool} {claims later : Claims κ ο} {owner other : ο} {keys : List κ}

theorem conflict_eq_none : claims.conflict clash owner keys = none ↔
      ∀ key ∈ keys, ∀ held other, claims.lookup held = some other → clash key held = true →
        other = owner := by
  simp only [conflict, List.findSome?_eq_none_iff, Option.map_eq_none_iff, List.find?_eq_none,
    decide_eq_true_iff, not_and, Sigma.forall, ← AList.mem_lookup_iff, Option.mem_def]
  constructor
  · intro h key hkey held other hheld hclash
    by_contra ho
    exact h key hkey held other hheld ho hclash
  · intro h key hkey held other hheld ho hclash
    exact ho (h key hkey held other hheld hclash)

theorem claim_eq_ok : claims.claim clash owner keys = .ok later ↔
      claims.conflict clash owner keys = none ∧ later = claims.insertAll owner keys := by
  rw [claim]
  cases claims.conflict clash owner keys with
  | none => simp [eq_comm]
  | some other => simp

theorem Exclusive.release (h : Exclusive clash claims) (owner : ο) :
    Exclusive clash (claims.release owner) := by
  intro key held first second hkey hheld
  exact h key held first second (lookup_release.mp hkey).1 (lookup_release.mp hheld).1

theorem lookup_of_claim (hrefl : ∀ key, clash key key = true)
    (hclaim : claims.claim clash owner keys = .ok later) {key : κ}
    (h : claims.lookup key = some other) : later.lookup key = some other := by
  obtain ⟨hc, rfl⟩ := claim_eq_ok.mp hclaim
  rw [lookup_insertAll]
  split
  · rename_i hkey
    rw [conflict_eq_none.mp hc key hkey key other h (hrefl key)]
  · exact h

theorem lookup_of_claimed (hclaim : claims.claim clash owner keys = .ok later) {key : κ}
    (h : key ∈ keys) : later.lookup key = some owner := by
  obtain ⟨-, rfl⟩ := claim_eq_ok.mp hclaim
  rw [lookup_insertAll, if_pos h]

theorem of_lookup_claim (hclaim : claims.claim clash owner keys = .ok later) {key : κ}
    (h : later.lookup key = some other) :
    (key ∈ keys ∧ other = owner) ∨ claims.lookup key = some other := by
  obtain ⟨-, rfl⟩ := claim_eq_ok.mp hclaim
  rw [lookup_insertAll] at h
  split at h
  · rename_i hkey
    exact .inl ⟨hkey, (Option.some.inj h).symm⟩
  · exact .inr h

theorem Exclusive.claim (h : Exclusive clash claims)
    (hsymm : ∀ key held, clash key held = clash held key)
    (hclaim : claims.claim clash owner keys = .ok later) : Exclusive clash later := by
  have hfree := conflict_eq_none.mp (claim_eq_ok.mp hclaim).1
  intro key held first second hkey hheld hclash
  rcases of_lookup_claim hclaim hkey with ⟨hnew, rfl⟩ | hold
  · rcases of_lookup_claim hclaim hheld with ⟨-, rfl⟩ | ho
    · rfl
    · exact (hfree key hnew held second ho hclash).symm
  · rcases of_lookup_claim hclaim hheld with ⟨hnew, rfl⟩ | ho
    · exact hfree held hnew key first hold (hsymm key held ▸ hclash)
    · exact h key held first second hold ho hclash

end Claims

end NutOperator.Data
