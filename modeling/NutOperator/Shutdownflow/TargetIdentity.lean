import NutOperator.Data.Json
import NutOperator.Data.Sorting
import NutOperator.Planner.Types

/-! The identity of a shutdown target: a digest of what it selects, with its set-like
lists sorted. -/
namespace NutOperator.Shutdownflow

open Data List

structure SelectorRequirement where
  (key operator : String)
  values : List String := []
deriving Repr, DecidableEq

/-- The map of labels may be absent, which its encoding tells from an empty one. -/
structure LabelSelector where
  matchLabels : Option (Finmap fun _ : String => String) := none
  matchExpressions : List SelectorRequirement := []

structure WorkloadReference where
  (apiVersion kind : String)
  «namespace» : String
  name : String
deriving Repr, DecidableEq

structure ShutdownStepTarget where
  nodeSelector : Option LabelSelector := none
  nodeSelectorRequirements : List SelectorRequirement := []
  namespaceSelector : Option LabelSelector := none
  namespaces : List String := []
  workloadSelector : Option LabelSelector := none
  workloadRefs : List WorkloadReference := []
  agentRefs : List String := []

/-- The encoder and the digest, both outside the repository. -/
structure Hashing where
  marshal : Json → Except String (List UInt8)
  sum256 : List UInt8 → String

section

variable (hashing : Hashing)

def stableHash (value : Json) : Except String String :=
  match hashing.marshal value with
  | .error message =>
    .error s!"shutdownflow adapter value could not be encoded for hashing: {message}"
  | .ok encoded => .ok (hashing.sum256 encoded)

def hashItems : Nat → List Json → Except String (List String)
  | _, [] => .ok []
  | position, value :: rest =>
    match stableHash hashing value with
    | .error message => .error s!"hash identity set item {position}: {message}"
    | .ok hash => (hashItems (position + 1) rest).map (hash :: ·)

/-- The empty list stands for the nil slice. -/
def identitySet (encode : α → Json) (values : List α) : Except String (List String) :=
  (hashItems hashing 0 (values.map encode)).map sortStrings

end

def encodeStrings : List String → Json
  | [] => .null
  | values => .array (values.map .string)

def encodeRequirement (requirement : SelectorRequirement) : Json :=
  .object ([("key", .string requirement.key), ("operator", .string requirement.operator)] ++
    if requirement.values.isEmpty then []
    else [("values", .array (requirement.values.map .string))])

def encodeWorkload (reference : WorkloadReference) : Json :=
  .object [("apiVersion", .string reference.apiVersion), ("kind", .string reference.kind),
    ("namespace", .string reference.namespace), ("name", .string reference.name)]

def encodeAgent (name : String) : Json := .object [("name", .string name)]

def sortValues (requirement : SelectorRequirement) : SelectorRequirement :=
  { requirement with values := sortStrings requirement.values }

def sortSelector (selector : LabelSelector) : LabelSelector :=
  { selector with matchExpressions := selector.matchExpressions.map sortValues }

section

variable (hashing : Hashing)

def selectorIdentity : Option LabelSelector → Except String Json
  | none => .ok .null
  | some selector =>
    (identitySet hashing encodeRequirement selector.matchExpressions).map fun expressions =>
      .object [("Labels", (selector.matchLabels.map Json.ofMap).getD .null),
        ("Expressions", encodeStrings expressions)]

def targetIdentityHash (target : ShutdownStepTarget) : Except String String := do
  let canonical := { target with
    nodeSelector := target.nodeSelector.map sortSelector
    namespaceSelector := target.namespaceSelector.map sortSelector
    workloadSelector := target.workloadSelector.map sortSelector
    nodeSelectorRequirements := target.nodeSelectorRequirements.map sortValues }
  let node ← selectorIdentity hashing canonical.nodeSelector
  let «namespace» ← selectorIdentity hashing canonical.namespaceSelector
  let workload ← selectorIdentity hashing canonical.workloadSelector
  let requirements ← identitySet hashing encodeRequirement canonical.nodeSelectorRequirements
  let namespaces ← identitySet hashing .string canonical.namespaces
  let workloads ← identitySet hashing encodeWorkload canonical.workloadRefs
  let agents ← identitySet hashing encodeAgent canonical.agentRefs
  stableHash hashing (.object [("Node", node), ("Namespace", «namespace»),
    ("Workload", workload), ("Requirements", encodeStrings requirements),
    ("Namespaces", encodeStrings namespaces), ("Workloads", encodeStrings workloads),
    ("Agents", encodeStrings agents)])

end

structure SelectorRequirement.Rearranged (left right : SelectorRequirement) : Prop where
  key : left.key = right.key
  operator : left.operator = right.operator
  values : left.values.Perm right.values

structure LabelSelector.Rearranged (left right : LabelSelector) : Prop where
  matchLabels : left.matchLabels = right.matchLabels
  matchExpressions : Shuffled SelectorRequirement.Rearranged left.matchExpressions
    right.matchExpressions

/-- The same target with its set-like lists, and the values inside its requirements, in
another order. -/
structure ShutdownStepTarget.Rearranged (left right : ShutdownStepTarget) : Prop where
  nodeSelector : Option.Rel LabelSelector.Rearranged left.nodeSelector right.nodeSelector
  nodeSelectorRequirements : Shuffled SelectorRequirement.Rearranged
    left.nodeSelectorRequirements right.nodeSelectorRequirements
  namespaceSelector : Option.Rel LabelSelector.Rearranged left.namespaceSelector
    right.namespaceSelector
  namespaces : left.namespaces.Perm right.namespaces
  workloadSelector : Option.Rel LabelSelector.Rearranged left.workloadSelector
    right.workloadSelector
  workloadRefs : left.workloadRefs.Perm right.workloadRefs
  agentRefs : left.agentRefs.Perm right.agentRefs

structure Hashing.Injective (hashing : Hashing) : Prop where
  encodes : ∀ value, ∃ encoded, hashing.marshal value = .ok encoded
  marshal : Function.Injective hashing.marshal
  sum256 : Function.Injective hashing.sum256

theorem Hashing.Injective.exists_digest {hashing : Hashing} (h : hashing.Injective) :
    ∃ digest : Json → String, Function.Injective digest ∧
      ∀ value, stableHash hashing value = .ok (digest value) := by
  choose encoded he using h.encodes
  refine ⟨fun value => hashing.sum256 (encoded value), ?_, ?_⟩
  · intro left right hsame
    apply h.marshal
    rw [he left, he right, h.sum256 hsame]
  · intro value
    simp only [stableHash, he value]

theorem encodeStrings_injective : Function.Injective encodeStrings := by
  intro left right h
  cases left <;> cases right <;> simp_all [encodeStrings]
  exact Json.map_string_injective h.2

theorem encodeRequirement_injective : Function.Injective encodeRequirement := by
  intro left right h
  obtain ⟨key, operator, values⟩ := left
  obtain ⟨otherKey, otherOperator, others⟩ := right
  cases values <;> cases others <;> simp_all [encodeRequirement]
  exact Json.map_string_injective h.2.2.2

theorem encodeWorkload_injective : Function.Injective encodeWorkload := by
  intro left right h
  obtain ⟨apiVersion, kind, space, name⟩ := left
  obtain ⟨otherVersion, otherKind, otherSpace, otherName⟩ := right
  simpa [encodeWorkload] using h

theorem encodeAgent_injective : Function.Injective encodeAgent := by
  intro left right h
  simpa [encodeAgent] using h

theorem encodeRequirement_sortValues_iff {left right : SelectorRequirement} :
    encodeRequirement (sortValues left) = encodeRequirement (sortValues right) ↔
      left.Rearranged right := by
  rw [encodeRequirement_injective.eq_iff, sortValues, sortValues,
    SelectorRequirement.mk.injEq, sortStrings_eq_iff_perm]
  constructor
  · intro h
    exact ⟨h.1, h.2.1, h.2.2⟩
  · intro h
    exact ⟨h.key, h.operator, h.values⟩

section

variable {hashing : Hashing} {digest : Json → String} (hinj : Function.Injective digest)
  (hdigest : ∀ value, stableHash hashing value = .ok (digest value))

include hdigest in
theorem hashItems_eq (pos : Nat) (vals : List Json) :
    hashItems hashing pos vals = .ok (vals.map digest) := by
  induction vals generalizing pos with
  | nil => rfl
  | cons value rest ih =>
    simp only [hashItems, hdigest value, ih, Except.map, map_cons]

def digests (digest : Json → String) (encode : α → Json) (values : List α) : List String :=
  sortStrings ((values.map encode).map digest)

include hdigest in
theorem identitySet_eq (encode : α → Json) (vals : List α) :
    identitySet hashing encode vals = .ok (digests digest encode vals) := by
  rw [identitySet, hashItems_eq hdigest]
  rfl

include hinj in
theorem digests_eq_iff {encode : α → Json} {vals others : List α} :
    digests digest encode vals = digests digest encode others ↔
      (vals.map encode).Perm (others.map encode) := by
  rw [digests, digests, sortStrings_eq_iff_perm, map_perm_map_iff hinj]

include hinj in
theorem digests_eq_iff_perm {encode : α → Json} (hencoded : Function.Injective encode)
    {vals others : List α} :
    digests digest encode vals = digests digest encode others ↔ vals.Perm others := by
  rw [digests_eq_iff hinj, map_perm_map_iff hencoded]

include hinj in
theorem digests_sortValues_iff {vals others : List SelectorRequirement} :
    digests digest encodeRequirement (vals.map sortValues) =
        digests digest encodeRequirement (others.map sortValues) ↔
      Shuffled SelectorRequirement.Rearranged vals others := by
  rw [digests_eq_iff hinj, map_map, map_map, ← shuffled_iff_perm_map]
  simp only [Function.comp_apply, encodeRequirement_sortValues_iff]

def selectorJson (digest : Json → String) : Option LabelSelector → Json
  | none => .null
  | some selector =>
    .object [("Labels", (selector.matchLabels.map Json.ofMap).getD .null), ("Expressions",
        encodeStrings (digests digest encodeRequirement selector.matchExpressions))]

include hdigest in
theorem selectorIdentity_eq (selector : Option LabelSelector) :
    selectorIdentity hashing selector = .ok (selectorJson digest selector) := by
  cases selector with
  | none => rfl
  | some selector =>
    rw [selectorIdentity, identitySet_eq hdigest]
    rfl

theorem encodeLabels_injective :
    Function.Injective fun labels : Option (Finmap fun _ : String => String) =>
      (labels.map Json.ofMap).getD .null := by
  intro left right h
  cases left with
  | none =>
    cases right with
    | none => rfl
    | some labels => cases h
  | some labels =>
    cases right with
    | none => cases h
    | some others => exact congrArg some (Json.ofMap_injective h)

include hinj in
theorem selectorJson_eq_iff {left right : Option LabelSelector} :
    selectorJson digest (left.map sortSelector) = selectorJson digest (right.map sortSelector) ↔
      Option.Rel LabelSelector.Rearranged left right := by
  cases left with
  | none => cases right <;> simp [selectorJson]
  | some selector =>
    cases right with
    | none => simp [selectorJson]
    | some other =>
      simp only [Option.map_some, selectorJson, sortSelector, Json.object.injEq,
        List.cons.injEq, Prod.mk.injEq, true_and, and_true, encodeStrings_injective.eq_iff,
        encodeLabels_injective.eq_iff, digests_sortValues_iff hinj, Option.rel_some_some]
      constructor
      · intro h
        exact ⟨h.1, h.2⟩
      · intro h
        exact ⟨h.matchLabels, h.matchExpressions⟩

def targetJson (digest : Json → String) (target : ShutdownStepTarget) : Json :=
  .object [("Node", selectorJson digest (target.nodeSelector.map sortSelector)),
    ("Namespace", selectorJson digest (target.namespaceSelector.map sortSelector)),
    ("Workload", selectorJson digest (target.workloadSelector.map sortSelector)),
    ("Requirements", encodeStrings (digests digest encodeRequirement
      (target.nodeSelectorRequirements.map sortValues))),
    ("Namespaces", encodeStrings (digests digest .string target.namespaces)),
    ("Workloads", encodeStrings (digests digest encodeWorkload target.workloadRefs)),
    ("Agents", encodeStrings (digests digest encodeAgent target.agentRefs))]

include hdigest in
theorem targetIdentityHash_eq (tgt : ShutdownStepTarget) :
    targetIdentityHash hashing tgt = .ok (digest (targetJson digest tgt)) := by
  simp only [targetIdentityHash, selectorIdentity_eq hdigest, identitySet_eq hdigest, hdigest]
  rfl

include hinj in
theorem targetJson_eq_iff {left right : ShutdownStepTarget} :
    targetJson digest left = targetJson digest right ↔ left.Rearranged right := by
  simp only [targetJson, Json.object.injEq, List.cons.injEq, Prod.mk.injEq, true_and, and_true,
    selectorJson_eq_iff hinj, encodeStrings_injective.eq_iff, digests_sortValues_iff hinj,
    digests_eq_iff_perm hinj (fun _ _ => Json.string.inj),
    digests_eq_iff_perm hinj encodeWorkload_injective,
    digests_eq_iff_perm hinj encodeAgent_injective]
  constructor
  · intro h
    obtain ⟨hnode, hname, hwork, hr, hnamespaces, hworkloads, ha⟩ := h
    exact ⟨hnode, hr, hname, hnamespaces, hwork, hworkloads, ha⟩
  · intro h
    exact ⟨h.nodeSelector, h.namespaceSelector, h.workloadSelector,
      h.nodeSelectorRequirements, h.namespaces, h.workloadRefs, h.agentRefs⟩

end

/-- Two targets have one digest exactly when they differ only in the order of their
set-like lists. -/
theorem target_identity_iff_rearranged {hashing : Hashing} (h : hashing.Injective)
    (left right : ShutdownStepTarget) :
    targetIdentityHash hashing left = targetIdentityHash hashing right ↔
      left.Rearranged right := by
  obtain ⟨digest, hinj, hdigest⟩ := h.exists_digest
  rw [targetIdentityHash_eq hdigest, targetIdentityHash_eq hdigest, Except.ok.injEq,
    hinj.eq_iff, targetJson_eq_iff hinj]

def unaryHashing : Hashing where
  marshal := fun value => .ok (replicate value.code 0)
  sum256 := fun encoded => String.ofList (encoded.map fun byte => Char.ofNat byte.toNat)

theorem unaryHashing_injective : unaryHashing.Injective where
  encodes := fun value => ⟨replicate value.code 0, rfl⟩
  marshal := by
    intro left right h
    have hlen := congrArg length (Except.ok.inj h)
    simp only [length_replicate] at hlen
    exact Json.code_inj hlen
  sum256 := by
    intro left right h
    refine map_injective_iff.mpr ?_ (String.ofList_injective h)
    intro byte other hc
    have hv : ∀ byte : UInt8, (Char.ofNat byte.toNat).toNat = byte.toNat := by
      intro byte
      have hb := byte.toNat_lt
      have hc : byte.toNat.isValidChar := Or.inl (by omega)
      rw [Char.ofNat, dif_pos hc]
      rfl
    apply UInt8.toNat_inj.mp
    rw [← hv byte, ← hv other]
    exact congrArg Char.toNat hc

def rackTarget : ShutdownStepTarget where
  nodeSelector := some
    { matchLabels := some (Finmap.singleton "app" "web")
      matchExpressions := [⟨"zone", "In", ["b", "a"]⟩, ⟨"ready", "Exists", []⟩] }
  namespaces := ["b", "a"]
  workloadRefs := [⟨"apps/v1", "Deployment", "a", "web"⟩, ⟨"apps/v1", "StatefulSet", "b", "db"⟩]

def rackTargetReversed : ShutdownStepTarget where
  nodeSelector := some
    { matchLabels := some (Finmap.singleton "app" "web")
      matchExpressions := [⟨"ready", "Exists", []⟩, ⟨"zone", "In", ["a", "b"]⟩] }
  namespaces := ["a", "b"]
  workloadRefs := [⟨"apps/v1", "StatefulSet", "b", "db"⟩, ⟨"apps/v1", "Deployment", "a", "web"⟩]

theorem rackTarget_rearranged : rackTarget.Rearranged rackTargetReversed where
  nodeSelector := .some
    { matchLabels := rfl
      matchExpressions := ⟨_, .swap _ _ _,
        .cons ⟨rfl, rfl, .refl _⟩ (.cons ⟨rfl, rfl, .swap _ _ _⟩ .nil)⟩ }
  nodeSelectorRequirements := ⟨_, .refl _, .nil⟩
  namespaceSelector := .none
  namespaces := .swap _ _ _
  workloadSelector := .none
  workloadRefs := .swap _ _ _
  agentRefs := .refl _

theorem rackTarget_identity :
    unaryHashing.Injective ∧ rackTarget.Rearranged rackTargetReversed ∧
      targetIdentityHash unaryHashing rackTarget =
        targetIdentityHash unaryHashing rackTargetReversed :=
  ⟨unaryHashing_injective, rackTarget_rearranged,
    (target_identity_iff_rearranged unaryHashing_injective _ _).mpr rackTarget_rearranged⟩

/-- A name given twice counts twice. -/
theorem repeated_namespace_changes_identity :
    unaryHashing.Injective ∧
      (∀ name, name ∈ ["media", "media"] ↔ name ∈ ["media"]) ∧
      targetIdentityHash unaryHashing { namespaces := ["media", "media"] } ≠
        targetIdentityHash unaryHashing { namespaces := ["media"] } := by
  refine ⟨unaryHashing_injective, fun name => by simp, ?_⟩
  obtain ⟨digest, hinj, hdigest⟩ := unaryHashing_injective.exists_digest
  rw [targetIdentityHash_eq hdigest, targetIdentityHash_eq hdigest]
  intro h
  have hr := (targetJson_eq_iff hinj).mp (hinj (Except.ok.inj h))
  exact absurd hr.namespaces.length_eq (by decide)

end NutOperator.Shutdownflow
