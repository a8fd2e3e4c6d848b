import NutOperator.Data.Sorting
import NutOperator.Graph.Search
import NutOperator.Planner.Types

/-! Which nodes an action touches, the carries topology and power supply of one
compilation, and the closures the planner takes over it. -/
namespace NutOperator.Planner

open Data NutOperator.Graph List

/-- Acted-on and released nodes of a named action over all its entries; `none`
when no entry names it. Entries without a group name belong to no action. -/
def groupNodeSets (memberships : List GroupNodeMembership) (group : String) :
    Option (List String) :=
  let entries := memberships.filter fun entry => entry.group ≠ "" && entry.group = group
  if entries = [] then none
  else some (entries.flatMap fun entry => entry.acts ++ entry.releases)

def unresolvedGroupMembership (memberships : List GroupNodeMembership) (group : String) : Bool :=
  memberships.any fun entry => entry.unresolved && entry.group = group

def outsideNodeSet (nodes affected : List String) : Bool := nodes.all fun node => node ∉ affected

def domainEntities (domain : PowerDomainMembership) : List String :=
  domain.members ++ domain.nodes ++ domain.infrastructure ++ domain.upsDevices

def ActsOn (memberships : List GroupNodeMembership) (group node : String) : Prop :=
  ∃ entry ∈ memberships, entry.group = group ∧ node ∈ entry.acts

def Releases (memberships : List GroupNodeMembership) (group node : String) : Prop :=
  ∃ entry ∈ memberships, entry.group = group ∧ node ∈ entry.releases

def Touches (memberships : List GroupNodeMembership) (group node : String) : Prop :=
  ActsOn memberships group node ∨ Releases memberships group node

variable {memberships : List GroupNodeMembership} {group : String}

theorem touches_iff {node : String} : Touches memberships group node ↔
      ∃ entry ∈ memberships, entry.group = group ∧ node ∈ entry.acts ++ entry.releases := by
  simp only [Touches, ActsOn, Releases, mem_append, and_or_left, exists_or]

theorem groupNodeSets_eq_some {nodes : List String}
    (h : groupNodeSets memberships group = some nodes) :
    group ≠ "" ∧ (∃ entry ∈ memberships, entry.group = group) ∧
      ∀ node, node ∈ nodes ↔ Touches memberships group node := by
  unfold groupNodeSets at h
  dsimp only at h
  split at h
  · cases h
  · rename_i he
    cases h
    obtain ⟨entry, hentry⟩ := exists_mem_of_ne_nil _ he
    simp only [mem_filter, Bool.and_eq_true, decide_eq_true_eq] at hentry
    obtain ⟨hmem, hn, hg⟩ := hentry
    have hne : group ≠ "" := hg ▸ hn
    refine ⟨hne, ⟨entry, hmem, hg⟩, fun node => ?_⟩
    simp only [mem_flatMap, mem_filter, Bool.and_eq_true, decide_eq_true_eq, touches_iff]
    constructor
    · rintro ⟨other, ⟨ho, -, hsame⟩, hnode⟩
      exact ⟨other, ho, hsame, hnode⟩
    · rintro ⟨other, ho, hsame, hnode⟩
      exact ⟨other, ⟨ho, hsame ▸ hne, hsame⟩, hnode⟩

theorem groupNodeSets_eq_none : groupNodeSets memberships group = none ↔
      group = "" ∨ ∀ entry ∈ memberships, entry.group ≠ group := by
  simp only [groupNodeSets, ite_eq_left_iff, reduceCtorEq, imp_false, not_not,
    filter_eq_nil_iff, Bool.and_eq_true, decide_eq_true_eq, not_and]
  constructor
  · intro h
    refine or_iff_not_imp_left.mpr fun hne entry he hg => ?_
    exact h entry he (hg ▸ hne) hg
  · rintro (rfl | hall) entry he hn
    · exact hn
    · exact hall entry he

@[simp] theorem outsideNodeSet_eq_true {nodes affected : List String} :
    outsideNodeSet nodes affected = true ↔ ∀ node ∈ nodes, node ∉ affected := by
  simp [outsideNodeSet]

theorem unresolvedGroupMembership_eq_true : unresolvedGroupMembership memberships group = true ↔
      ∃ entry ∈ memberships, entry.unresolved = true ∧ entry.group = group := by
  simp [unresolvedGroupMembership]

def dependencyLess (left right : CommunicationDependency) : Bool :=
  if left.dependent ≠ right.dependent then decide (left.dependent < right.dependent)
  else if left.carrier ≠ right.carrier then decide (left.carrier < right.carrier)
  else decide (left.source < right.source)

def normalizeCommunicationDependencies (dependencies : List CommunicationDependency) :
    List CommunicationDependency :=
  sortStable dependencyLess dependencies.dedup

@[simp] theorem mem_normalizeCommunicationDependencies
    {dependencies : List CommunicationDependency} {dependency : CommunicationDependency} :
    dependency ∈ normalizeCommunicationDependencies dependencies ↔ dependency ∈ dependencies := by
  simp [normalizeCommunicationDependencies]

/-- The maps of the index are lookups over the normalized dependencies and the
power domains it is built from. -/
structure CommunicationIndex where
  dependencies : List CommunicationDependency
  domains : List PowerDomainMembership

def newCommunicationIndex (input : StructuralInputs) : CommunicationIndex :=
  ⟨normalizeCommunicationDependencies input.communicationDependencies, input.powerDomains⟩

def CommunicationIndex.upstream (index : CommunicationIndex) (dependent : String) :
    List CommunicationDependency :=
  index.dependencies.filter fun dependency => dependency.dependent = dependent

def CommunicationIndex.dependents (index : CommunicationIndex) (carrier : String) : List String :=
  (index.dependencies.filter fun dependency => dependency.carrier = carrier).map (·.dependent)

def CommunicationIndex.supplies (index : CommunicationIndex) (entity : String) :
    Option CommunicationSupplyConstraint :=
  let supplying := index.domains.filter fun domain => entity ∈ domainEntities domain
  if supplying = [] then none
  else
    let devices := sortedUnique ((supplying.flatMap (·.upsDevices)).filter (· ≠ ""))
    some
      { carrier := entity, powerDomains := sortedUnique (supplying.map (·.name))
        upsDevices := devices, unknownSupply := devices = [] }

def CommunicationIndex.supplyConstraints (index : CommunicationIndex) (carriers : List String) :
    List CommunicationSupplyConstraint :=
  carriers.map fun carrier =>
    (index.supplies carrier).getD
      { carrier := carrier, powerDomains := [], upsDevices := [], unknownSupply := true }

/-- One shortest path to every carrier upstream of a node. A carrier is
discovered once, which bounds cyclic topology. -/
def communicationPathsFrom (index : CommunicationIndex) (node : String) :
    List (String × List CommunicationDependency) :=
  (search index.upstream (·.carrier) (index.dependencies.length + 1) (.start [node])).paths.filter
    fun path => path.1 ≠ node

def CommunicationIndex.consumers (index : CommunicationIndex) (seeds : List String) : List String :=
  ((search index.dependents id (seeds.length + index.dependencies.length)
    (.start seeds)).seen.flatMap index.dependents).dedup

def CommunicationIndex.upstreamCarriers (index : CommunicationIndex) (consumers : List String) :
    List String :=
  (consumers.flatMap fun consumer => (communicationPathsFrom index consumer).map Prod.fst).dedup

def Carries (dependencies : List CommunicationDependency) (dependent carrier : String) : Prop :=
  ∃ dependency ∈ dependencies, dependency.dependent = dependent ∧ dependency.carrier = carrier

/-- A dependent needs a carrier through one or more carries dependencies. -/
def DependsOn (dependencies : List CommunicationDependency) : String → String → Prop :=
  Relation.TransGen (Carries dependencies)

theorem carries_newCommunicationIndex (input : StructuralInputs) :
    Carries (newCommunicationIndex input).dependencies =
      Carries input.communicationDependencies := by
  funext dependent carrier
  simp [Carries, newCommunicationIndex]

theorem dependsOn_newCommunicationIndex (input : StructuralInputs) :
    DependsOn (newCommunicationIndex input).dependencies =
      DependsOn input.communicationDependencies := by
  rw [DependsOn, DependsOn, carries_newCommunicationIndex]

variable {index : CommunicationIndex} {carrier : String}

theorem edge_upstream_iff {dependent : String} : Edge index.upstream (·.carrier) dependent carrier ↔
      Carries index.dependencies dependent carrier := by
  simp only [Edge, CommunicationIndex.upstream, mem_filter, decide_eq_true_eq, Carries, and_assoc]

theorem edge_dependents_iff {dependent : String} : Edge index.dependents id carrier dependent ↔
      Carries index.dependencies dependent carrier := by
  simp only [Edge, CommunicationIndex.dependents, mem_map, mem_filter,
    decide_eq_true_eq, id_eq, Carries]
  constructor
  · rintro ⟨_, ⟨dependency, ⟨hmem, hc⟩, rfl⟩, rfl⟩
    exact ⟨dependency, hmem, rfl, hc⟩
  · rintro ⟨dependency, hmem, rfl, hc⟩
    exact ⟨_, ⟨dependency, ⟨hmem, hc⟩, rfl⟩, rfl⟩

theorem mem_dependents {dependent : String} :
    dependent ∈ index.dependents carrier ↔ Carries index.dependencies dependent carrier := by
  rw [← edge_dependents_iff]
  simp [Edge]

theorem CommunicationIndex.carrier_mem_of_mem_upstream (index : CommunicationIndex)
    (dependent : String) :
    ∀ dependency ∈ index.upstream dependent, dependency.carrier ∈ index.dependencies.map
      (·.carrier) := by
  intro dependency hmem
  exact mem_map_of_mem (mem_of_mem_filter hmem)

theorem CommunicationIndex.mem_dependents_map (index : CommunicationIndex) (carrier : String) :
    ∀ dependent ∈ index.dependents carrier,
      id dependent ∈ index.dependencies.map (·.dependent) := by
  intro dependent hmem
  obtain ⟨dependency, hd, rfl⟩ := mem_map.mp hmem
  exact mem_map_of_mem (mem_of_mem_filter hd)

theorem exists_mem_communicationPathsFrom {node : String} :
    (∃ path, (carrier, path) ∈ communicationPathsFrom index node) ↔
      carrier ≠ node ∧ DependsOn index.dependencies node carrier := by
  have hseen : carrier ∈ (search index.upstream (·.carrier) (index.dependencies.length + 1)
      (.start [node])).seen ↔ _ :=
    mem_seen_search index.carrier_mem_of_mem_upstream (by simp; omega)
  have hedge : Edge index.upstream (·.carrier) = Carries index.dependencies := by
    funext dependent carrier
    exact propext edge_upstream_iff
  rw [hedge] at hseen
  simp only [mem_singleton, exists_eq_left] at hseen
  have hpath : (∃ path, (carrier, path) ∈ communicationPathsFrom index node) ↔
      carrier ≠ node ∧ carrier ∈ (search index.upstream (·.carrier)
        (index.dependencies.length + 1) (.start [node])).seen := by
    simp only [communicationPathsFrom, mem_filter, decide_eq_true_eq, Search.seen,
      mem_map, Prod.exists, exists_and_right, exists_eq_right]
    exact and_comm
  rw [hpath, hseen, DependsOn]
  refine and_congr_right fun hne => ?_
  rw [Relation.reflTransGen_iff_eq_or_transGen]
  simp [hne]

/-- One shortest path is found to each carrier that a node depends on, itself apart,
and the search comes to its end. -/
theorem communicationPathsFrom_shortest (index : CommunicationIndex) (node : String) :
    (search index.upstream (·.carrier) (index.dependencies.length + 1) (.start [node])).queue = [] ∧
      ((communicationPathsFrom index node).map Prod.fst).Nodup ∧
      (∀ carrier, carrier ∈ (communicationPathsFrom index node).map Prod.fst ↔
        carrier ≠ node ∧ DependsOn index.dependencies node carrier) ∧
      ∀ entry ∈ communicationPathsFrom index node,
        Walk index.upstream (·.carrier) node entry.2 entry.1 ∧
          ∀ path, Walk index.upstream (·.carrier) node path entry.1 →
            entry.2.length ≤ path.length := by
  have hinv := (Search.start_invariant index.upstream (·.carrier) [node]).search
    (index.dependencies.length + 1)
  have hlayered := (Search.start_layered index.upstream (·.carrier) [node]).search
    (Search.start_invariant index.upstream (·.carrier) [node]) (index.dependencies.length + 1)
  have hend : (search index.upstream (·.carrier) (index.dependencies.length + 1)
      (.start [node])).queue = [] :=
    queue_search_start_eq_nil index.carrier_mem_of_mem_upstream (by simp; omega)
  refine ⟨hend, hinv.nodup.sublist (filter_sublist.map _), fun carrier => ?_, fun entry hmem => ?_⟩
  · rw [← exists_mem_communicationPathsFrom]
    simp
  · have hentry := (mem_filter.mp hmem).1
    have hpath := Search.pathTo_eq hinv.nodup hentry
    obtain ⟨seed, hseed, hwalk⟩ := hlayered.walks entry.1 (mem_map_of_mem hentry)
    rw [mem_singleton.mp hseed, hpath] at hwalk
    refine ⟨hwalk, fun path hother => ?_⟩
    have hle := (hlayered.length_le hinv hend (mem_singleton_self node) hother).2
    rwa [hpath] at hle

theorem mem_consumers {seeds : List String} {cons : String} : cons ∈ index.consumers seeds ↔
      ∃ seed ∈ seeds, DependsOn index.dependencies cons seed := by
  have hedge : Edge index.dependents id = Function.swap (Carries index.dependencies) := by
    funext carrier dependent
    exact propext edge_dependents_iff
  have hseen : ∀ vertex, vertex ∈ (search index.dependents id
      (seeds.length + index.dependencies.length) (.start seeds)).seen ↔ _ :=
    fun _ => mem_seen_search index.mem_dependents_map (by simp)
  rw [hedge] at hseen
  simp only [CommunicationIndex.consumers, mem_dedup, mem_flatMap, hseen, mem_dependents, DependsOn]
  constructor
  · rintro ⟨carrier, ⟨seed, hseed, hpath⟩, hc⟩
    refine ⟨seed, hseed, .head' hc ?_⟩
    exact Relation.reflTransGen_swap.mp hpath
  · rintro ⟨seed, hseed, hpath⟩
    obtain ⟨carrier, hc, hrest⟩ := Relation.TransGen.head'_iff.mp hpath
    exact ⟨carrier, ⟨seed, hseed, Relation.reflTransGen_swap.mpr hrest⟩, hc⟩

theorem supplies_eq_none {entity : String} :
    index.supplies entity = none ↔ ∀ domain ∈ index.domains, entity ∉ domainEntities domain := by
  unfold CommunicationIndex.supplies
  dsimp only
  split
  all_goals
    rename_i he
    simpa [filter_eq_nil_iff] using he

theorem supplies_eq_some {entity : String} {supply : CommunicationSupplyConstraint}
    (h : index.supplies entity = some supply) :
    (∀ name, name ∈ supply.powerDomains ↔
        ∃ domain ∈ index.domains, entity ∈ domainEntities domain ∧ domain.name = name) ∧
      (supply.unknownSupply = true ↔ ∀ domain ∈ index.domains,
        entity ∈ domainEntities domain → ∀ device ∈ domain.upsDevices, device = "") := by
  unfold CommunicationIndex.supplies at h
  dsimp only at h
  split at h
  · cases h
  · cases h
    constructor
    · intro name
      simp [and_assoc]
    · simp only [decide_eq_true_eq, sortedUnique_eq_nil, filter_eq_nil_iff,
        mem_flatMap, mem_filter, forall_exists_index, and_imp]
      constructor
      · intro hall domain hd he device hdevice
        simpa using hall device domain hd he hdevice
      · intro hall device domain hd he hdevice
        simpa using hall domain hd he device hdevice

end NutOperator.Planner
