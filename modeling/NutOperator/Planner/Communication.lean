import NutOperator.Planner.CommunicationIndex
import NutOperator.Planner.GraphEdges

/-! Communication ordering: work that needs a carrier runs before the carrier is
released, and a shared service carrier is released last of all. -/
namespace NutOperator.Planner

open Data NutOperator.Graph List

def sourceLess (left right : GraphSourceRef) : Bool :=
  if left.kind ≠ right.kind then decide (left.kind < right.kind)
  else if left.name ≠ right.name then decide (left.name < right.name)
  else decide (left.field < right.field)

def GraphEdge.addSources (edge : GraphEdge) (sources : List GraphSourceRef) : GraphEdge :=
  sources.foldl (fun edge source =>
      if source ∈ edge.sources then edge else { edge with sources := edge.sources ++ [source] })
    edge

def GraphEdge.sortSources (edge : GraphEdge) : GraphEdge :=
  { edge with sources := sortStable sourceLess edge.sources }

def GraphEdge.key (edge : GraphEdge) : String × String × String × Relation :=
  (edge.id, edge.fromID, edge.toID, edge.relation)

@[simp] theorem key_addSources (edge : GraphEdge) (sources : List GraphSourceRef) :
    (edge.addSources sources).key = edge.key := by
  unfold GraphEdge.addSources
  induction sources generalizing edge with
  | nil => rfl
  | cons source rest ih =>
    rw [foldl_cons, ih]
    split <;> rfl

@[simp] theorem key_sortSources (edge : GraphEdge) : edge.sortSources.key = edge.key := rfl

def addToLast (same : GraphEdge → Bool) (sources : List GraphSourceRef) :
    List GraphEdge → List GraphEdge
  | [] => []
  | edge :: rest =>
    if rest.any same then edge :: addToLast same sources rest
    else if same edge then edge.addSources sources :: rest
    else edge :: rest

structure OrderNeed where
  edge : GraphEdge
  sources : List GraphSourceRef

def recordNeed (same : GraphEdge → GraphEdge → Bool) (edges : List GraphEdge)
    (need : OrderNeed) : List GraphEdge :=
  if edges.any (same need.edge) then addToLast (same need.edge) need.sources edges
  else edges ++ [need.edge.addSources need.sources]

theorem map_key_addToLast (same : GraphEdge → Bool) (sources : List GraphSourceRef)
    (edges : List GraphEdge) :
    (addToLast same sources edges).map GraphEdge.key = edges.map GraphEdge.key := by
  induction edges with
  | nil => rfl
  | cons edge rest ih =>
    rw [addToLast]
    split
    · rw [map_cons, map_cons, ih]
    · split <;> simp

variable {edges : List GraphEdge} {groups : List Group} {membership : List GroupNodeMembership}
  {carrier first second : String} {index : CommunicationIndex}
  {services : List CommunicationServicePath}

variable {key : String × String × String × Relation} {need : OrderNeed} {relation : Relation}

theorem mem_keys_foldl_recordNeed {same : GraphEdge → GraphEdge → Bool} {needs : List OrderNeed}
    (h : key ∈ (needs.foldl (recordNeed same) edges).map GraphEdge.key) :
    key ∈ edges.map GraphEdge.key ∨ ∃ need ∈ needs, need.edge.key = key := by
  induction needs generalizing edges with
  | nil => exact .inl h
  | cons need rest ih =>
    rcases ih h with hkept | ⟨other, hother, hkey⟩
    · rw [recordNeed] at hkept
      split at hkept
      · rw [map_key_addToLast] at hkept
        exact .inl hkept
      · rw [map_append, mem_append] at hkept
        rcases hkept with hold | hnew
        · exact .inl hold
        · refine .inr ⟨need, mem_cons_self, ?_⟩
          simpa [eq_comm] using hnew
    · exact .inr ⟨other, mem_cons_of_mem _ hother, hkey⟩

theorem keys_subset_recordNeed (same : GraphEdge → GraphEdge → Bool) (edges : List GraphEdge)
    (need : OrderNeed) :
    ∀ key ∈ edges.map GraphEdge.key, key ∈ (recordNeed same edges need).map GraphEdge.key := by
  intro key hkey
  rw [recordNeed]
  split
  · rwa [map_key_addToLast]
  · rw [map_append]
    exact mem_append_left _ hkey

theorem keys_subset_foldl_recordNeed (same : GraphEdge → GraphEdge → Bool)
    (edges : List GraphEdge) (needs : List OrderNeed) :
    ∀ key ∈ edges.map GraphEdge.key,
      key ∈ (needs.foldl (recordNeed same) edges).map GraphEdge.key := by
  induction needs generalizing edges with
  | nil => exact fun _ => id
  | cons need rest ih =>
    intro key hkey
    exact ih _ key (keys_subset_recordNeed same edges need key hkey)

/-- A need is lost only to an edge that `same` takes for its own. When `same`
tells apart all edges in play, every need is recorded. -/
theorem need_mem_foldl_recordNeed {same : GraphEdge → GraphEdge → Bool} {needs : List OrderNeed}
    (hneed : need ∈ needs) (hsame : ∀ edge : GraphEdge, (edge.key ∈ edges.map GraphEdge.key ∨
      ∃ other ∈ needs, other.edge.key = edge.key) → same need.edge edge = true →
        edge.key = need.edge.key) :
    need.edge.key ∈ (needs.foldl (recordNeed same) edges).map GraphEdge.key := by
  induction needs generalizing edges with
  | nil => cases hneed
  | cons head rest ih =>
    rw [foldl_cons]
    rcases mem_cons.mp hneed with rfl | hrest
    · apply keys_subset_foldl_recordNeed
      rw [recordNeed]
      split
      · rename_i hany
        obtain ⟨edge, hedge, hm⟩ := any_eq_true.mp hany
        have hmem : edge.key ∈ edges.map GraphEdge.key := mem_map_of_mem hedge
        rw [map_key_addToLast, ← hsame edge (.inl hmem) hm]
        exact hmem
      · simp
    · apply ih hrest
      intro edge hedge hm
      apply hsame edge _ hm
      rcases hedge with hkept | ⟨other, ho, hkey⟩
      · have hstep : edge.key ∈ ([head].foldl (recordNeed same) edges).map GraphEdge.key := hkept
        rcases mem_keys_foldl_recordNeed hstep with hold | ⟨other, ho, hkey⟩
        · exact .inl hold
        · rw [mem_singleton] at ho
          exact .inr ⟨other, by simp [ho], hkey⟩
      · exact .inr ⟨other, mem_cons_of_mem _ ho, hkey⟩

def carrierSources (path : List CommunicationDependency) : List GraphSourceRef :=
  path.map fun dependency =>
    { kind := "PowerInventoryEdge", name := dependency.source, field := "carries" }

def knownGroup (groups : List Group) (name : String) : Bool :=
  groups.any fun group => group.name = name

@[simp] theorem knownGroup_eq_true {name : String} :
    knownGroup groups name = true ↔ name ∈ groups.map (·.name) := by
  simp [knownGroup]

def releasers (groups : List Group) (membership : List GroupNodeMembership) (node : String) :
    List String :=
  (membership.filter fun entry => knownGroup groups entry.group).flatMap fun entry =>
    (entry.releases.filter (· = node)).map fun _ => entry.group

theorem mem_releasers {node name : String} : name ∈ releasers groups membership node ↔
      name ∈ groups.map (·.name) ∧ Releases membership name node := by
  simp only [releasers, mem_flatMap, mem_filter, knownGroup_eq_true, mem_map,
    decide_eq_true_eq, Releases]
  constructor
  · rintro ⟨entry, ⟨he, hk⟩, _, ⟨hnode, rfl⟩, rfl⟩
    exact ⟨hk, entry, he, rfl, hnode⟩
  · rintro ⟨hk, entry, he, rfl, hnode⟩
    exact ⟨entry, ⟨he, hk⟩, node, ⟨hnode, rfl⟩, rfl⟩

def communicationEdge (fromID toID explanation : String) : GraphEdge :=
  { id := graphEdgeID fromID toID .communicationPath, fromID := fromID, toID := toID
    relation := .communicationPath, provenance := .derived, explanation := explanation }

def nodeCommunicationNeeds (groups : List Group) (membership : List GroupNodeMembership)
    (index : CommunicationIndex) : List OrderNeed :=
  (membership.filter fun entry => knownGroup groups entry.group).flatMap fun entry =>
    (entry.acts ++ entry.releases).flatMap fun node =>
      (communicationPathsFrom index node).flatMap fun (carrier, path) =>
        (releasers groups membership carrier).map fun releaser =>
          { edge := communicationEdge entry.group releaser
              (s!"{entry.group} runs before {releaser} because its dependent work needs a " ++
                s!"communication carrier released by {releaser}.")
            sources := [{ kind := "Node", name := node }, { kind := "Node", name := carrier }] ++
              carrierSources path }

def sameEndpoints (left right : GraphEdge) : Bool :=
  left.fromID = right.fromID && left.toID = right.toID

def collectNodeCommunicationGraphEdges (groups : List Group)
    (membership : List GroupNodeMembership) (index : CommunicationIndex) : List GraphEdge :=
  if groups = [] ∨ membership = [] ∨ index.dependencies = [] then []
  else
    sortEdges (((nodeCommunicationNeeds groups membership index).foldl
      (recordNeed sameEndpoints) []).map GraphEdge.sortSources)

def normalizeCommunicationServices (services : List CommunicationServicePath) :
    List CommunicationServicePath :=
  sortStable (fun left right => decide (left.service < right.service))
    (services.map fun service => { service with entities := sortedUnique service.entities })

/-- Required entities themselves, with no path, and the carriers upstream of
them, each with the first path found. An exempt service requires nothing. -/
def CommunicationIndex.serviceCarrierPaths (index : CommunicationIndex)
    (service : CommunicationServicePath) : List (String × List CommunicationDependency) :=
  if service.exempt then []
  else
    (sortedUnique service.entities).foldl (fun paths entity =>
        (communicationPathsFrom index entity).foldl
          (fun paths path => if path.1 ∈ paths.map Prod.fst then paths else paths ++ [path])
          ((paths.filter fun path => path.1 ≠ entity) ++ [(entity, [])]))
      []

def sharedCommunicationCarriers (input : StructuralInputs) (index : CommunicationIndex) :
    List String :=
  sortedUnique (input.communicationServices.flatMap fun service =>
    (index.serviceCarrierPaths service).map Prod.fst)

def serviceOrderNeed (service carrier : String) (path : List CommunicationDependency)
    (group release : String) : OrderNeed :=
  { edge := communicationEdge group release
      (s!"{group} runs before {release} because the shared communication path is " ++
        "required throughout the flow.")
    sources := [{ kind := "ShutdownFlow", name := service, field := "spec.communicationPaths" },
        { kind := "InventoryEntity", name := carrier }] ++ carrierSources path }

/-- Every other action precedes one that releases a carrier of a shared
service. -/
def serviceCommunicationNeeds (groups : List Group) (membership : List GroupNodeMembership)
    (index : CommunicationIndex) (services : List CommunicationServicePath) : List OrderNeed :=
  (normalizeCommunicationServices services).flatMap fun service =>
    (membership.filter fun release => knownGroup groups release.group).flatMap fun release =>
      release.releases.flatMap fun carrier =>
        match (index.serviceCarrierPaths service).lookup carrier with
        | none => []
        | some path =>
          (groups.filter fun group => group.name ≠ release.group).map fun group =>
            serviceOrderNeed service.service carrier path group.name release.group

def sameID (left right : GraphEdge) : Bool :=
  left.id = right.id

def collectCommunicationGraphEdges (groups : List Group)
    (membership : List GroupNodeMembership) (index : CommunicationIndex)
    (services : List CommunicationServicePath) : List GraphEdge :=
  sortEdges (((serviceCommunicationNeeds groups membership index services).foldl
    (recordNeed sameID) (collectNodeCommunicationGraphEdges groups membership index)).map
      GraphEdge.sortSources)

def collectLinearCommunicationGraphEdges (input : StructuralInputs)
    (index : CommunicationIndex) : List GraphEdge :=
  if input.communicationDependencies = [] ∧ input.communicationServices = [] then []
  else
    collectCommunicationGraphEdges (input.steps.map fun step => { name := step.id })
      input.groupNodes index input.communicationServices

/-- A carrier of a shared service: a required entity or anything upstream of
one, unless the service is exempt. -/
def SharedCarrier (dependencies : List CommunicationDependency)
    (services : List CommunicationServicePath) (carrier : String) : Prop :=
  ∃ service ∈ services, service.exempt = false ∧ ∃ entity ∈ service.entities,
    Relation.ReflTransGen (Carries dependencies) entity carrier

private theorem mem_keys_addAbsent {start added : List (String × List CommunicationDependency)} :
    carrier ∈ (added.foldl (fun paths path =>
        if path.1 ∈ paths.map Prod.fst then paths else paths ++ [path]) start).map Prod.fst ↔
      carrier ∈ start.map Prod.fst ∨ carrier ∈ added.map Prod.fst := by
  induction added generalizing start with
  | nil => simp
  | cons path rest ih =>
    rw [foldl_cons, ih]
    split
    · rename_i hmem
      have habs : carrier = path.1 → carrier ∈ start.map Prod.fst := fun h => h ▸ hmem
      rw [map_cons, mem_cons, ← or_assoc, or_iff_left_of_imp habs]
    · simp only [map_append, map_cons, map_nil, mem_append,
        mem_cons, not_mem_nil, or_false, or_assoc]

private theorem mem_keys_entity {entity : String}
    {paths : List (String × List CommunicationDependency)} :
    carrier ∈ ((communicationPathsFrom index entity).foldl (fun paths path =>
        if path.1 ∈ paths.map Prod.fst then paths else paths ++ [path])
        ((paths.filter fun path => path.1 ≠ entity) ++ [(entity, [])])).map Prod.fst ↔
      carrier ∈ paths.map Prod.fst ∨
        Relation.ReflTransGen (Carries index.dependencies) entity carrier := by
  have hu : carrier ∈ (communicationPathsFrom index entity).map Prod.fst ↔
      carrier ≠ entity ∧ DependsOn index.dependencies entity carrier := by
    rw [← exists_mem_communicationPathsFrom]
    simp
  rw [mem_keys_addAbsent, hu, Relation.reflTransGen_iff_eq_or_transGen]
  by_cases hsame : carrier = entity <;> simp [hsame, DependsOn]

theorem mem_serviceCarrierPaths {service : CommunicationServicePath} :
    carrier ∈ (index.serviceCarrierPaths service).map Prod.fst ↔
      service.exempt = false ∧ ∃ entity ∈ service.entities,
        Relation.ReflTransGen (Carries index.dependencies) entity carrier := by
  unfold CommunicationIndex.serviceCarrierPaths
  split
  · rename_i hexempt
    simp [hexempt]
  · rename_i hexempt
    have hfold : ∀ (entities : List String) (start : List (String × List CommunicationDependency)),
        carrier ∈ (entities.foldl (fun paths entity =>
            (communicationPathsFrom index entity).foldl (fun paths path =>
              if path.1 ∈ paths.map Prod.fst then paths else paths ++ [path])
              ((paths.filter fun path => path.1 ≠ entity) ++ [(entity, [])])) start).map
            Prod.fst ↔
          carrier ∈ start.map Prod.fst ∨ ∃ entity ∈ entities,
            Relation.ReflTransGen (Carries index.dependencies) entity carrier := by
      intro entities
      induction entities with
      | nil => simp
      | cons entity rest ih =>
        intro start
        rw [foldl_cons, ih, mem_keys_entity]
        simp [or_assoc]
    rw [hfold]
    simp [Bool.eq_false_iff.mpr hexempt]

theorem mem_sharedCommunicationCarriers {input : StructuralInputs} :
    carrier ∈ sharedCommunicationCarriers input index ↔
      SharedCarrier index.dependencies input.communicationServices carrier := by
  simp only [sharedCommunicationCarriers, mem_sortedUnique, mem_flatMap,
    mem_serviceCarrierPaths, SharedCarrier]

theorem sharedCarrier_normalize {deps : List CommunicationDependency} :
    SharedCarrier deps (normalizeCommunicationServices services) carrier ↔
      SharedCarrier deps services carrier := by
  simp [SharedCarrier, normalizeCommunicationServices]

def NeedsCarrier (memberships : List GroupNodeMembership)
    (dependencies : List CommunicationDependency) (first second : String) : Prop :=
  ∃ node carrier, Touches memberships first node ∧ carrier ≠ node ∧
    DependsOn dependencies node carrier ∧ Releases memberships second carrier

def ReleasesShared (memberships : List GroupNodeMembership)
    (dependencies : List CommunicationDependency) (services : List CommunicationServicePath)
    (second : String) : Prop :=
  ∃ carrier, Releases memberships second carrier ∧ SharedCarrier dependencies services carrier

theorem joins_iff_key : Joins edges relation first second ↔
      ∃ id, (id, first, second, relation) ∈ edges.map GraphEdge.key := by
  simp only [Joins, mem_map, GraphEdge.key, Prod.mk.injEq]
  constructor
  · rintro ⟨edge, hedge, hr, hf, hs⟩
    exact ⟨edge.id, edge, hedge, rfl, hf, hs, hr⟩
  · rintro ⟨_, edge, hedge, -, hf, hs, hr⟩
    exact ⟨edge, hedge, hr, hf, hs⟩

theorem mem_nodeCommunicationNeeds (h : need ∈ nodeCommunicationNeeds groups membership index) :
    ∃ first second explanation, need.edge = communicationEdge first second explanation ∧
      first ∈ groups.map (·.name) ∧ second ∈ groups.map (·.name) ∧
      NeedsCarrier membership index.dependencies first second := by
  simp only [nodeCommunicationNeeds, mem_flatMap, mem_filter, knownGroup_eq_true] at h
  obtain ⟨entry, ⟨he, hknown⟩, node, hnode, ⟨carrier, path⟩, hpath, hneed⟩ := h
  obtain ⟨releaser, hr, rfl⟩ := mem_map.mp hneed
  obtain ⟨hknown', hreleases⟩ := mem_releasers.mp hr
  obtain ⟨hne, hd⟩ := exists_mem_communicationPathsFrom.mp ⟨path, hpath⟩
  exact ⟨entry.group, releaser, _, rfl, hknown, hknown', node, carrier,
    touches_iff.mpr ⟨entry, he, rfl, hnode⟩, hne, hd, hreleases⟩

theorem exists_nodeCommunicationNeed (hfirst : first ∈ groups.map (·.name))
    (hsecond : second ∈ groups.map (·.name))
    (hneeds : NeedsCarrier membership index.dependencies first second) :
    ∃ need ∈ nodeCommunicationNeeds groups membership index,
      need.edge.key = (communicationEdge first second "").key := by
  obtain ⟨node, carrier, ht, hne, hd, hr⟩ := hneeds
  obtain ⟨path, hpath⟩ := exists_mem_communicationPathsFrom.mpr ⟨hne, hd⟩
  have hrelease : second ∈ releasers groups membership carrier := mem_releasers.mpr ⟨hsecond, hr⟩
  obtain ⟨entry, he, rfl, hnode⟩ := touches_iff.mp ht
  exact ⟨_, mem_flatMap.mpr ⟨entry, mem_filter.mpr ⟨he, by simpa using hfirst⟩,
    mem_flatMap.mpr ⟨node, hnode, mem_flatMap.mpr ⟨(carrier, path), hpath,
      mem_map.mpr ⟨second, hrelease, rfl⟩⟩⟩⟩, rfl⟩

private theorem mem_keys_sortEdges :
    key ∈ (sortEdges (edges.map GraphEdge.sortSources)).map GraphEdge.key ↔
      key ∈ edges.map GraphEdge.key := by
  simp

theorem mem_keys_collectNodeCommunicationGraphEdges :
    key ∈ (collectNodeCommunicationGraphEdges groups membership index).map GraphEdge.key ↔
      ∃ first ∈ groups.map (·.name), ∃ second ∈ groups.map (·.name),
        NeedsCarrier membership index.dependencies first second ∧
          key = (communicationEdge first second "").key := by
  unfold collectNodeCommunicationGraphEdges
  split
  · rename_i hguard
    simp only [map_nil, not_mem_nil, false_iff, not_exists, not_and]
    rintro first hfirst second - ⟨node, carrier, -, -, hd, entry, he, -⟩ -
    rcases hguard with rfl | rfl | hnone
    · cases hfirst
    · cases he
    · obtain ⟨_, ⟨dependency, hdepends, -⟩, -⟩ := Relation.TransGen.head'_iff.mp hd
      rw [hnone] at hdepends
      cases hdepends
  · rw [mem_keys_sortEdges]
    constructor
    · intro hkey
      rcases mem_keys_foldl_recordNeed hkey with hold | ⟨need, hneed, rfl⟩
      · cases hold
      · obtain ⟨first, second, explanation, hedge, hfirst, hsecond, hneeds⟩ :=
          mem_nodeCommunicationNeeds hneed
        exact ⟨first, hfirst, second, hsecond, hneeds, by rw [hedge]; rfl⟩
    · rintro ⟨first, hfirst, second, hsecond, hneeds, rfl⟩
      obtain ⟨need, hneed, hkey⟩ := exists_nodeCommunicationNeed hfirst hsecond hneeds
      rw [← hkey]
      apply need_mem_foldl_recordNeed hneed
      rintro edge (hold | ⟨other, ho, hsame⟩) hmatch
      · cases hold
      · -- edges with the same endpoints are all communication edges, hence equal
        obtain ⟨first', second', _, hedge', -⟩ := mem_nodeCommunicationNeeds ho
        rw [← hsame, hkey, hedge']
        simp only [sameEndpoints, Bool.and_eq_true, decide_eq_true_eq] at hmatch
        rw [hedge'] at hsame
        simp only [GraphEdge.key, communicationEdge, Prod.mk.injEq] at hkey hsame ⊢
        obtain ⟨-, hfrom, hto, -⟩ := hkey
        obtain ⟨-, hfrom', hto', -⟩ := hsame
        have hfirst' : first' = first := by rw [hfrom', ← hmatch.1, hfrom]
        have hsecond' : second' = second := by rw [hto', ← hmatch.2, hto]
        simp [hfirst', hsecond']

private theorem lookup_isSome_iff_mem_keys {pairs : List (String × List CommunicationDependency)}
    {key : String} : (pairs.lookup key).isSome = true ↔ key ∈ pairs.map Prod.fst := by
  rw [lookup_isSome_iff]
  simp

theorem mem_serviceCommunicationNeeds
    (h : need ∈ serviceCommunicationNeeds groups membership index services) :
    ∃ first second explanation, need.edge = communicationEdge first second explanation ∧
      first ∈ groups.map (·.name) ∧ second ∈ groups.map (·.name) ∧ first ≠ second ∧
      ReleasesShared membership index.dependencies services second := by
  simp only [serviceCommunicationNeeds, mem_flatMap, mem_filter, knownGroup_eq_true] at h
  obtain ⟨service, hservice, release, ⟨hr, hk⟩, carrier, hc, hneed⟩ := h
  split at hneed
  · cases hneed
  · rename_i path hpath
    obtain ⟨group, hg, rfl⟩ := mem_map.mp hneed
    obtain ⟨hg, hne⟩ := mem_filter.mp hg
    have hrequired : carrier ∈ (index.serviceCarrierPaths service).map Prod.fst :=
      lookup_isSome_iff_mem_keys.mp (by rw [hpath]; rfl)
    refine ⟨group.name, release.group, _, rfl, mem_map_of_mem hg, hk,
      of_decide_eq_true hne, carrier, ⟨release, hr, rfl, hc⟩, ?_⟩
    rw [← sharedCarrier_normalize]
    exact ⟨service, hservice, mem_serviceCarrierPaths.mp hrequired⟩

theorem exists_serviceCommunicationNeed (hfirst : first ∈ groups.map (·.name))
    (hsecond : second ∈ groups.map (·.name)) (hne : first ≠ second)
    (hshared : ReleasesShared membership index.dependencies services second) :
    ∃ need ∈ serviceCommunicationNeeds groups membership index services,
      need.edge.key = (communicationEdge first second "").key := by
  obtain ⟨carrier, ⟨release, hr, rfl, hc⟩, hrequired⟩ := hshared
  rw [← sharedCarrier_normalize] at hrequired
  obtain ⟨service, hs, hpath⟩ := hrequired
  have hkey := mem_serviceCarrierPaths.mpr hpath
  obtain ⟨path, hl⟩ := Option.isSome_iff_exists.mp (lookup_isSome_iff_mem_keys.mpr hkey)
  obtain ⟨group, hg, rfl⟩ := mem_map.mp hfirst
  refine ⟨serviceOrderNeed service.service carrier path group.name release.group, ?_, rfl⟩
  refine mem_flatMap.mpr ⟨service, hs, mem_flatMap.mpr ⟨release,
    mem_filter.mpr ⟨hr, by simpa using hsecond⟩,
    mem_flatMap.mpr ⟨carrier, hc, ?_⟩⟩⟩
  rw [hl]
  exact mem_map.mpr ⟨group, mem_filter.mpr ⟨hg, by simpa using hne⟩, rfl⟩

theorem exists_of_recorded (h : key ∈
      (collectNodeCommunicationGraphEdges groups membership index).map GraphEdge.key ∨
      ∃ need ∈ serviceCommunicationNeeds groups membership index services, need.edge.key = key) :
    ∃ first ∈ groups.map (·.name), ∃ second ∈ groups.map (·.name),
      key = (communicationEdge first second "").key ∧
      (NeedsCarrier membership index.dependencies first second ∨
        first ≠ second ∧ ReleasesShared membership index.dependencies services second) := by
  rcases h with hnode | ⟨need, hneed, rfl⟩
  · obtain ⟨first, hf, second, hs, hneeds, hsame⟩ :=
      mem_keys_collectNodeCommunicationGraphEdges.mp hnode
    exact ⟨first, hf, second, hs, hsame, .inl hneeds⟩
  · obtain ⟨first, second, _, hedge, hf, hs, hshared⟩ := mem_serviceCommunicationNeeds hneed
    exact ⟨first, hf, second, hs, by rw [hedge]; rfl, .inr hshared⟩

theorem of_joins_collectCommunicationGraphEdges
    (h : Joins (collectCommunicationGraphEdges groups membership index services) relation
      first second) :
    relation = .communicationPath ∧ first ∈ groups.map (·.name) ∧ second ∈ groups.map (·.name) ∧
      (NeedsCarrier membership index.dependencies first second ∨
        first ≠ second ∧ ReleasesShared membership index.dependencies services second) := by
  rw [collectCommunicationGraphEdges, joins_iff_key] at h
  obtain ⟨id, hkey⟩ := h
  obtain ⟨first', hf, second', hs, hsame, hwhy⟩ :=
    exists_of_recorded (mem_keys_foldl_recordNeed (mem_keys_sortEdges.mp hkey))
  simp only [GraphEdge.key, communicationEdge, Prod.mk.injEq] at hsame
  obtain ⟨-, rfl, rfl, rfl⟩ := hsame
  exact ⟨rfl, hf, hs, hwhy⟩

theorem joins_of_needsCarrier (hfirst : first ∈ groups.map (·.name))
    (hsecond : second ∈ groups.map (·.name))
    (hneeds : NeedsCarrier membership index.dependencies first second) :
    Joins (collectCommunicationGraphEdges groups membership index services) .communicationPath
      first second := by
  rw [collectCommunicationGraphEdges, joins_iff_key]
  exact ⟨_, mem_keys_sortEdges.mpr (keys_subset_foldl_recordNeed _ _ _ _
    (mem_keys_collectNodeCommunicationGraphEdges.mpr
      ⟨first, hfirst, second, hsecond, hneeds, rfl⟩))⟩

theorem joins_collectCommunicationGraphEdges (hdistinct : DistinctIDs (groups.map (·.name))) :
    Joins (collectCommunicationGraphEdges groups membership index services) relation first second ↔
      relation = .communicationPath ∧ first ∈ groups.map (·.name) ∧ second ∈ groups.map (·.name) ∧
        (NeedsCarrier membership index.dependencies first second ∨
          first ≠ second ∧ ReleasesShared membership index.dependencies services second) := by
  refine ⟨of_joins_collectCommunicationGraphEdges, ?_⟩
  rintro ⟨rfl, hfirst, hsecond, hneeds | ⟨hne, hs⟩⟩
  · exact joins_of_needsCarrier hfirst hsecond hneeds
  · obtain ⟨need, hneed, hkey⟩ := exists_serviceCommunicationNeed hfirst hsecond hne hs
    rw [collectCommunicationGraphEdges, joins_iff_key]
    refine ⟨_, mem_keys_sortEdges.mpr (hkey ▸ need_mem_foldl_recordNeed hneed ?_)⟩
    intro edge hedge hm
    -- an edge with this identifier joins actions with these sanitised names
    obtain ⟨first', hfirst', second', hsecond', hedge', -⟩ := exists_of_recorded hedge
    have hid : graphEdgeID first second .communicationPath =
        graphEdgeID first' second' .communicationPath := by
      have hleft : need.edge.id = _ := congrArg Prod.fst hkey
      have hr : edge.id = _ := congrArg Prod.fst hedge'
      simp only [sameID, decide_eq_true_eq] at hm
      exact hleft.symm.trans (hm.trans hr)
    obtain ⟨hsafe, -, hsafe'⟩ := graphEdgeID_inj.mp hid
    rw [hedge', hkey, hdistinct first hfirst first' hfirst' hsafe, hdistinct second hsecond second'
      hsecond' hsafe']

end NutOperator.Planner
