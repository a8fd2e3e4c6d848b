import NutOperator.Planner.Text

/-! Control-plane quorum along the waves of a plan. -/
namespace NutOperator.Planner

open Data

/-- Groups that run together: the waves, or one step at a time in a linear
flow. -/
def Plan.stages (plan : Plan) : List (List String) :=
  if plan.waves = [] then plan.steps.map fun step => [step.id] else plan.waves.map (·.groups)

/-- Releases of an action; the last membership entry of a name counts. -/
def controlPlaneReleases (memberships : List GroupNodeMembership) (name : String) : List String :=
  ((fillMap (·.group) (fun entry => some entry.releases) memberships).lookup name).getD []

def quorumSize (members : List ControlPlaneNode) : Nat := members.countP (·.quorumMember)

def releasedMembers (members : List ControlPlaneNode) (releases : String → List String)
    (released : List String) (groups : List String) : List String :=
  (released ++ (groups.flatMap releases).filter fun node => node ∈ members.map (·.name)).dedup

def terminalChannelDiagnostics (input : StructuralInputs) (name : String) : List Diagnostic :=
  let counts :=
    if input.groups = [] then
      fillMap (·.id) (fun step => some step.target.agentRefCount) input.steps
    else fillMap (·.name) (fun group => some group.target.agentRefCount) input.groups
  if 1 < (counts.lookup name).getD 0 then
    [errorDiagnostic "TerminalControlPlaneMultipleChannels"
      ("terminal control-plane handoff requires one NodePowerAgent so every signal can be " ++
        "published in one Secret update") name]
  else []

/-- Diagnostics of one stage and whether the walk stops there. Only a single
final group may release what remains of the control plane. -/
def stageDiagnostics (input : StructuralInputs) (releases : String → List String)
    (position : Nat) (released : List String) (groups : List String) (last : Bool) :
    List Diagnostic × Bool :=
  let members := input.controlPlaneNodes
  let voters := members.filter (·.quorumMember)
  let remaining : Int := members.length - released.length
  let remainingVoters : Int :=
    quorumSize members - (released.filter fun node => node ∈ voters.map (·.name)).length
  let terminal := last && groups.length = 1
  let channel :=
    if terminal then
      groups.flatMap fun name =>
        if (releases name).any (· ∈ members.map (·.name)) then terminalChannelDiagnostics input name
        else []
    else []
  if !terminal && released ≠ [] && 1 < members.length && quorumSize members = 0 then
    (channel ++ [errorDiagnostic "ControlPlaneQuorumUnknown"
      ("declare control-plane quorum members before releasing an HA control-plane node ahead " ++
        "of terminal handoff")], true)
  else if !terminal && (remaining = 0 ||
      (0 < quorumSize members && remainingVoters < (quorumSize members / 2 + 1 : Nat))) then
    (channel ++ [errorDiagnostic "ControlPlaneQuorumLost"
      (s!"wave {position} leaves {remaining} control-plane nodes and {remainingVoters} quorum " ++
        "members before orchestration completes")], true)
  else (channel, false)

def walkStages (input : StructuralInputs) (releases : String → List String) :
    Nat → List String → List (List String) → List Diagnostic
  | _, _, [] => []
  | position, released, groups :: rest =>
    let released := releasedMembers input.controlPlaneNodes releases released groups
    match stageDiagnostics input releases position released groups (rest = []) with
    | (diagnostics, true) => diagnostics
    | (diagnostics, false) => diagnostics ++ walkStages input releases (position + 1) released rest

def explicitLate (groups : List Group) (group : Group) : Bool :=
  group.requires ≠ [] || group.after ≠ [] ||
    groups.any fun predecessor => group.name ∈ predecessor.before

def controlPlaneLateDiagnostics (input : StructuralInputs) (releases : String → List String) :
    List Diagnostic :=
  input.groups.flatMap fun group =>
    if (releases group.name).any (· ∈ input.controlPlaneNodes.map (·.name)) &&
        !explicitLate input.groups group then
      [warningDiagnostic "ControlPlaneLateDependencyMissing"
        ("control-plane release should declare explicit late dependencies, not rely only on " ++
          "its tier") group.name]
    else []

def controlPlaneDiagnostics (input : StructuralInputs) (plan : Plan) : List Diagnostic :=
  let names := input.controlPlaneNodes.map (·.name)
  if names = [] then []
  else if ¬ names.Nodup ∨ "" ∈ names then
    [errorDiagnostic "ControlPlaneMembershipInvalid"
      "control-plane membership requires unique nonempty node names"]
  else
    let releases := controlPlaneReleases input.groupNodes
    walkStages input releases 0 [] plan.stages ++ controlPlaneLateDiagnostics input releases

end NutOperator.Planner
