import NetworkRollout.Bootstrap.Surroundings
import NetworkRollout.Bootstrap.Snapshot
import NetworkRollout.Membership.InstallConfig
import NetworkRollout.Membership.Initiator
import NetworkRollout.Cluster.Names

/-!
# Bootstrapping a pass

The facts of the cluster are read in a fixed order: infrastructure, expected members, discovery,
election of the initiator, modes, flow settings, tiers. A timeout of the discovery is on record
before anything later can fail.
-/

namespace NetworkRollout

/-- Elects the initiator among the members and records it when it changes. -/
def elect (env : Surroundings σ) (members : List String) : PassM σ (Option String) := do
  let recorded ← PassM.ask (env.recorded Names.initiatorKey)
  match chooseInitiator recorded members with
  | none => return none
  | some chosen =>
    if recorded ≠ some chosen then PassM.ask (env.record Names.initiatorKey chosen)
    return some chosen

namespace Bootstrap

/-- How many control-plane members the installation asked for. -/
def expectedReplicas (env : Surroundings σ) : PassM σ Nat := do
  let data ← PassM.askAs (fun e => .clusterConfig e.message)
    (env.configMap Names.clusterConfigNamespace Names.clusterConfigName)
  match data with
  | none =>
    throw (.clusterConfig s!"{Names.clusterConfigNamespace}/{Names.clusterConfigName} not found")
  | some data =>
    match data.get? Names.installConfigKey with
    | none => return 0
    | some document =>
      match InstallConfig.replicas? document with
      | some n => return n
      | none => throw (.installConfig Failure.elided)

/-- How often the nodes are listed, in milliseconds. -/
def pollInterval : Nat := 5000

def polling (deadline : Deadline) : Polling :=
  { deadline := deadline.current * 1000, interval := pollInterval }

/-- Discovers the members of a target with its deadline. -/
def discover (env : Surroundings σ) (target : String) (expected : Nat) : PassM σ Discovery := do
  let run ← get
  let d := Discovery.run env.listNodes (polling (run.deadlines.of target)) expected run.world
  let timedOut := match d.outcome with
    | .ok found => found.timedOut
    | .error _ => false
  set { run with
    world := d.world
    elapsed := run.elapsed + d.elapsed
    deadlines := if timedOut then run.deadlines.recordTimeout target else run.deadlines }
  d.outcome

def address (node : MemberNode) : Except Failure String :=
  match node.address with
  | some a => .ok a
  | none => .error (.noInternalAddress node.name)

def addresses (nodes : List MemberNode) : Except Failure (List String) :=
  (nodes.mapM address).map (·.mergeSort)

/-- How traffic leaves the cluster: as the spec says, or else as the config map says if it can be
read. -/
def gatewayMode (env : Surroundings σ) (ns : Namespaces) (spec : NetworkSpec) :
    PassM σ GatewayMode := do
  match spec.overlay.bind (·.gateway) with
  | some gateway => return .ofRouting gateway.routingViaHost
  | none =>
    match ← PassM.attempt (env.configMap ns.operator Names.gatewayModeConfig) with
    | .ok data => return .ofSetting (data.bind (·.get? "mode"))
    | .error _ => return .shared

/-- The flow settings, if the config map can be read and gives any. -/
def flowSettings (env : Surroundings σ) (ns : Namespaces) : PassM σ (Option FlowSettings) := do
  match ← PassM.attempt (env.configMap ns.operator Names.flowsConfig) with
  | .ok data => return data.bind FlowSettings.ofData?
  | .error _ => return none

def tier (env : Surroundings σ) (ns : Namespaces) (name : String) : PassM σ (Option Tier) :=
  PassM.askAs
    (fun e => .kubernetesApi s!"reading DaemonSet {ns.datapath}/{name}: {e.message}")
    (env.workload ns.datapath name)

end Bootstrap

def bootstrap (env : Surroundings σ) (ns : Namespaces) (target : String) (spec : NetworkSpec) :
    PassM σ Snapshot := do
  let infra ← PassM.askAs
    (fun e => .kubernetesApi s!"reading infrastructure: {e.message}") env.infrastructure
  if infra.topology = .external then throw .externalControlPlane
  let expected ← Bootstrap.expectedReplicas env
  let found ← Bootstrap.discover env target expected
  let addresses ← Bootstrap.addresses found.nodes
  match ← elect env addresses with
  | none => throw .noControlPlaneMembers
  | some initiator =>
    let modeData ← PassM.askAs
      (fun e => .kubernetesApi s!"could not determine node mode: {e.message}")
      (env.configMap ns.operator Names.nodeModeConfig)
    let gatewayMode ← Bootstrap.gatewayMode env ns spec
    let flow ← Bootstrap.flowSettings env ns
    let master ← Bootstrap.tier env ns Names.masterWorkload
    let node ← Bootstrap.tier env ns Names.nodeWorkload
    let prepuller ← Bootstrap.tier env ns Names.prepullerWorkload
    return {
      addresses
      initiator
      expectedReplicas := expected
      timedOut := found.timedOut
      topology := infra.topology
      platform := infra.platform
      nodeMode := .ofSetting (modeData.bind (·.get? "mode"))
      gatewayMode
      flow
      tiers := { master, node, prepuller } }

end NetworkRollout
