import NetworkRollout.Bootstrap.Prepare
import NetworkRollout.Manifest.Directory
import NetworkRollout.Manifest.Variables
import NetworkRollout.Apply.Stamp
import NetworkRollout.Apply.Applier
import NetworkRollout.Telemetry.Metrics

/-!
# A reconcile pass

A pass brings the cluster towards the spec of the network object. It decides and applies, records
the spec that it applied, and reports the outcome in the status, in an event and in the metrics. A
pass is skipped when the last one was a success for the same generation, within the interval of
passes: then only the wait is returned.

* `Reconcile.remainingWait?`: whether a pass is skipped.
* `Reconcile.rollOut`: rendering, planning and applying.
* `reconcile`: the pass.
-/

namespace NetworkRollout

structure PassSettings where
  release : String := ""
  hostMtu : UInt32 := 1500
  /-- The seconds between passes. -/
  interval : Nat := 180
  namespaces : Namespaces := {}
  deriving DecidableEq, Repr, Inhabited

/-- The state that passes change: the server, and what the process keeps. -/
structure World where
  server : Server := {}
  deadlines : Deadlines := []
  metrics : Metrics := {}
  deriving Inhabited

/-- What a pass is given: its settings, the manifests, the faults of the server, and its start. -/
structure PassInput where
  settings : PassSettings
  manifests : Directory
  faults : Faults
  start : Moment

/-- When to come back, in nanoseconds. -/
abbrev Requeue := Nat

/-- What a pass returns: when to come back, how many milliseconds it took, and the world after
it. -/
structure PassResult where
  requeue : Requeue
  elapsed : Nat
  world : World

namespace Reconcile

/-- A number of seconds. -/
def seconds (n : Nat) : Requeue := n * nanosPerSecond

/-- The wait after a failure that may go away soon. -/
def transientRequeue : Requeue := seconds 10

/-- The wait after the status could not be written. -/
def statusRequeue : Requeue := seconds 5

def errorPolicyRequeue : Requeue := seconds 30

/-- The rest of the interval since the last success, if that was for this generation and the
interval is not over. A success in the future counts as one just now. -/
def remainingWait? (status : RolloutStatus) (generation : Int) (interval : Nat) (now : Moment) :
    Option Requeue :=
  if status.observedGeneration < generation ∨ status.message.isSome then none
  else
    match status.reconciledAt with
    | none => none
    | some last =>
      let elapsed := (now.total - last.total).toNat
      if elapsed < seconds interval then some (seconds interval - elapsed) else none

/-- Renders the manifests of a prepared pass, plans and applies them; tells how many objects. -/
def rollOut (input : PassInput) (prepared : Prepared) (s : Server) :
    Except Failure Nat × Server :=
  let settings := input.settings
  let vars := prepared.snapshot.manifestVariables prepared.spec settings.release
  match input.manifests.load vars with
  | .error e => (.error e, s)
  | .ok rendered =>
    let stamped := rendered.map (Object.stamp prepared.family settings.release)
    match s.liveTiers input.faults settings.namespaces prepared.decision with
    | (.error e, s) => (.error e, s)
    | (.ok live, s) =>
      s.applyAll input.faults settings.namespaces (Object.plan stamped prepared.decision live)

def statusPatch (status : RolloutStatus) : Json := .object [("status", status.toJson)]

def decisionNote (d : Decision) : String :=
  s!"master={d.updateMaster}, node={d.updateNode}, prepull={d.renderPrepull}"

/-- What a pass has come to: the decision and the number of applied objects, or why it failed; and
the status that it has built. -/
structure Outcome where
  result : Except Failure (Decision × Nat)
  status : RolloutStatus
  world : World
  /-- The milliseconds that the pass took. -/
  elapsed : Nat

/-- Prepares, applies and records; the status gets the facts of the bootstrap. -/
def attempt (input : PassInput) (network : NetworkObject) (status : RolloutStatus) (w : World) :
    Outcome :=
  let name := network.name
  let settings := input.settings
  let env := Server.surroundings input.faults name
  let pass := prepare env settings.namespaces name network.spec settings.release settings.hostMtu
  let (prepared, run) := pass.run.run { world := w.server, deadlines := w.deadlines }
  let world := { w with server := run.world, deadlines := run.deadlines }
  match prepared with
  | .error e => ⟨.error e, status, world, run.elapsed⟩
  | .ok prepared =>
    let metrics := world.metrics.recordBootstrap name prepared.snapshot
      (run.deadlines.of name).current
    let status := status.bootstrapped (input.start.later run.elapsed) prepared.snapshot
      prepared.spec
    match rollOut input prepared world.server with
    | (.error e, server) => ⟨.error e, status, { world with server, metrics }, run.elapsed⟩
    | (.ok applied, server) =>
      let (recorded, server) := Server.record input.faults name Names.appliedSpecKey
        prepared.spec.toText server
      let world := { world with server, metrics }
      match recorded with
      | .error e => ⟨.error e, status, world, run.elapsed⟩
      | .ok () => ⟨.ok (prepared.decision, applied), status, world, run.elapsed⟩

/-- How a failure is reported: the status, the reason of a warning if there is one, and the
wait. -/
def report (interval : Nat) (now : Moment) (e : Failure) (status : RolloutStatus) :
    RolloutStatus × Option String × Requeue :=
  match e with
  | .invalidConfig faults =>
    (status.invalid now faults, some "InvalidConfig", seconds interval)
  | e =>
    if e.isTransient then (status.failed now "TransientError" e.message, none, transientRequeue)
    else (status.failed now "RolloutFailed" e.message, some "RolloutFailed", seconds interval)

/-- Publishes an event; a fault is ignored. -/
def publish (faults : Faults) (network reason note : String) (warning : Bool) (s : Server) :
    Server :=
  (s.publish faults { warning, reason, note, regarding := network }).2

def succeed (input : PassInput) (network : NetworkObject) (before : RolloutStatus)
    (decision : Decision) (applied : Nat) (o : Outcome) : PassResult :=
  let name := network.name
  let metrics := o.world.metrics.recordDecision name decision
  let status := { o.status with observedGeneration := network.generation }.rolledOut
    (input.start.later o.elapsed) decision applied
  match o.world.server.reportStatus input.faults name (statusPatch status) with
  | (.error _, server) =>
    ⟨statusRequeue, o.elapsed,
      { o.world with server, metrics := metrics.recordReconcile name "error" o.elapsed }⟩
  | (.ok (), server) =>
    let server :=
      if before.decision = some decision then server
      else publish input.faults name "RolloutDecision" (decisionNote decision) false server
    ⟨seconds input.settings.interval, o.elapsed,
      { o.world with server, metrics := metrics.recordReconcile name "success" o.elapsed }⟩

def fail (input : PassInput) (network : NetworkObject) (e : Failure) (o : Outcome) :
    PassResult :=
  let name := network.name
  let (status, warning, wait) :=
    report input.settings.interval (input.start.later o.elapsed) e o.status
  let server := match warning with
    | some reason => publish input.faults name reason e.message true o.world.server
    | none => o.world.server
  let (_, server) := server.reportStatus input.faults name (statusPatch status)
  ⟨wait, o.elapsed, { o.world with
    server, metrics := o.world.metrics.recordReconcile name "error" o.elapsed }⟩

end Reconcile

def reconcile (input : PassInput) (network : NetworkObject) (w : World) : PassResult :=
  let status := network.status.getD {}
  match Reconcile.remainingWait? status network.generation input.settings.interval input.start with
  | some wait => ⟨wait, 0, w⟩
  | none =>
    let o := Reconcile.attempt input network status w
    match o.result with
    | .ok (decision, applied) => Reconcile.succeed input network status decision applied o
    | .error e => Reconcile.fail input network e o

end NetworkRollout
