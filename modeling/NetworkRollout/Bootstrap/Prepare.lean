import NetworkRollout.Bootstrap.Bootstrap
import NetworkRollout.Rollout.Decision
import NetworkRollout.Spec.Json
import NetworkRollout.Spec.ChangeSafety
import NetworkRollout.Spec.Defaults

/-!
# Deciding before anything is written

The spec is completed from the one applied last, checked, and only then is the cluster read and
the rollout decided. A recorded spec that no longer reads counts as none.
-/

namespace NetworkRollout

structure Prepared where
  /-- The spec with its open settings filled. -/
  spec : NetworkSpec
  family : Family
  snapshot : Snapshot
  decision : Decision
  deriving DecidableEq, Repr

namespace Prepared

/-- The spec applied last, if it is recorded and reads. -/
def appliedSpec (env : Surroundings σ) : PassM σ (Option NetworkSpec) := do
  return (← PassM.ask (env.recorded Names.appliedSpecKey)).bind NetworkSpec.ofText?

/-- All faults of a completed spec, in itself and against the one applied last. -/
def faults (previous : Option NetworkSpec) (spec : NetworkSpec) : List String :=
  spec.faults.map (·.message) ++
    match previous with
    | some prev => (prev.changeFaults spec).map (·.message)
    | none => []

/-- Records the spec of a pass as the one applied last. -/
def commit (env : Surroundings σ) (p : Prepared) : PassM σ Unit :=
  PassM.ask (env.record Names.appliedSpecKey p.spec.toText)

end Prepared

/-- Completes and checks the spec, reads the cluster and decides the rollout. -/
def prepare (env : Surroundings σ) (ns : Namespaces) (target : String) (spec : NetworkSpec)
    (release : String) (hostMtu : UInt32) : PassM σ Prepared := do
  let previous ← Prepared.appliedSpec env
  let spec := spec.fillDefaults previous hostMtu
  let faults := Prepared.faults previous spec
  if faults ≠ [] then throw (.invalidConfig faults)
  let snapshot ← bootstrap env ns target spec
  let family := Family.ofPoolCount spec.serviceNetwork.length
  return { spec, family, snapshot, decision := .decide snapshot.tiers family release }

end NetworkRollout
