import NetworkRollout.Membership.Discovery
import NetworkRollout.Membership.Deadline
import NetworkRollout.Cluster.Modes
import NetworkRollout.Flow.Settings
import NetworkRollout.Tier.State

/-!
# What a pass asks of its surroundings

A pass reads the cluster, lists its nodes, and recalls and records texts under keys. Each question
is a function of the state of the world, so that a pass is a function too, and a failed question
changes what it changes.

* `Surroundings`: the questions.
* `Run`: the state of a pass, with the deadlines of discoveries and the time gone by.
* `PassM`: steps that may fail and keep the state when they do.
-/

namespace NetworkRollout

/-- The questions a pass asks, over the state `σ` of the world. -/
structure Surroundings (σ : Type) where
  infrastructure : σ → Except Failure Infrastructure × σ
  /-- The data of a config map by namespace and name; none if it does not exist. -/
  configMap : String → String → σ → Except Failure (Option TextMap) × σ
  /-- The state of a workload by namespace and name; none if it does not exist. -/
  workload : String → String → σ → Except Failure (Option Tier) × σ
  listNodes : σ → Listing × σ
  recorded : String → σ → Except Failure (Option String) × σ
  record : String → String → σ → Except Failure Unit × σ

structure Namespaces where
  /-- The namespace of the workloads of the datapath. -/
  datapath : String := "openshift-ovn-kubernetes"
  /-- The namespace of the operator's config maps. -/
  operator : String := "openshift-network-operator"
  deriving DecidableEq, Repr, Inhabited

structure Run (σ : Type) where
  world : σ
  deadlines : Deadlines := []
  /-- The milliseconds gone by. -/
  elapsed : Nat := 0

/-- A step of a pass. A failure keeps the state that it was reached in. -/
abbrev PassM (σ : Type) := ExceptT Failure (StateM (Run σ))

namespace PassM

def ask (question : σ → Except Failure α × σ) : PassM σ α := do
  let run ← get
  let (answer, world) := question run.world
  set { run with world }
  answer

/-- A question whose failure is looked at and not passed on. -/
def attempt (question : σ → Except Failure α × σ) : PassM σ (Except Failure α) := do
  let run ← get
  let (answer, world) := question run.world
  set { run with world }
  return answer

def askAs (cause : Failure → Failure) (question : σ → Except Failure α × σ) : PassM σ α := do
  match ← attempt question with
  | .ok a => return a
  | .error e => throw (cause e)

end PassM

end NetworkRollout
