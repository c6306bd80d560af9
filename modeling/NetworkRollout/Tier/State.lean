/-!
# Tiers of the network datapath

The datapath is deployed as workloads of three tiers: the master, the node and the image
pre-puller. A tier's state is what its workload says about itself: the release it was rolled to,
the family of addresses it serves, and the counters of its rollout.
-/

namespace NetworkRollout

/-- The address families that the services of the cluster use. -/
inductive Family where
  | singleStack
  | dualStack
  deriving DecidableEq, Repr

namespace Family

def ofPoolCount (count : Nat) : Family := if count = 2 then dualStack else singleStack

def marker : Family → String
  | singleStack => "single-stack"
  | dualStack => "dual-stack"

def ofMarker? (s : String) : Option Family :=
  if s = "single-stack" then some singleStack
  else if s = "dual-stack" then some dualStack
  else none

theorem ofMarker?_marker (f : Family) : ofMarker? f.marker = some f := by
  cases f <;> decide

end Family

structure Progress where
  desired : Int := 0
  updated : Int := 0
  available : Int := 0
  unavailable : Int := 0
  generation : Int := 0
  observedGeneration : Int := 0
  deriving DecidableEq, Repr, Inhabited

structure Tier where
  namespaceName : String := ""
  name : String := ""
  /-- The release it was rolled to. -/
  version : Option String := none
  /-- The family it was rolled to. -/
  family : Option Family := none
  /-- Whether its rollout is marked as hung. -/
  hung : Bool := false
  progress : Progress := {}
  deriving DecidableEq, Repr, Inhabited

def Tier.isAt (t : Tier) (release : String) : Bool := t.version == some release

structure Tiers where
  master : Option Tier := none
  node : Option Tier := none
  prepuller : Option Tier := none
  deriving DecidableEq, Repr, Inhabited

end NetworkRollout
