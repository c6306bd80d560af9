import NetworkRollout.Object.Object
import NetworkRollout.Rollout.Decision
import NetworkRollout.Cluster.Names

/-!
# The objects to apply

A tier that is held back is represented by its live object, which takes the place of the rendered
one of the same identity or comes last. The pre-puller is left out unless it is asked for.
-/

namespace NetworkRollout

structure LiveTiers where
  master : Option Object := none
  node : Option Object := none
  deriving Repr, Inhabited

namespace Object

/-- Puts an object in the place of the first one with its identity, or at the end. -/
def replaceIn (replacement : Object) : List Object → List Object
  | [] => [replacement]
  | o :: os => if o.sameIdentity replacement then replacement :: os else o :: replaceIn replacement os

/-- Puts the live object of a tier among the objects when the tier is held back. -/
def holdBack (update : Bool) (live : Option Object) (objects : List Object) : List Object :=
  match update, live with
  | false, some o => o.replaceIn objects
  | _, _ => objects

def plan (objects : List Object) (decision : Decision) (live : LiveTiers) : List Object :=
  let held := holdBack decision.updateNode live.node
    (holdBack decision.updateMaster live.master objects)
  if decision.renderPrepull then held
  else held.filter (!·.isWorkload Names.prepullerWorkload)

end Object

end NetworkRollout
