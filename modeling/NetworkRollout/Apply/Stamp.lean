import NetworkRollout.Object.Object
import NetworkRollout.Cluster.Names
import NetworkRollout.Tier.State

/-!
# Marks of a rollout

The workloads of the tiers are marked with the release, those of master and node also with the
address family, there on the workload and on its pod template. Where the way to the annotations of
the template breaks off at a value that is no object, the template stays as it is.
-/

namespace NetworkRollout

def templateAnnotations : List String := ["spec", "template", "metadata", "annotations"]

/-- Sets a text at the end of a path of names. Missing objects on the way are made; a value that is
no object ends the way without a change. -/
def Members.setText (ms : Members) (name value : String) : List String → Members
  | [] => ms.insert name (.text value)
  | field :: path =>
    match ms.get? field with
    | none => ms.insert field (.object (setText [] name value path))
    | some (.object inner) => ms.insert field (.object (setText inner name value path))
    | some _ => ms

namespace Object

/-- Marks a workload and its pod template with the family. -/
def markFamily (family : Family) (o : Object) : Object :=
  { o with
    metadata := o.metadata.annotate Names.familyKey family.marker
    data := o.data.setText Names.familyKey family.marker templateAnnotations }

def markRelease (release : String) (o : Object) : Object :=
  { o with metadata := o.metadata.annotate Names.releaseKey release }

def stamp (family : Family) (release : String) (o : Object) : Object :=
  if o.isWorkload Names.masterWorkload || o.isWorkload Names.nodeWorkload then
    (o.markFamily family).markRelease release
  else if o.isWorkload Names.prepullerWorkload then o.markRelease release
  else o

end Object

end NetworkRollout
