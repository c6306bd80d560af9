import NetworkRollout.Tier.Progressing
import NetworkRollout.Release.Change

/-!
# Which of the two tiers may move

On an upgrade the node tier moves first and the master follows once the nodes have rolled out; on
a downgrade the order is reversed:

| node \ master | upgrade        | same            | downgrade    |
|---------------|----------------|-----------------|--------------|
| upgrade       | node           | both            | both         |
| same          | wait for node  | both            | both         |
| downgrade     | both           | wait for master | master       |

A change of the address family is rolled out to the master first, and only a settled master lets
the releases decide again.
-/

namespace NetworkRollout

/-- Which of the two tiers may be updated. -/
structure Permission where
  node : Bool
  master : Bool
  deriving DecidableEq, Repr

namespace Permission

/-- Both tiers may be updated. -/
def both : Permission := ⟨true, true⟩

/-- Only the node tier may be updated. -/
def nodeOnly : Permission := ⟨true, false⟩

/-- Only the master tier may be updated. -/
def masterOnly : Permission := ⟨false, true⟩

/-- The table of directions. -/
def ofChanges (nodeChange masterChange : ReleaseChange) (node master : Tier) : Permission :=
  match nodeChange, masterChange with
  | .upgrade, .upgrade => nodeOnly
  | .same, .upgrade => if node.progressing true then nodeOnly else both
  | .downgrade, .downgrade => masterOnly
  | .downgrade, .same => if master.progressing false then masterOnly else both
  | _, _ => both

/-- The release of a tier, empty when it carries none. -/
def deployedRelease (t : Tier) : String := t.version.getD ""

/-- What the releases of the tiers permit on the way to the given release. -/
def byRelease (node master : Option Tier) (release : String) : Permission :=
  match node, master with
  | some node, some master =>
    let nodeRelease := deployedRelease node
    let masterRelease := deployedRelease master
    if nodeRelease = release ∧ masterRelease = release then both
    else
      ofChanges (.classify nodeRelease release) (.classify masterRelease release) node master
  | _, _ => both

/-- What a change of the address family in flight permits; none when the releases decide. -/
def byFamily? (node master : Option Tier) (desired : Family) : Option Permission :=
  match node, master with
  | some node, some master =>
    match node.family, master.family with
    | some nodeFamily, some masterFamily =>
      if nodeFamily = desired ∧ masterFamily = desired then none
      else if masterFamily ≠ desired then some masterOnly
      else if master.progressing false then some masterOnly
      else none
    | _, _ => none
  | _, _ => none

end Permission

end NetworkRollout
