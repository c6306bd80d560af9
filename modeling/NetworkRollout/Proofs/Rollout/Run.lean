import Mathlib.Logic.Relation
import NetworkRollout.Rollout.Decision

/-!
# Rollouts as runs of passes

A pass decides on the tiers it finds and applies what it may: a tier that is updated carries the
release and the family of the pass from then on, and is created when it is missing; a pre-puller
that is rendered carries the release; what is held back stays as it is. Between the passes the
tiers drift, since controllers work on them and their counters and hang marks change.

* `Tiers.pass`: the tiers after a pass; `Tiers.steady` are tiers that passes find settled.
* `Tiers.Move`, `Tiers.Reaches`: a move of a rollout and what a run of moves reaches. Both take the
  drift and the passes that are allowed as parameters.
* `Tiers.Reaches.keeps`: what every drift and every allowed pass keep holds all along a run.
-/

namespace NetworkRollout

/-- The marks that passes leave on a tier: its release and its family. -/
def Tier.marks (t : Tier) : Option String × Option Family := (t.version, t.family)

/-- The tier once the object rendered for it is applied. -/
def Tier.marked (t : Tier) (family : Family) (release : String) : Tier :=
  { t with version := some release, family := some family }

namespace Tiers

/-- Master and node on one release in single-stack, with nothing left to roll out. -/
def steady (release : String) : Tiers :=
  let tier : Tier :=
    { version := some release, family := some .singleStack
      progress := { desired := 3, updated := 3, available := 3 } }
  { master := some tier, node := some tier }

/-! ## Passes -/

/-- The tiers after a pass for the desired family and the release. -/
def pass (t : Tiers) (family : Family) (release : String) : Tiers :=
  let decision := Decision.decide t family release
  { master :=
      if decision.updateMaster then some ((t.master.getD {}).marked family release) else t.master
    node := if decision.updateNode then some ((t.node.getD {}).marked family release) else t.node
    prepuller :=
      if decision.renderPrepull then some { t.prepuller.getD {} with version := some release }
      else t.prepuller }

theorem pass_master (t : Tiers) (family : Family) (release : String) :
    (t.pass family release).master =
      if (Decision.decide t family release).updateMaster then
        some ((t.master.getD {}).marked family release)
      else t.master := rfl

theorem pass_node (t : Tiers) (family : Family) (release : String) :
    (t.pass family release).node =
      if (Decision.decide t family release).updateNode then
        some ((t.node.getD {}).marked family release)
      else t.node := rfl

theorem pass_master_marks (t : Tiers) (family : Family) (release : String) :
    (t.pass family release).master.map Tier.marks =
      if (Decision.decide t family release).updateMaster then some (some release, some family)
      else t.master.map Tier.marks := by
  rw [pass_master]
  split <;> rfl

theorem pass_node_marks (t : Tiers) (family : Family) (release : String) :
    (t.pass family release).node.map Tier.marks =
      if (Decision.decide t family release).updateNode then some (some release, some family)
      else t.node.map Tier.marks := by
  rw [pass_node]
  split <;> rfl

theorem pass_prepuller_version (t : Tiers) (family : Family) (release : String) :
    (t.pass family release).prepuller.map Tier.version =
      if (Decision.decide t family release).renderPrepull then some (some release)
      else t.prepuller.map Tier.version := by
  unfold pass
  dsimp only
  split <;> rfl

/-- Drift that leaves master and node their marks. Counters, hang marks and the pre-puller are
free. -/
def SameMarks (t t' : Tiers) : Prop :=
  t'.master.map Tier.marks = t.master.map Tier.marks ∧
    t'.node.map Tier.marks = t.node.map Tier.marks

/-! ## Runs -/

/-- One move of a rollout: the tiers drift, or a pass is made. -/
inductive Move (Drift : Tiers → Tiers → Prop) (Pass : Tiers → Family → String → Prop) :
    Tiers → Tiers → Prop
  | drift {t t' : Tiers} : Drift t t' → Move Drift Pass t t'
  | pass {t : Tiers} (family : Family) (release : String) :
      Pass t family release → Move Drift Pass t (t.pass family release)

/-- The tiers that a run of moves reaches. -/
def Reaches (Drift : Tiers → Tiers → Prop) (Pass : Tiers → Family → String → Prop) :
    Tiers → Tiers → Prop := Relation.ReflTransGen (Move Drift Pass)

/-- An invariant of a run: it holds at the start, and neither drift nor a pass breaks it. -/
theorem Reaches.keeps {Drift : Tiers → Tiers → Prop} {Pass : Tiers → Family → String → Prop}
    {Inv : Tiers → Prop} {start t : Tiers} (h : Reaches Drift Pass start t) (hstart : Inv start)
    (hdrift : ∀ ⦃t t'⦄, Inv t → Drift t t' → Inv t')
    (hpass : ∀ ⦃t family release⦄, Inv t → Pass t family release → Inv (t.pass family release)) :
    Inv t := by
  induction h with
  | refl => exact hstart
  | tail _ move ih =>
    cases move with
    | drift d => exact hdrift ih d
    | pass family release p => exact hpass ih p

end Tiers

end NetworkRollout
