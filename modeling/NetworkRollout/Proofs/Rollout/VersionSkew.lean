import Mathlib.Tactic.ByContra
import NetworkRollout.Proofs.Rollout.Decision
import NetworkRollout.Proofs.Rollout.Run

/-!
# The version skew of a rollout

A master may lag behind its nodes but must not run ahead of them. Passes keep this whatever the
releases they head for: the target may change at any moment of a rollout, forwards or backwards.

* `Tiers.MasterNotAfterNode`: the invariant; both tiers exist, their releases read, and the
  master's is not newer than the node's.
* `Tiers.VersionCase`: a pass between readable releases with no conversion of the family in sight.
  There the decision is the table of changes at the precedences (`VersionCase.permission_eq`).
* `Tiers.masterNotAfterNode_of_reaches`: the invariant holds all along a run, and a pass raises the
  master only when the node is settled on the release, or has to come down to it from above.
* `Tiers.not_raised_only_onto_settled_node`: the second of these does happen. A master below and a
  node above the release are inconsistent for the table, which then lets both move.
-/

namespace NetworkRollout

/-- The version that a tier is deployed in, when it carries one that reads. -/
def Tier.release? (t : Tier) : Option Version := t.version.bind releaseVersion?

theorem releaseVersion?_deployedRelease (t : Tier) :
    releaseVersion? (Permission.deployedRelease t) = t.release? := by
  unfold Permission.deployedRelease Tier.release?
  cases t.version with
  | none => rfl
  | some version => rfl

namespace Tiers

/-! ## The invariant and the runs -/

/-- The version that the master is deployed in. -/
def masterRelease? (t : Tiers) : Option Version := t.master.bind Tier.release?

/-- The version that the node tier is deployed in. -/
def nodeRelease? (t : Tiers) : Option Version := t.node.bind Tier.release?

/-- Both tiers exist, their releases read, and the master's is not newer. -/
def MasterNotAfterNode (t : Tiers) : Prop :=
  ∃ v w, t.masterRelease? = some v ∧ t.nodeRelease? = some w ∧ v.NotAfter w

/-- Drift that leaves master and node their releases. Counters, marks and the pre-puller are free. -/
def SameReleases (t t' : Tiers) : Prop :=
  t'.master.map Tier.version = t.master.map Tier.version ∧
    t'.node.map Tier.version = t.node.map Tier.version

/-- A pass for a release that reads, with no conversion of the family in sight: one of the two
marks is missing, or both name the desired family. -/
structure VersionPass (t : Tiers) (family : Family) (release : String) : Prop where
  reads : ∃ r, releaseVersion? release = some r
  unconverted : ∀ master node, t.master = some master → t.node = some node →
    master.family = none ∨ node.family = none ∨
      master.family = some family ∧ node.family = some family

/-- A pass deploys the master in a version of higher precedence. -/
def RaisesMaster (t : Tiers) (family : Family) (release : String) : Prop :=
  ∃ v v', t.masterRelease? = some v ∧ (t.pass family release).masterRelease? = some v' ∧
    v.precedence v' = .lt

/-! ## One pass -/

theorem masterRelease?_pass (t : Tiers) (family : Family) (release : String) :
    (t.pass family release).masterRelease? =
      if (Decision.decide t family release).updateMaster then releaseVersion? release
      else t.masterRelease? := by
  unfold masterRelease?
  rw [pass_master]
  split <;> rfl

theorem nodeRelease?_pass (t : Tiers) (family : Family) (release : String) :
    (t.pass family release).nodeRelease? =
      if (Decision.decide t family release).updateNode then releaseVersion? release
      else t.nodeRelease? := by
  unfold nodeRelease?
  rw [pass_node]
  split <;> rfl

/-- The data of a pass between releases: both tiers exist, all releases read, and the family marks
leave the decision to the releases. -/
structure VersionCase (t : Tiers) (family : Family) (release : String) (master node : Tier)
    (v w r : Version) : Prop where
  foundMaster : t.master = some master
  foundNode : t.node = some node
  masterReads : master.release? = some v
  nodeReads : node.release? = some w
  reads : releaseVersion? release = some r
  unconverted : ¬ Permission.Converting node master family

theorem VersionPass.case {t : Tiers} {family : Family} {release : String} {v w : Version}
    (hpass : t.VersionPass family release) (hv : t.masterRelease? = some v)
    (hw : t.nodeRelease? = some w) :
    ∃ master node r, t.VersionCase family release master node v w r := by
  obtain ⟨master, hm, hmr⟩ := Option.bind_eq_some_iff.mp hv
  obtain ⟨node, hn, hnr⟩ := Option.bind_eq_some_iff.mp hw
  obtain ⟨r, hr⟩ := hpass.reads
  refine ⟨master, node, r, hm, hn, hmr, hnr, hr, ?_⟩
  rintro ⟨hnode, hmaster, hconv⟩
  rcases hpass.unconverted master node hm hn with hnone | hnone | ⟨hmf, hnf⟩
  · exact hmaster hnone
  · exact hnode hnone
  · rcases hconv with h | ⟨h, -⟩
    · exact h hmf
    · exact h hnf

namespace VersionCase

variable {t : Tiers} {family : Family} {release : String} {master node : Tier} {v w r : Version}

theorem masterRelease?_eq (c : t.VersionCase family release master node v w r) :
    t.masterRelease? = some v := by
  rw [masterRelease?, c.foundMaster]
  exact c.masterReads

theorem nodeRelease?_eq (c : t.VersionCase family release master node v w r) :
    t.nodeRelease? = some w := by
  rw [nodeRelease?, c.foundNode]
  exact c.nodeReads

theorem permission_eq (c : t.VersionCase family release master node v w r) :
    Decision.permission t family release =
      .ofChanges (.ofOrdering (w.precedence r)) (.ofOrdering (v.precedence r)) node master := by
  have hn := (releaseVersion?_deployedRelease node).trans c.nodeReads
  have hm := (releaseVersion?_deployedRelease master).trans c.masterReads
  rw [Decision.permission_of_tiers c.foundNode c.foundMaster, if_neg c.unconverted,
    ReleaseChange.classify_of_versions hn c.reads, ReleaseChange.classify_of_versions hm c.reads]

/-- The master is held exactly while it is older and the node is older too or still rolling. -/
theorem holdsMaster_iff (c : t.VersionCase family release master node v w r) :
    (Decision.decide t family release).updateMaster = false ↔
      v.precedence r = .lt ∧
        (w.precedence r = .lt ∨ w.precedence r = .eq ∧ node.progressing true = true) := by
  rw [Decision.updateMaster_eq, c.permission_eq, Permission.ofChanges_master_eq_false_iff,
    ReleaseChange.ofOrdering_eq_upgrade_iff, ReleaseChange.ofOrdering_eq_upgrade_iff,
    ReleaseChange.ofOrdering_eq_same_iff]

/-- A node that is older than the release is older than the master would become, and with the
invariant the master is older as well: the table then holds the master. -/
theorem release_notAfter_node (c : t.VersionCase family release master node v w r)
    (hvw : v.NotAfter w) (hm : (Decision.decide t family release).updateMaster = true) :
    r.NotAfter w := by
  by_contra hrw
  have hwr : w.precedence r = .lt := Std.OrientedCmp.lt_of_not_isLE hrw
  have hvr : v.precedence r = .lt := Std.TransCmp.lt_of_isLE_of_lt hvw hwr
  have hheld := c.holdsMaster_iff.mpr ⟨hvr, Or.inl hwr⟩
  rw [hm] at hheld
  cases hheld

/-- **One pass keeps the skew.** -/
theorem masterNotAfterNode_pass (c : t.VersionCase family release master node v w r)
    (hvw : v.NotAfter w) : (t.pass family release).MasterNotAfterNode := by
  unfold MasterNotAfterNode
  rw [masterRelease?_pass, nodeRelease?_pass, c.reads, c.masterRelease?_eq, c.nodeRelease?_eq]
  cases hm : (Decision.decide t family release).updateMaster with
  | true =>
    cases (Decision.decide t family release).updateNode with
    | true => exact ⟨r, r, rfl, rfl, Version.NotAfter.refl r⟩
    | false => exact ⟨r, w, rfl, rfl, c.release_notAfter_node hvw hm⟩
  | false =>
    cases (Decision.decide t family release).updateNode with
    | true => exact ⟨v, r, rfl, rfl, Ordering.isLE_of_eq_lt (c.holdsMaster_iff.mp hm).1⟩
    | false => exact ⟨v, w, rfl, rfl, hvw⟩

theorem precedence_lt_of_raises (c : t.VersionCase family release master node v w r)
    (h : t.RaisesMaster family release) :
    (Decision.decide t family release).updateMaster = true ∧ v.precedence r = .lt := by
  obtain ⟨v₀, v', hv₀, hv', hlt⟩ := h
  rw [c.masterRelease?_eq] at hv₀
  cases hv₀
  rw [masterRelease?_pass, c.reads, c.masterRelease?_eq] at hv'
  cases hm : (Decision.decide t family release).updateMaster with
  | true =>
    rw [hm] at hv'
    cases hv'
    exact ⟨rfl, hlt⟩
  | false =>
    rw [hm] at hv'
    cases hv'
    have hself : v.precedence v = .eq := Std.ReflCmp.compare_self
    rw [hself] at hlt
    cases hlt

/-- A pass that raises the master finds the node settled on the release, or above it. -/
theorem node_of_raises (c : t.VersionCase family release master node v w r)
    (h : t.RaisesMaster family release) :
    w.precedence r = .eq ∧ node.progressing true = false ∨ w.precedence r = .gt := by
  obtain ⟨hm, hvr⟩ := c.precedence_lt_of_raises h
  have hfree : ¬ (w.precedence r = .lt ∨ w.precedence r = .eq ∧ node.progressing true = true) := by
    intro hheld
    have := c.holdsMaster_iff.mpr ⟨hvr, hheld⟩
    rw [hm] at this
    cases this
  cases hwr : w.precedence r with
  | lt => exact absurd (Or.inl hwr) hfree
  | eq =>
    refine Or.inl ⟨rfl, ?_⟩
    exact Bool.eq_false_iff.mpr fun hp => hfree (Or.inr ⟨hwr, hp⟩)
  | gt => exact Or.inr rfl

end VersionCase

/-! ## Whole rollouts -/

theorem SameReleases.releases_eq {t t' : Tiers} (h : SameReleases t t') :
    t'.masterRelease? = t.masterRelease? ∧ t'.nodeRelease? = t.nodeRelease? := by
  have key : ∀ o : Option Tier, o.bind Tier.release? =
      (o.map Tier.version).bind (·.bind releaseVersion?) := by
    intro o
    cases o <;> rfl
  constructor
  · rw [masterRelease?, masterRelease?, key, h.1, key]
  · rw [nodeRelease?, nodeRelease?, key, h.2, key]

/-- **The version skew of a rollout.** Along a run of passes for releases that read, the master
never gets newer than the node; and a pass raises the master only when it finds the node settled on
the release, or newer than the release. -/
theorem masterNotAfterNode_of_reaches {start t : Tiers} (hstart : start.MasterNotAfterNode)
    (hrun : Reaches SameReleases VersionPass start t) :
    t.MasterNotAfterNode ∧
      ∀ family release, t.VersionPass family release → t.RaisesMaster family release →
        ∃ node w r, t.node = some node ∧ node.release? = some w ∧
          releaseVersion? release = some r ∧
          (w.precedence r = .eq ∧ node.progressing true = false ∨ w.precedence r = .gt) := by
  have hinv : t.MasterNotAfterNode := by
    refine hrun.keeps hstart ?_ ?_
    · rintro t t' ⟨v, w, hv, hw, hvw⟩ hdrift
      obtain ⟨hm, hn⟩ := hdrift.releases_eq
      exact ⟨v, w, hm.trans hv, hn.trans hw, hvw⟩
    · rintro t family release ⟨v, w, hv, hw, hvw⟩ hpass
      obtain ⟨master, node, r, c⟩ := hpass.case hv hw
      exact c.masterNotAfterNode_pass hvw
  refine ⟨hinv, ?_⟩
  intro family release hpass hraise
  obtain ⟨v, w, hv, hw, -⟩ := hinv
  obtain ⟨master, node, r, c⟩ := hpass.case hv hw
  exact ⟨node, w, r, c.foundNode, c.nodeReads, c.reads, c.node_of_raises hraise⟩

/-! ## The inconsistent cell of the table -/

/-- Both tiers on 4.10.0, and the image of 4.12.0 on every node. -/
def level : Tiers :=
  { steady "4.10.0" with prepuller := (steady "4.12.0").node }

/-- A rollout to 4.12.0 that has moved the node but not yet the master. -/
def halfway : Tiers := level.pass .singleStack "4.12.0"

theorem level_masterNotAfterNode : level.MasterNotAfterNode :=
  ⟨⟨4, 10, 0, []⟩, ⟨4, 10, 0, []⟩, by decide, by decide, by decide⟩

theorem reaches_halfway : Reaches SameReleases VersionPass level halfway := by
  refine .single (.pass .singleStack "4.12.0" ⟨⟨⟨4, 12, 0, []⟩, by decide⟩, ?_⟩)
  rintro _ _ ⟨rfl⟩ ⟨rfl⟩
  exact Or.inr (Or.inr ⟨rfl, rfl⟩)

/-- The target is taken back to 4.11.0, which lies between the two tiers. -/
theorem halfway_versionPass : halfway.VersionPass .singleStack "4.11.0" := by
  refine ⟨⟨⟨4, 11, 0, []⟩, by decide⟩, ?_⟩
  intro master node hm hn
  have hmaster : halfway.master.bind Tier.family = some .singleStack := by decide
  have hnode : halfway.node.bind Tier.family = some .singleStack := by decide
  rw [hm] at hmaster
  rw [hn] at hnode
  exact Or.inr (Or.inr ⟨hmaster, hnode⟩)

theorem halfway_raisesMaster : halfway.RaisesMaster .singleStack "4.11.0" :=
  ⟨⟨4, 10, 0, []⟩, ⟨4, 11, 0, []⟩, by decide, by decide, by decide⟩

theorem masterNotAfterNode_halfway :
    (level.MasterNotAfterNode ∧ Reaches SameReleases VersionPass level halfway) ∧
      halfway.MasterNotAfterNode ∧
      ∃ node w r, halfway.node = some node ∧ node.release? = some w ∧
        releaseVersion? "4.11.0" = some r ∧
        (w.precedence r = .eq ∧ node.progressing true = false ∨ w.precedence r = .gt) := by
  obtain ⟨hinv, hraised⟩ := masterNotAfterNode_of_reaches level_masterNotAfterNode reaches_halfway
  exact ⟨⟨level_masterNotAfterNode, reaches_halfway⟩, hinv,
    hraised .singleStack "4.11.0" halfway_versionPass halfway_raisesMaster⟩

/-- A pass may raise the master although the node is not on the release: with the node above and
the master below it the table knows no order and lets both move. -/
theorem not_raised_only_onto_settled_node :
    ¬ ∀ start t family release, start.MasterNotAfterNode →
      Reaches SameReleases VersionPass start t → t.VersionPass family release →
      t.RaisesMaster family release →
      ∃ node w r, t.node = some node ∧ node.release? = some w ∧
        releaseVersion? release = some r ∧ w.precedence r = .eq ∧
        node.progressing true = false := by
  intro h
  obtain ⟨node, w, r, hn, hw, hr, heq, -⟩ := h level halfway .singleStack "4.11.0"
    level_masterNotAfterNode reaches_halfway halfway_versionPass halfway_raisesMaster
  have hwv : halfway.nodeRelease? = some ⟨4, 12, 0, []⟩ := by decide
  rw [nodeRelease?, hn, Option.bind_some, hw] at hwv
  have hrv : releaseVersion? "4.11.0" = some ⟨4, 11, 0, []⟩ := by decide
  rw [hr] at hrv
  cases hwv
  cases hrv
  revert heq
  decide

end Tiers

end NetworkRollout
