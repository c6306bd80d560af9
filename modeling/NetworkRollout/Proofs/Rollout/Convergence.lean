import Mathlib.Order.Nat
import NetworkRollout.Proofs.Rollout.Decision
import NetworkRollout.Proofs.Rollout.Run

/-!
# Rollouts converge

When every tier comes to rest between the passes, a rollout reaches its goal within three passes,
whatever it starts from and whether the releases read or not, and stays there.

* `Tiers.Converged`: the goal; master and node carry the release and the family.
* `Tiers.permission_of_masterThere`, `Tiers.permission_master_of_nodeThere`: a tier that is there
  never holds the other one back.
* `Tiers.Within`: how many passes the goal is away at most. The family may have to convert the
  master first, the pre-puller then has to pull, and one tier may have to wait for the other; these
  never add up to more than three.
* `Tiers.within_step`: each pass comes closer.
* `Tiers.converges_of_settledRun`: three passes suffice, and from the goal on nothing changes.
-/

namespace NetworkRollout.Tiers

/-! ## Settled tiers and their permission -/

/-- Every tier that exists is settled. -/
structure Settled (t : Tiers) : Prop where
  master : ∀ master, t.master = some master → master.progressing false = false
  node : ∀ node, t.node = some node → node.progressing false = false
  prepuller : ∀ prepuller, t.prepuller = some prepuller → prepuller.progressing false = false

/-- The master carries the release and the family. -/
def MasterThere (family : Family) (release : String) (t : Tiers) : Prop :=
  t.master.map Tier.marks = some (some release, some family)

/-- The node tier carries the release and the family. -/
def NodeThere (family : Family) (release : String) (t : Tiers) : Prop :=
  t.node.map Tier.marks = some (some release, some family)

/-- The pre-puller carries the release. -/
def Pulled (release : String) (t : Tiers) : Prop :=
  t.prepuller.map Tier.version = some (some release)

variable {t t' : Tiers} {family : Family} {release : String}

theorem tier_of_marks {o : Option Tier} (h : o.map Tier.marks = some (some release, some family)) :
    ∃ tier, o = some tier ∧ tier.version = some release ∧ tier.family = some family := by
  obtain ⟨tier, rfl, hmarks⟩ := Option.map_eq_some_iff.mp h
  exact ⟨tier, rfl, congrArg Prod.fst hmarks, congrArg Prod.snd hmarks⟩

theorem classify_deployed_self (hr : release ≠ "") {tier : Tier}
    (hv : tier.version = some release) :
    ReleaseChange.classify (Permission.deployedRelease tier) release = .same := by
  rw [Permission.deployedRelease, hv]
  exact ReleaseChange.classify_self hr

/-- A settled master on the release holds nothing back: the family gate is open, and no change of
the node waits for it. -/
theorem permission_of_masterThere (hr : release ≠ "") (hs : t.Settled)
    (h : t.MasterThere family release) : Decision.permission t family release = .both := by
  obtain ⟨master, hm, hv, hf⟩ := tier_of_marks h
  have hsettled := hs.master master hm
  cases hn : t.node with
  | none => exact Decision.permission_of_absent (Or.inl hn)
  | some node =>
    have hopen : ¬ Permission.Converting node master family := by
      rintro ⟨-, -, hc⟩
      rcases hc with hc | ⟨-, hc⟩
      · exact hc hf
      · rw [hsettled] at hc
        cases hc
    rw [Decision.permission_of_tiers hn hm, if_neg hopen, classify_deployed_self hr hv]
    cases ReleaseChange.classify (Permission.deployedRelease node) release with
    | upgrade => rfl
    | same => rfl
    | downgrade => simp [Permission.ofChanges, hsettled]
    | unknown => rfl

/-- The master never waits for a settled node on the release. -/
theorem permission_master_of_nodeThere (hr : release ≠ "") (hs : t.Settled)
    (h : t.NodeThere family release) : (Decision.permission t family release).master = true := by
  obtain ⟨node, hn, hv, -⟩ := tier_of_marks h
  have hsettled := Tier.progressing_true_of_false (hs.node node hn)
  cases hm : t.master with
  | none =>
    rw [Decision.permission_of_absent (Or.inr hm)]
    rfl
  | some master =>
    rw [Decision.permission_of_tiers hn hm, classify_deployed_self hr hv]
    split
    · rfl
    · apply Bool.not_eq_false _ |>.mp
      intro hheld
      obtain ⟨-, hc | ⟨-, hc⟩⟩ := Permission.ofChanges_master_eq_false_iff.mp hheld
      · cases hc
      · rw [hsettled] at hc
        cases hc

/-- Among settled tiers the permission depends on the marks alone. -/
theorem permission_congr (hs : t.Settled) (hs' : t'.Settled) (h : SameMarks t t') :
    Decision.permission t' family release = Decision.permission t family release := by
  obtain ⟨hmaster, hnode⟩ := h
  cases hm : t.master with
  | none =>
    rw [hm] at hmaster
    rw [Decision.permission_of_absent (Or.inr hm),
      Decision.permission_of_absent (Or.inr (Option.map_eq_none_iff.mp hmaster))]
  | some master =>
    cases hn : t.node with
    | none =>
      rw [hn] at hnode
      rw [Decision.permission_of_absent (Or.inl hn),
        Decision.permission_of_absent (Or.inl (Option.map_eq_none_iff.mp hnode))]
    | some node =>
      rw [hm] at hmaster
      rw [hn] at hnode
      obtain ⟨master', hm', hmm⟩ := Option.map_eq_some_iff.mp hmaster
      obtain ⟨node', hn', hnm⟩ := Option.map_eq_some_iff.mp hnode
      obtain ⟨hmv, hmf⟩ := Prod.mk.inj hmm
      obtain ⟨hnv, hnf⟩ := Prod.mk.inj hnm
      have hmp := (hs'.master master' hm').trans (hs.master master hm).symm
      have hnp := (Tier.progressing_true_of_false (hs'.node node' hn')).trans
        (Tier.progressing_true_of_false (hs.node node hn)).symm
      have hconv : Permission.Converting node' master' family ↔
          Permission.Converting node master family := by
        unfold Permission.Converting
        rw [hnf, hmf, hmp]
      rw [Decision.permission_of_tiers hn hm, Decision.permission_of_tiers hn' hm']
      by_cases hc : Permission.Converting node master family
      · rw [if_pos hc, if_pos (hconv.mpr hc)]
      · rw [if_neg hc, if_neg (hc ∘ hconv.mp), Permission.ofChanges_congr hnp hmp]
        unfold Permission.deployedRelease
        rw [hmv, hnv]

theorem ready_of_pulled (hs : t.Settled) (h : t.Pulled release) :
    PrepullStage.Ready t.node t.prepuller release := by
  obtain ⟨prepuller, hp, hv⟩ := Option.map_eq_some_iff.mp h
  exact Or.inr ⟨prepuller, hp, hv, Tier.progressing_true_of_false (hs.prepuller prepuller hp)⟩

theorem ready_of_nodeThere (h : t.NodeThere family release) :
    PrepullStage.Ready t.node t.prepuller release := by
  obtain ⟨node, hn, hv, -⟩ := tier_of_marks h
  refine Or.inl ?_
  intro n hn'
  rw [hn] at hn'
  cases hn'
  exact hv

/-! ## The distance to the goal -/

/-- Master and node carry the release and the family. -/
def Converged (family : Family) (release : String) (t : Tiers) : Prop :=
  t.MasterThere family release ∧ t.NodeThere family release

/-- The tiers keep all their marks. -/
def KeepMarks (t t' : Tiers) : Prop :=
  SameMarks t t' ∧ t'.prepuller.map Tier.marks = t.prepuller.map Tier.marks

/-- A pass over settled tiers, after which they settle again. -/
structure SettledStep (family : Family) (release : String) (t t' : Tiers) : Prop where
  before : t.Settled
  after : t'.Settled
  marks : KeepMarks (t.pass family release) t'

/-- A run of passes between which all tiers settle. Only the marks are told; counters, hang marks
and names are free. -/
structure SettledRun (family : Family) (release : String) (s : Nat → Tiers) : Prop where
  settled : ∀ i, (s i).Settled
  pass : ∀ i, KeepMarks ((s i).pass family release) (s (i + 1))

/-- The goal is at most so many passes away. -/
def Within (family : Family) (release : String) : Nat → Tiers → Prop
  | 0, t => t.Converged family release
  | 1, t => t.NodeThere family release ∨ t.MasterThere family release ∧ t.Pulled release
  | 2, t =>
    t.MasterThere family release ∨ t.NodeThere family release ∨
      t.Pulled release ∧ (Decision.permission t family release).node = true
  | _, _ => True

namespace SettledStep

variable (h : SettledStep family release t t')
include h

theorem masterThere_iff : t'.MasterThere family release ↔
    (t.pass family release).MasterThere family release := by
  unfold MasterThere
  rw [h.marks.1.1]

theorem nodeThere_iff : t'.NodeThere family release ↔
    (t.pass family release).NodeThere family release := by
  unfold NodeThere
  rw [h.marks.1.2]

theorem pulled_iff : t'.Pulled release ↔ (t.pass family release).Pulled release := by
  have key : ∀ o : Option Tier, o.map Tier.version = (o.map Tier.marks).map Prod.fst := by
    intro o
    cases o <;> rfl
  unfold Pulled
  rw [key, h.marks.2, ← key]

theorem masterThere_of_permission (hp : (Decision.permission t family release).master = true) :
    t'.MasterThere family release := by
  rw [h.masterThere_iff, MasterThere, pass_master_marks, Decision.updateMaster_eq, if_pos hp]

theorem masterThere (hm : t.MasterThere family release) : t'.MasterThere family release := by
  rw [h.masterThere_iff, MasterThere, pass_master_marks]
  split
  · rfl
  · exact hm

theorem nodeThere (hn : t.NodeThere family release) : t'.NodeThere family release := by
  rw [h.nodeThere_iff, NodeThere, pass_node_marks]
  split
  · rfl
  · exact hn

theorem nodeThere_of_ready (hp : (Decision.permission t family release).node = true)
    (hready : PrepullStage.Ready t.node t.prepuller release) : t'.NodeThere family release := by
  rw [h.nodeThere_iff, NodeThere, pass_node_marks, if_pos (Decision.updateNode_iff.mpr ⟨hp, hready⟩)]

theorem pulled_of_not_ready (hp : (Decision.permission t family release).node = true)
    (hready : ¬ PrepullStage.Ready t.node t.prepuller release) : t'.Pulled release := by
  rw [h.pulled_iff, Pulled, pass_prepuller_version,
    if_pos (Decision.renderPrepull_iff.mpr ⟨hp, hready⟩)]

/-- A node that may move is there after the pass, or the image is. -/
theorem nodeThere_or_pulled (hp : (Decision.permission t family release).node = true) :
    t'.NodeThere family release ∨ t'.Pulled release := by
  by_cases hready : PrepullStage.Ready t.node t.prepuller release
  · exact Or.inl (h.nodeThere_of_ready hp hready)
  · exact Or.inr (h.pulled_of_not_ready hp hready)

/-- A pass that holds the master and waits for the image leaves the marks of both tiers. -/
theorem sameMarks_of_not_ready (hp : (Decision.permission t family release).master = false)
    (hready : ¬ PrepullStage.Ready t.node t.prepuller release) : SameMarks t t' := by
  have hm : (Decision.decide t family release).updateMaster = false := by
    rw [Decision.updateMaster_eq, hp]
  have hn : (Decision.decide t family release).updateNode = false :=
    Bool.eq_false_iff.mpr fun hu => hready (Decision.updateNode_iff.mp hu).2
  constructor
  · rw [h.marks.1.1, pass_master_marks, hm]
    rfl
  · rw [h.marks.1.2, pass_node_marks, hn]
    rfl

end SettledStep

/-! ## Each pass comes closer -/

theorem within_step (hr : release ≠ "") (h : SettledStep family release t t') :
    ∀ n, Within family release (n + 1) t → Within family release n t'
  | 0, hw => by
    rcases hw with hnode | ⟨hmaster, hpulled⟩
    · exact ⟨h.masterThere_of_permission (permission_master_of_nodeThere hr h.before hnode),
        h.nodeThere hnode⟩
    · have hboth := permission_of_masterThere hr h.before hmaster
      exact ⟨h.masterThere hmaster,
        h.nodeThere_of_ready (by rw [hboth]; rfl) (ready_of_pulled h.before hpulled)⟩
  | 1, hw => by
    rcases hw with hmaster | hnode | ⟨hpulled, hfree⟩
    · have hboth := permission_of_masterThere hr h.before hmaster
      rcases h.nodeThere_or_pulled (by rw [hboth]; rfl) with hnode | hpulled
      · exact Or.inl hnode
      · exact Or.inr ⟨h.masterThere hmaster, hpulled⟩
    · exact Or.inl (h.nodeThere hnode)
    · exact Or.inl (h.nodeThere_of_ready hfree (ready_of_pulled h.before hpulled))
  | 2, _ => by
    cases hmaster : (Decision.permission t family release).master with
    | true => exact Or.inl (h.masterThere_of_permission hmaster)
    | false =>
      have hfree := Decision.permission_node_of_holdsMaster hmaster
      by_cases hready : PrepullStage.Ready t.node t.prepuller release
      · exact Or.inr (Or.inl (h.nodeThere_of_ready hfree hready))
      · -- the node still waits for the image: it is free to move in the next pass as well
        have hsame := h.sameMarks_of_not_ready hmaster hready
        refine Or.inr (Or.inr ⟨h.pulled_of_not_ready hfree hready, ?_⟩)
        rw [permission_congr h.before h.after hsame]
        exact hfree
  | n + 3, _ => trivial

theorem decide_of_converged (hr : release ≠ "") (hs : t.Settled)
    (h : t.Converged family release) :
    Decision.decide t family release = ⟨true, true, false⟩ := by
  have hboth := permission_of_masterThere hr hs h.1
  have hready := ready_of_nodeThere h.2
  unfold Decision.decide
  rw [hboth, PrepullStage.of_eq_proceed hready]
  rfl

theorem keepMarks_of_converged (hr : release ≠ "") (hs : t.Settled)
    (h : t.Converged family release) : KeepMarks t (t.pass family release) := by
  have hd := decide_of_converged hr hs h
  refine ⟨⟨?_, ?_⟩, ?_⟩
  · rw [pass_master_marks, hd]
    exact h.1.symm
  · rw [pass_node_marks, hd]
    exact h.2.symm
  · unfold pass
    rw [hd]
    rfl

/-! ## Whole rollouts -/

theorem SettledRun.step {s : Nat → Tiers} (h : SettledRun family release s) (i : Nat) :
    SettledStep family release (s i) (s (i + 1)) := ⟨h.settled i, h.settled (i + 1), h.pass i⟩

/-- **Convergence.** Three passes over settled tiers bring master and node to the release and the
family, from whatever is there at the start. Once they are there, every pass permits both and marks
nothing anew. -/
theorem converges_of_settledRun {s : Nat → Tiers} (hr : release ≠ "")
    (h : SettledRun family release s) :
    (s 3).Converged family release ∧
      ∀ k, (s k).Converged family release → ∀ i, k ≤ i →
        (s i).Converged family release ∧
          Decision.decide (s i) family release = ⟨true, true, false⟩ ∧
          KeepMarks (s i) ((s i).pass family release) := by
  constructor
  · have h1 : Within family release 2 (s 1) := within_step hr (h.step 0) 2 trivial
    have h2 : Within family release 1 (s 2) := within_step hr (h.step 1) 1 h1
    exact within_step hr (h.step 2) 0 h2
  · intro k hk i hi
    have hconv : (s i).Converged family release := by
      induction i, hi using Nat.le_induction with
      | base => exact hk
      | succ i _ ih => exact within_step hr (h.step i) 0 (Or.inl ih.2)
    exact ⟨hconv, decide_of_converged hr (h.settled i) hconv,
      keepMarks_of_converged hr (h.settled i) hconv⟩

/-! ## Settling at once -/

/-- The tiers with every rollout completed and every mark as it is. -/
def settle (t : Tiers) : Tiers :=
  let complete (tier : Tier) : Tier :=
    { tier with progress := { desired := 1, updated := 1, available := 1 } }
  { master := t.master.map complete, node := t.node.map complete
    prepuller := t.prepuller.map complete }

theorem settled_settle (t : Tiers) : t.settle.Settled := by
  constructor
  all_goals
    intro tier h
    obtain ⟨_, -, rfl⟩ := Option.map_eq_some_iff.mp h
    rfl

theorem keepMarks_settle (t : Tiers) : KeepMarks t t.settle := by
  simp only [KeepMarks, SameMarks, settle, Option.map_map]
  exact ⟨⟨rfl, rfl⟩, rfl⟩

/-- From every start there is a run: the tiers settle at once after each pass. -/
def settlingRun (family : Family) (release : String) (start : Tiers) : Nat → Tiers
  | 0 => start.settle
  | i + 1 => ((settlingRun family release start i).pass family release).settle

theorem settledRun_settlingRun (family : Family) (release : String) (start : Tiers) :
    SettledRun family release (settlingRun family release start) := by
  constructor
  · intro i
    cases i with
    | zero => exact settled_settle _
    | succ i => exact settled_settle _
  · intro i
    exact keepMarks_settle _

/-- An upgrade together with a conversion to dual-stack takes all three passes: the master is
converted, the image is pulled, the node follows. -/
theorem converges_of_upgrade_and_conversion :
    ("4.11.0" ≠ "" ∧
      SettledRun .dualStack "4.11.0" (settlingRun .dualStack "4.11.0" (steady "4.10.0"))) ∧
      (settlingRun .dualStack "4.11.0" (steady "4.10.0") 3).Converged .dualStack "4.11.0" ∧
      Decision.decide (settlingRun .dualStack "4.11.0" (steady "4.10.0") 4) .dualStack "4.11.0" =
        ⟨true, true, false⟩ := by
  have hr : "4.11.0" ≠ "" := by decide
  have hrun := settledRun_settlingRun .dualStack "4.11.0" (steady "4.10.0")
  obtain ⟨hthree, hstay⟩ := converges_of_settledRun hr hrun
  exact ⟨⟨hr, hrun⟩, hthree, (hstay 3 hthree 4 (by decide)).2.1⟩

end NetworkRollout.Tiers
