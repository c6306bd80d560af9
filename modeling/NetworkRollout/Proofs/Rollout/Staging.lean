import Mathlib.Logic.Basic
import NetworkRollout.Proofs.Rollout.Decision
import NetworkRollout.Proofs.Rollout.Run

/-!
# Staged updates of the node tier

The table of releases compares versions, the pre-puller compares texts, and either may let the node
tier go. Whichever does, a node tier that does not carry the release moves only behind a pre-puller
that has finished with exactly this release. And a decision always lets something happen: what holds
the node back is a master that may move, or a pre-puller that is rendered.

* `PrepullStage.not_ready_iff`: when the node update has to wait for the pre-puller.
* `Decision.staged`: what the three answers of a decision say of each other and of the tiers.
-/

namespace NetworkRollout

namespace PrepullStage

variable {node prepuller : Option Tier} {release : String}

/-- The pre-puller is there, on exactly the release, and has finished with it. -/
def Finished (prepuller : Option Tier) (release : String) : Prop :=
  ∃ p, prepuller = some p ∧ p.version = some release ∧ p.progressing true = false

/-- A node tier on another release waits for the pre-puller to finish. -/
theorem not_ready_iff : ¬ Ready node prepuller release ↔
    (∃ n, node = some n ∧ n.version ≠ some release) ∧ ¬ Finished prepuller release := by
  unfold Ready Finished
  rw [not_or]
  exact and_congr_left fun _ => by simp only [not_forall, exists_prop, ne_eq]

theorem finished_of_ready {n : Tier} (h : Ready (some n) prepuller release)
    (hn : n.version ≠ some release) : Finished prepuller release :=
  not_not.mp fun hunfinished => not_ready_iff.mpr ⟨⟨n, rfl, hn⟩, hunfinished⟩ h

end PrepullStage

namespace Decision

variable {t : Tiers} {family : Family} {release : String}

/-- The node tier and the pre-puller never move in one pass. -/
theorem updateNode_of_renderPrepull (h : (decide t family release).renderPrepull = true) :
    (decide t family release).updateNode = false := by
  obtain ⟨-, hunready⟩ := renderPrepull_iff.mp h
  exact Bool.eq_false_iff.mpr fun hnode => hunready (updateNode_iff.mp hnode).2

/-- Something may always happen: where the master is held back the node tier is free, and then it
moves or its image is pulled. -/
theorem updates_something (t : Tiers) (family : Family) (release : String) :
    (decide t family release).updateMaster = true ∨ (decide t family release).updateNode = true ∨
      (decide t family release).renderPrepull = true := by
  by_cases hmaster : (decide t family release).updateMaster = true
  · exact Or.inl hmaster
  · rw [updateMaster_eq] at hmaster
    have hfree := permission_node_of_holdsMaster (Bool.eq_false_iff.mpr hmaster)
    by_cases hready : PrepullStage.Ready t.node t.prepuller release
    · exact Or.inr (Or.inl (updateNode_iff.mpr ⟨hfree, hready⟩))
    · exact Or.inr (Or.inr (renderPrepull_iff.mpr ⟨hfree, hready⟩))

/-- A decision stages the node update and never idles. An existing node tier on another release is
updated only when the pre-puller has finished with exactly this release; the pre-puller is rendered
only for such a node tier, and instead of updating it; and something is always let go. -/
theorem staged (t : Tiers) (family : Family) (release : String) :
    let d := decide t family release
    (∀ node, t.node = some node → node.version ≠ some release → d.updateNode = true →
      ∃ p, t.prepuller = some p ∧ p.version = some release ∧ p.progressing true = false) ∧
    (d.renderPrepull = true →
      d.updateNode = false ∧ ∃ node, t.node = some node ∧ node.version ≠ some release) ∧
    (d.updateMaster = true ∨ d.updateNode = true ∨ d.renderPrepull = true) := by
  intro d
  refine ⟨?_, ?_, updates_something t family release⟩
  · intro node hnode hother hupdate
    have hready := (updateNode_iff.mp hupdate).2
    rw [hnode] at hready
    exact PrepullStage.finished_of_ready hready hother
  · intro hrender
    obtain ⟨-, hunready⟩ := renderPrepull_iff.mp hrender
    exact ⟨updateNode_of_renderPrepull hrender, (PrepullStage.not_ready_iff.mp hunready).1⟩

/-- A cluster between two releases: the master is there, the node is not, and the pre-puller hangs
with one of its ten replicas behind. -/
def hungPrepuller : Tiers where
  master := some { version := some "4.18.0", progress := settled 3 }
  node := some { version := some "4.17.0", progress := settled 10 }
  prepuller := some
    { version := some "4.18.0", hung := true
      progress := { settled 10 with updated := 9, unavailable := 1 } }
where
  settled (replicas : Int) : Progress :=
    { desired := replicas, updated := replicas, available := replicas }

theorem staged_hungPrepuller :
    (decide hungPrepuller .singleStack "4.18.0").updateNode = true ∧
      ∃ p, hungPrepuller.prepuller = some p ∧ p.version = some "4.18.0" ∧
        p.progressing true = false :=
  have hupdate : (decide hungPrepuller .singleStack "4.18.0").updateNode = true := by
    decide +kernel
  ⟨hupdate, (staged hungPrepuller .singleStack "4.18.0").1 _ rfl (by decide) hupdate⟩

end Decision

end NetworkRollout
