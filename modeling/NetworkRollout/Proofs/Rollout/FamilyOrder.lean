import NetworkRollout.Proofs.Rollout.Decision
import NetworkRollout.Proofs.Rollout.Run

/-!
# The order of a family conversion

A change of the address family reaches the master first and the node only once the master is
converted and settled; a hang mark does not count as settled here. The order holds whatever the
releases of the tiers are, and whatever releases and families the passes head for.

* `Tiers.decide_of_converting`: while the conversion is at the master, a pass updates the master
  alone.
* `Tiers.settledMaster_of_nodeFamily?_ne`: a pass that changes the family mark of the node finds
  the master converted and settled.
* `Tiers.familyOrder_of_reaches`: both along every run, and, for one desired family, that a
  converted node always stands under a converted master.
-/

namespace NetworkRollout.Tiers

/-- The family mark of the master. -/
def masterFamily? (t : Tiers) : Option Family := t.master.bind Tier.family

/-- The family mark of the node tier. -/
def nodeFamily? (t : Tiers) : Option Family := t.node.bind Tier.family

/-- Both tiers exist and carry family marks. -/
def BothMarked (t : Tiers) : Prop := t.masterFamily? ≠ none ∧ t.nodeFamily? ≠ none

/-! ## One pass -/

variable {t : Tiers} {family : Family} {release : String}

theorem masterFamily?_pass (t : Tiers) (family : Family) (release : String) :
    (t.pass family release).masterFamily? =
      if (Decision.decide t family release).updateMaster then some family
      else t.masterFamily? := by
  unfold masterFamily?
  rw [pass_master]
  split <;> rfl

theorem nodeFamily?_pass (t : Tiers) (family : Family) (release : String) :
    (t.pass family release).nodeFamily? =
      if (Decision.decide t family release).updateNode then some family
      else t.nodeFamily? := by
  unfold nodeFamily?
  rw [pass_node]
  split <;> rfl

theorem BothMarked.pass (h : t.BothMarked) : (t.pass family release).BothMarked := by
  obtain ⟨hm, hn⟩ := h
  constructor
  · rw [masterFamily?_pass]
    split
    · exact Option.some_ne_none family
    · exact hm
  · rw [nodeFamily?_pass]
    split
    · exact Option.some_ne_none family
    · exact hn

theorem decide_of_converting {master node : Tier} (hm : t.master = some master)
    (hn : t.node = some node) (hc : Permission.Converting node master family) :
    Decision.decide t family release = ⟨true, false, false⟩ := by
  apply Decision.decide_of_masterOnly
  rw [Decision.permission_of_tiers hn hm, if_pos hc]

/-- A pass changes the family mark of the node only below a master that is converted and settled.
The settled master is told by its counters alone, so a hang mark cannot release the node. -/
theorem settledMaster_of_nodeFamily?_ne (h : t.BothMarked)
    (hne : (t.pass family release).nodeFamily? ≠ t.nodeFamily?) :
    (t.pass family release).nodeFamily? = some family ∧
      ∃ master, t.master = some master ∧ master.family = some family ∧
        master.progress.incomplete = false := by
  obtain ⟨mf, hmf⟩ := Option.ne_none_iff_exists'.mp h.1
  obtain ⟨nf, hnf⟩ := Option.ne_none_iff_exists'.mp h.2
  obtain ⟨master, hm, hmaster⟩ := Option.bind_eq_some_iff.mp hmf
  obtain ⟨node, hn, hnode⟩ := Option.bind_eq_some_iff.mp hnf
  have hupd : (Decision.decide t family release).updateNode = true := by
    apply Bool.not_eq_false _ |>.mp
    intro hheld
    rw [nodeFamily?_pass, hheld] at hne
    exact hne rfl
  have hfamily : (t.pass family release).nodeFamily? = some family := by
    rw [nodeFamily?_pass, if_pos hupd]
  have hnot : ¬ Permission.Converting node master family := by
    intro hc
    rw [decide_of_converting hm hn hc] at hupd
    cases hupd
  have hother : node.family ≠ some family := by
    intro heq
    rw [hfamily, hnf, ← hnode, heq] at hne
    exact hne rfl
  have hconv : ¬ (master.family ≠ some family ∨
      node.family ≠ some family ∧ master.progressing false = true) := fun hc =>
    hnot ⟨by simp [hnode], by simp [hmaster], hc⟩
  obtain ⟨hmf', hsettled⟩ := not_or.mp hconv
  refine ⟨hfamily, master, hm, Classical.not_not.mp hmf', ?_⟩
  rw [← Tier.progressing_false_eq]
  exact Bool.eq_false_iff.mpr fun hp => hsettled ⟨hother, hp⟩

/-! ## Whole rollouts -/

theorem SameMarks.families_eq {t t' : Tiers} (h : SameMarks t t') :
    t'.masterFamily? = t.masterFamily? ∧ t'.nodeFamily? = t.nodeFamily? := by
  have key : ∀ o : Option Tier, o.bind Tier.family = (o.map Tier.marks).bind Prod.snd := by
    intro o
    cases o <;> rfl
  constructor
  · rw [masterFamily?, masterFamily?, key, h.1, key]
  · rw [nodeFamily?, nodeFamily?, key, h.2, key]

theorem BothMarked.drift {t t' : Tiers} (h : t.BothMarked) (hdrift : SameMarks t t') :
    t'.BothMarked := by
  obtain ⟨hm, hn⟩ := hdrift.families_eq
  exact ⟨hm ▸ h.1, hn ▸ h.2⟩

/-- Both tiers are marked, and a converted node stands under a converted master. -/
structure ConvertedInOrder (family : Family) (t : Tiers) : Prop where
  marked : t.BothMarked
  order : t.nodeFamily? = some family → t.masterFamily? = some family

theorem ConvertedInOrder.drift {t t' : Tiers} (h : ConvertedInOrder family t)
    (hdrift : SameMarks t t') : ConvertedInOrder family t' := by
  obtain ⟨hm, hn⟩ := hdrift.families_eq
  exact ⟨h.marked.drift hdrift, fun hnode => hm ▸ h.order (hn ▸ hnode)⟩

theorem ConvertedInOrder.pass (h : ConvertedInOrder family t) :
    ConvertedInOrder family (t.pass family release) := by
  refine ⟨h.marked.pass, ?_⟩
  intro hnode
  have hmaster : t.masterFamily? = some family := by
    by_cases hsame : (t.pass family release).nodeFamily? = t.nodeFamily?
    · exact h.order (hsame ▸ hnode)
    · obtain ⟨-, master, hm, hmf, -⟩ := settledMaster_of_nodeFamily?_ne h.marked hsame
      rw [masterFamily?, hm]
      exact hmf
  rw [masterFamily?_pass, hmaster]
  split <;> rfl

/-- **The order of a family conversion.** Along every run a pass changes the family mark of the
node only to the desired family and only when it finds the master converted and settled, hang mark
or not; and while the master is not there yet, it updates the master alone. With one desired family
all along, a node that was not converted at the start is converted only after the master. -/
theorem familyOrder_of_reaches {start : Tiers} (hstart : start.BothMarked) :
    (∀ t, Reaches SameMarks (fun _ _ _ => True) start t → ∀ family release,
      ((t.pass family release).nodeFamily? ≠ t.nodeFamily? →
        (t.pass family release).nodeFamily? = some family ∧
          ∃ master, t.master = some master ∧ master.family = some family ∧
            ∀ hung, Tier.progressing { master with hung } false = false) ∧
      ∀ master node, t.master = some master → t.node = some node →
        (master.family ≠ some family ∨
          node.family ≠ some family ∧ master.progressing false = true) →
        Decision.decide t family release = ⟨true, false, false⟩) ∧
    ∀ family, start.nodeFamily? ≠ some family → ∀ t,
      Reaches SameMarks (fun _ desired _ => desired = family) start t →
        t.nodeFamily? = some family → t.masterFamily? = some family := by
  constructor
  · intro t hrun family release
    have hmarked : t.BothMarked :=
      hrun.keeps hstart (fun _ _ h hdrift => h.drift hdrift) (fun _ _ _ h _ => h.pass)
    constructor
    · intro hne
      obtain ⟨hfamily, master, hm, hmf, hsettled⟩ := settledMaster_of_nodeFamily?_ne hmarked hne
      refine ⟨hfamily, master, hm, hmf, ?_⟩
      intro hung
      rw [Tier.progressing_false_eq]
      exact hsettled
    · intro master node hm hn hc
      have hmaster : master.family ≠ none := by
        have h := hmarked.1
        rwa [masterFamily?, hm] at h
      have hnode : node.family ≠ none := by
        have h := hmarked.2
        rwa [nodeFamily?, hn] at h
      exact decide_of_converting hm hn ⟨hnode, hmaster, hc⟩
  · intro family hother t hrun
    have hinv : ConvertedInOrder family t := by
      refine hrun.keeps ⟨hstart, fun h => absurd h hother⟩ (fun _ _ h hdrift => h.drift hdrift) ?_
      rintro t desired release h rfl
      exact h.pass
    exact hinv.order

/-- A steady single-stack cluster after a first pass for dual-stack. -/
def halfConverted : Tiers := (steady "4.10.0").pass .dualStack "4.10.0"

/-- The second pass converts the node, and finds the master converted and settled. -/
theorem familyOrder_of_steady :
    (steady "4.10.0").BothMarked ∧
      (halfConverted.pass .dualStack "4.10.0").nodeFamily? ≠ halfConverted.nodeFamily? ∧
      (∃ master, halfConverted.master = some master ∧ master.family = some .dualStack ∧
        ∀ hung, Tier.progressing { master with hung } false = false) ∧
      (halfConverted.pass .dualStack "4.10.0").masterFamily? = some .dualStack := by
  have hstart : (steady "4.10.0").BothMarked := ⟨by decide, by decide⟩
  have hne : (halfConverted.pass .dualStack "4.10.0").nodeFamily? ≠ halfConverted.nodeFamily? := by
    decide
  obtain ⟨hpasses, hfixed⟩ := familyOrder_of_reaches hstart
  have hfirst := (hpasses halfConverted (.single (.pass _ _ trivial)) .dualStack "4.10.0").1 hne
  refine ⟨hstart, hne, hfirst.2, ?_⟩
  refine hfixed .dualStack (by decide) _ ?_ hfirst.1
  exact .tail (.single (.pass .dualStack "4.10.0" rfl)) (.pass .dualStack "4.10.0" rfl)

end NetworkRollout.Tiers
