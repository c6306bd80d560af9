import NetworkRollout.Rollout.Decision
import NetworkRollout.Proofs.Release.Precedence

/-!
# What a decision permits

A decision is put together from the family marks, the table of release changes and the stage of the
pre-puller. Each part has one specification here, and what is proved about rollouts uses these.

* `Permission.byFamily?_of_tiers`: the family marks dictate the update of the master alone exactly
  while a conversion is at the master (`Converting`), and leave the rest to the releases.
* `Permission.byRelease_of_tiers`: two deployed tiers are judged by the table of changes; tiers that
  already carry the release are no exception.
* `Permission.ofChanges_node_eq_false_iff`, `Permission.ofChanges_master_eq_false_iff`: the entries
  of the table that keep a tier back.
* `PrepullStage.of_eq_proceed`, `PrepullStage.of_eq_hold`: the node update goes on exactly when the
  image is `Ready`.
* `Decision.permission_of_tiers`, `Decision.updateMaster_eq`, `Decision.updateNode_iff`,
  `Decision.renderPrepull_iff`: the parts put together.
-/

namespace NetworkRollout

/-! ## Progress of a tier -/

theorem Tier.progressing_true_of_false {t : Tier} (h : t.progressing false = false) :
    t.progressing true = false := by
  rw [Tier.progressing_false_eq] at h
  exact Tier.progressing_of_settled h true

theorem Tier.isAt_iff {t : Tier} {release : String} :
    t.isAt release = true ↔ t.version = some release := by
  simp [Tier.isAt]

namespace ReleaseChange

theorem ofOrdering_eq_upgrade_iff {o : Ordering} : ofOrdering o = upgrade ↔ o = .lt := by
  cases o <;> decide

theorem ofOrdering_eq_same_iff {o : Ordering} : ofOrdering o = same ↔ o = .eq := by
  cases o <;> decide

end ReleaseChange

namespace Permission

/-! ## The family marks -/

/-- Both tiers are marked, and the conversion to the desired family is at the master: it is not
converted, or it is not settled while the node is not converted. -/
def Converting (node master : Tier) (desired : Family) : Prop :=
  node.family ≠ none ∧ master.family ≠ none ∧
    (master.family ≠ some desired ∨
      node.family ≠ some desired ∧ master.progressing false = true)

instance (node master : Tier) (desired : Family) : Decidable (Converting node master desired) :=
  inferInstanceAs (Decidable (_ ∧ _ ∧ (_ ∨ _ ∧ _)))

theorem byFamily?_of_tiers (node master : Tier) (desired : Family) :
    byFamily? (some node) (some master) desired =
      if Converting node master desired then some masterOnly else none := by
  cases hn : node.family with
  | none => simp [byFamily?, Converting, hn]
  | some nodeFamily =>
    cases hm : master.family with
    | none => simp [byFamily?, Converting, hn, hm]
    | some masterFamily =>
      by_cases hmd : masterFamily = desired
      · by_cases hnd : nodeFamily = desired
        · simp [byFamily?, Converting, hn, hm, hmd, hnd]
        · simp [byFamily?, Converting, hn, hm, hmd, hnd]
      · simp [byFamily?, Converting, hn, hm, hmd]

theorem byFamily?_of_absent {node master : Option Tier} (desired : Family)
    (h : node = none ∨ master = none) : byFamily? node master desired = none := by
  rcases h with rfl | rfl
  · rfl
  · cases node <;> rfl

/-! ## The table of changes -/

theorem ofChanges_node_eq_false_iff {nodeChange masterChange : ReleaseChange}
    {node master : Tier} :
    (ofChanges nodeChange masterChange node master).node = false ↔
      nodeChange = .downgrade ∧
        (masterChange = .downgrade ∨ masterChange = .same ∧ master.progressing false = true) := by
  cases nodeChange <;> cases masterChange <;>
    simp only [ofChanges, both, nodeOnly, masterOnly, apply_ite Permission.node] <;> simp

theorem ofChanges_master_eq_false_iff {nodeChange masterChange : ReleaseChange}
    {node master : Tier} :
    (ofChanges nodeChange masterChange node master).master = false ↔
      masterChange = .upgrade ∧
        (nodeChange = .upgrade ∨ nodeChange = .same ∧ node.progressing true = true) := by
  cases nodeChange <;> cases masterChange <;>
    simp only [ofChanges, both, nodeOnly, masterOnly, apply_ite Permission.master] <;> simp

/-- The table looks at the tiers only for whether they are rolling. -/
theorem ofChanges_congr {nodeChange masterChange : ReleaseChange} {node node' master master' : Tier}
    (hn : node'.progressing true = node.progressing true)
    (hm : master'.progressing false = master.progressing false) :
    ofChanges nodeChange masterChange node' master' =
      ofChanges nodeChange masterChange node master := by
  unfold ofChanges
  rw [hn, hm]

theorem byRelease_of_tiers (node master : Tier) (release : String) :
    byRelease (some node) (some master) release =
      ofChanges (.classify (deployedRelease node) release)
        (.classify (deployedRelease master) release) node master := by
  unfold byRelease
  dsimp only
  split
  next h =>
    obtain ⟨hn, hm⟩ := h
    rw [hn, hm]
    by_cases hr : release = ""
    · subst hr
      rfl
    · rw [ReleaseChange.classify_self hr]
      rfl
  next => rfl

theorem byRelease_of_absent {node master : Option Tier} (release : String)
    (h : node = none ∨ master = none) : byRelease node master release = both := by
  rcases h with rfl | rfl
  · rfl
  · cases node <;> rfl

end Permission

/-! ## The stage of the pre-puller -/

namespace PrepullStage

/-- Nothing has to be pulled ahead of the node update: there is no node tier on another release, or
the pre-puller has finished with this release. -/
def Ready (node prepuller : Option Tier) (release : String) : Prop :=
  (∀ n, node = some n → n.version = some release) ∨
    ∃ p, prepuller = some p ∧ p.version = some release ∧ p.progressing true = false

theorem of_eq_proceed {node prepuller : Option Tier} {release : String}
    (h : Ready node prepuller release) : of node prepuller release = proceed := by
  cases node with
  | none => rfl
  | some n =>
    rcases h with hn | ⟨p, rfl, hv, hp⟩
    · simp [of, Tier.isAt_iff.mpr (hn n rfl)]
    · simp [of, Tier.isAt_iff.mpr hv, hp]

theorem of_eq_hold {node prepuller : Option Tier} {release : String}
    (h : ¬ Ready node prepuller release) : of node prepuller release = hold := by
  cases node with
  | none => exact absurd (Or.inl fun _ hn => nomatch hn) h
  | some n =>
    have hat : n.isAt release = false := by
      refine Bool.eq_false_iff.mpr fun hv => h (Or.inl ?_)
      rintro _ ⟨rfl⟩
      exact Tier.isAt_iff.mp hv
    cases prepuller with
    | none => simp [of, hat]
    | some p =>
      by_cases hv : p.isAt release = true
      · have hp : p.progressing true = true := Bool.not_eq_false _ |>.mp fun hp =>
          h (Or.inr ⟨p, rfl, Tier.isAt_iff.mp hv, hp⟩)
        simp [of, hat, hv, hp]
      · simp [of, hat, hv]

end PrepullStage

/-! ## The decision -/

namespace Decision

variable {t : Tiers} {family : Family} {release : String}

theorem permission_of_tiers {node master : Tier} (hn : t.node = some node)
    (hm : t.master = some master) :
    permission t family release =
      if Permission.Converting node master family then .masterOnly
      else .ofChanges (.classify (Permission.deployedRelease node) release)
        (.classify (Permission.deployedRelease master) release) node master := by
  unfold permission
  rw [hn, hm, Permission.byFamily?_of_tiers, Permission.byRelease_of_tiers]
  by_cases h : Permission.Converting node master family
  · rw [if_pos h, if_pos h]
  · rw [if_neg h, if_neg h]

theorem permission_of_absent (h : t.node = none ∨ t.master = none) :
    permission t family release = .both := by
  unfold permission
  rw [Permission.byFamily?_of_absent family h]
  exact Permission.byRelease_of_absent release h

/-- No state of the tiers holds both of them back. -/
theorem permission_node_of_holdsMaster (h : (permission t family release).master = false) :
    (permission t family release).node = true := by
  cases hn : t.node with
  | none =>
    rw [permission_of_absent (Or.inl hn)]
    rfl
  | some node =>
    cases hm : t.master with
    | none =>
      rw [permission_of_absent (Or.inr hm)]
      rfl
    | some master =>
      rw [permission_of_tiers hn hm] at h ⊢
      split at h
      · cases h
      next hc =>
        rw [if_neg hc]
        have hchange := (Permission.ofChanges_master_eq_false_iff.mp h).1
        apply Bool.not_eq_false _ |>.mp
        intro hheld
        obtain ⟨-, hd | ⟨hd, -⟩⟩ := Permission.ofChanges_node_eq_false_iff.mp hheld
        · rw [hchange] at hd
          cases hd
        · rw [hchange] at hd
          cases hd

theorem updateMaster_eq : (decide t family release).updateMaster =
    (permission t family release).master := by
  unfold decide
  dsimp only
  split <;> rfl

theorem updateNode_iff : (decide t family release).updateNode = true ↔
    (permission t family release).node = true ∧
      PrepullStage.Ready t.node t.prepuller release := by
  unfold decide
  by_cases hn : (permission t family release).node = true
  · by_cases hr : PrepullStage.Ready t.node t.prepuller release
    · simp [hn, hr, PrepullStage.of_eq_proceed hr, PrepullStage.proceed]
    · simp [hn, hr, PrepullStage.of_eq_hold hr, PrepullStage.hold]
  · simp [hn]

theorem renderPrepull_iff : (decide t family release).renderPrepull = true ↔
    (permission t family release).node = true ∧
      ¬ PrepullStage.Ready t.node t.prepuller release := by
  unfold decide
  by_cases hn : (permission t family release).node = true
  · by_cases hr : PrepullStage.Ready t.node t.prepuller release
    · simp [hn, hr, PrepullStage.of_eq_proceed hr, PrepullStage.proceed]
    · simp [hn, hr, PrepullStage.of_eq_hold hr, PrepullStage.hold]
  · simp [hn]

theorem decide_of_masterOnly (h : permission t family release = .masterOnly) :
    decide t family release = ⟨true, false, false⟩ := by
  simp [decide, h, Permission.masterOnly]

end Decision

end NetworkRollout
