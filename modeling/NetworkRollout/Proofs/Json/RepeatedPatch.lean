import NetworkRollout.Proofs.Json.LayOver

/-!
# Patches that are sent again

A merge patch says what the members that it names are to be. Where it has been merged they are that
already, so it changes nothing when it is merged again, as long as it gives no name twice.

* `Json.mergeMembers_eq_self`: where a patch changes nothing.
* `Json.merge_merge`: the same patch once more.
-/

namespace NetworkRollout

theorem Members.erase_of_get?_eq_none {ms : Members} {name : String} (h : ms.get? name = none) :
    ms.erase name = ms := by
  refine List.filter_eq_self.mpr fun m hm => decide_eq_true fun hname => ?_
  have hne := List.lookup_eq_none_iff.mp h m hm
  rw [hname, bne_self_eq_false] at hne
  cases hne

namespace Json

variable {target patch : Members}

/-- Where every member has the value already that the patch would give it, or is not there when the
patch would remove it, the patch changes nothing. -/
theorem mergeMembers_eq_self
    (h : ∀ m ∈ patch, target.get? m.1 =
      if m.2.isNull then none else some (merge (target.getD m.1) m.2)) :
    mergeMembers target patch = target := by
  induction patch with
  | nil => rfl
  | cons m rest ih =>
    obtain ⟨name, value⟩ := m
    have hrest := ih fun m hm => h m (List.mem_cons_of_mem _ hm)
    have hfirst := h _ List.mem_cons_self
    unfold mergeMembers
    split
    case isTrue hnull =>
      rw [if_pos hnull] at hfirst
      rw [Members.erase_of_get?_eq_none hfirst, hrest]
    case isFalse hnull =>
      rw [if_neg hnull] at hfirst
      rw [Members.insert_of_get? hfirst, hrest]

/-- A patch changes nothing where it has been merged before. -/
theorem merge_merge {patch : Json} (h : patch.Distinct) (target : Json) :
    merge (merge target patch) patch = merge target patch := by
  induction h generalizing target with
  | plain h => rw [merge_of_not_object h, merge_of_not_object h]
  | @object patch hnames _ ih =>
    change Json.object (mergeMembers (mergeMembers target.members patch) patch) =
      .object (mergeMembers target.members patch)
    refine congrArg Json.object (mergeMembers_eq_self fun m hm => ?_)
    have hmerged : (mergeMembers target.members patch).get? m.1 =
        if m.2.isNull then none else some (merge (target.members.getD m.1) m.2) :=
      get?_mergeMembers_of_mem hnames (Members.get?_of_mem hnames hm)
    unfold Members.getD
    rw [hmerged]
    split
    case isTrue => rfl
    case isFalse => rw [Option.getD_some, ih m hm]

end Json

end NetworkRollout
