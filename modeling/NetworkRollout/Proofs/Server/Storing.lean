import NetworkRollout.Proofs.Json.LayOver
import NetworkRollout.Server.Storing

/-!
# What an applied object leaves

Whichever way an applied object is stored, no name is given twice afterwards. A server that merges
keeps the status and its own metadata, and of the annotations those that the object does not give.

* `Storing.get?_mergeable_metadata`, `get?_mergeable_of_ne`: what a server merges of an object.
* `Storing.distinct_settle`: no name is given twice in what is stored.
* `Storing.get?_merges_status`, `get?_merges_ownMetadata`: what a server keeps when it merges.
* `Storing.get?_merges_annotation`: which annotations stay.
-/

namespace NetworkRollout

namespace Storing

open Json

variable {stored object : Json} {name key : String}

/-! ## What is merged of an object -/

theorem get?_mergeableMetadata_of_own (h : name ∈ ownMetadata) (metadata : Json) :
    Members.get? (mergeableMetadata metadata).members name = none := by
  refine List.lookup_eq_none_iff.mpr fun m hm => bne_iff_ne.mpr ?_
  rintro rfl
  exact of_decide_eq_true (List.mem_filter.mp hm).2 h

theorem get?_mergeableMetadata (h : name ∉ ownMetadata) (metadata : Json) :
    Members.get? (mergeableMetadata metadata).members name =
      Members.get? metadata.members name := by
  change Members.get? (metadata.members.filter fun m => decide (m.1 ∉ ownMetadata)) name = _
  induction metadata.members with
  | nil => rfl
  | cons m rest ih =>
    obtain ⟨k, value⟩ := m
    by_cases hname : name = k
    · subst hname
      rw [List.filter_cons, if_pos (decide_eq_true h), Members.get?_cons_self,
        Members.get?_cons_self]
    · rw [Members.get?_cons_of_ne hname, ← ih, List.filter_cons]
      split
      case isTrue => exact Members.get?_cons_of_ne hname _ _
      case isFalse => rfl

theorem isObject_mergeable (object : Json) : (mergeable object).object?.isSome := by
  unfold mergeable
  dsimp only
  split <;> rfl

theorem get?_mergeable_status (object : Json) :
    Members.get? (mergeable object).members "status" = none := by
  unfold mergeable
  dsimp only
  split
  case h_1 =>
    exact (Members.get?_insert_of_ne (by decide) _ _).trans (Members.get?_erase_self _ _)
  case h_2 => exact Members.get?_erase_self _ _

theorem get?_mergeable_metadata (object : Json) :
    Members.get? (mergeable object).members "metadata" =
      (Members.get? object.members "metadata").map mergeableMetadata := by
  have hmetadata : Members.get? (Members.erase "status" object.members) "metadata" =
      Members.get? object.members "metadata" := Members.get?_erase_of_ne (by decide) _
  rw [← hmetadata]
  unfold mergeable
  dsimp only
  split
  case h_1 metadata h =>
    rw [h]
    exact Members.get?_insert_self _ _ _
  case h_2 h =>
    rw [h]
    exact h

theorem get?_mergeable_of_ne (hstatus : name ≠ "status") (hmetadata : name ≠ "metadata")
    (object : Json) :
    Members.get? (mergeable object).members name = Members.get? object.members name := by
  rw [← Members.get?_erase_of_ne hstatus object.members]
  unfold mergeable
  dsimp only
  split
  case h_1 => exact Members.get?_insert_of_ne hmetadata _ _
  case h_2 => rfl

/-! ## No name is given twice -/

theorem distinct_mergeable (h : object.Distinct) : (mergeable object).Distinct := by
  have hfields : (Json.object (Members.erase "status" object.members)).Distinct :=
    h.members.erase "status"
  unfold mergeable
  dsimp only
  split
  case h_1 metadata hmetadata =>
    have hkept : (mergeableMetadata metadata).Distinct :=
      (hfields.of_get? hmetadata).members.sublist List.filter_sublist
    exact hfields.insert hkept
  case h_2 => exact hfields

theorem distinct_settle (storing : Storing) {stored : Option Json}
    (h : ∀ j, stored = some j → j.Distinct) (object : Json) :
    (storing.settle stored object).Distinct := by
  have hobject := distinct_dedup object
  cases storing with
  | replaces =>
    change (replaced stored object.dedup).Distinct
    unfold replaced
    split
    case h_1 status hstatus _ =>
      obtain ⟨j, hj, hstatus⟩ := Option.bind_eq_some_iff.mp hstatus
      exact hobject.members.insert ((h j hj).of_get? hstatus)
    case h_2 => exact hobject
  | merges =>
    refine Distinct.layOver ?_ _
    cases stored with
    | none => exact .plain rfl
    | some j => exact h j rfl

/-! ## What a merge keeps -/

theorem get?_merges_status (stored : Option Json) (object : Json) :
    Members.get? (merges.settle stored object).members "status" =
      Members.get? (stored.getD .null).members "status" := by
  exact get?_layOver_of_none (isObject_mergeable _) (get?_mergeable_status _)

/-- Metadata that are merged are laid over the stored ones, without the server's own. -/
theorem field_merges_metadata (stored : Option Json) (object : Json) :
    (merges.settle stored object).field "metadata" = (stored.getD .null).field "metadata" ∨
      ∃ metadata, Members.get? object.members "metadata" = some metadata ∧
        (merges.settle stored object).field "metadata" =
          ((stored.getD .null).field "metadata").layOver (mergeableMetadata metadata.dedup) := by
  have hmergeable := get?_mergeable_metadata object.dedup
  rw [members_dedup, get?_dedupMembers] at hmergeable
  cases hmetadata : Members.get? object.members "metadata" with
  | none =>
    rw [hmetadata] at hmergeable
    exact Or.inl (congrArg (·.getD .null) (get?_layOver_of_none (isObject_mergeable _) hmergeable))
  | some metadata =>
    rw [hmetadata] at hmergeable
    exact Or.inr ⟨metadata, rfl, congrArg (·.getD .null)
      (get?_layOver (distinct_mergeable (distinct_dedup _)) hmergeable)⟩

theorem get?_merges_ownMetadata (h : name ∈ ownMetadata) (stored : Option Json) (object : Json) :
    Members.get? ((merges.settle stored object).field "metadata").members name =
      Members.get? ((stored.getD .null).field "metadata").members name := by
  rcases field_merges_metadata stored object with hkept | ⟨metadata, -, hlaid⟩
  · rw [hkept]
  · rw [hlaid]
    exact get?_layOver_of_none rfl (get?_mergeableMetadata_of_own h _)

/-- An object leaves an annotation as it is: the annotations that it gives, if it gives any, are an
object without it. -/
def LeavesAnnotation (key : String) (object : Json) : Prop :=
  ∀ annotations, Members.get? (object.field "metadata").members "annotations" = some annotations →
    annotations.object?.isSome ∧ Members.get? annotations.members key = none

theorem get?_merges_annotation (h : LeavesAnnotation key object) (stored : Option Json) :
    Members.get? (((merges.settle stored object).field "metadata").field
        "annotations").members key =
      Members.get? (((stored.getD .null).field "metadata").field "annotations").members key := by
  rcases field_merges_metadata stored object with hkept | ⟨metadata, hmetadata, hlaid⟩
  · rw [hkept]
  · rw [hlaid]
    have hsent : (mergeableMetadata metadata.dedup).Distinct :=
      (distinct_dedup metadata).members.sublist List.filter_sublist
    refine get?_field_layOver hsent rfl fun annotations hannotations => ?_
    rw [get?_mergeableMetadata (by decide), members_dedup, get?_dedupMembers] at hannotations
    obtain ⟨given, hgiven, rfl⟩ := Option.map_eq_some_iff.mp hannotations
    have hfield : object.field "metadata" = metadata := congrArg (·.getD .null) hmetadata
    obtain ⟨hobject, hnone⟩ := h given (by rw [hfield]; exact hgiven)
    refine ⟨?_, ?_⟩
    · cases given <;> first | rfl | cases hobject
    · rw [members_dedup, get?_dedupMembers, hnone]
      rfl

end Storing

end NetworkRollout
