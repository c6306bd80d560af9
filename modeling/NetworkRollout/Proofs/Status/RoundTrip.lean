import NetworkRollout.Status.Json
import NetworkRollout.Proofs.Json.MergePatch
import NetworkRollout.Proofs.Time.MomentText

/-!
# Parts of the status read back from their JSON form

The decision is the one part that is written as an object, so a merge goes into it: whatever else
the stored decision had, its three fields are those that are written.

* `Moment.ofJson?_toJson`, `Condition.ofJson?_toJson`, `NodeMode.ofName?_name`,
  `GatewayMode.ofName?_name`.
* `Decision.ofJson?_merge`: a decision after a merge into a stored one.
-/

namespace NetworkRollout

open Json

theorem Moment.ofJson?_toJson (m : Moment) : Moment.ofJson? m.toJson = some m := by
  unfold Moment.ofJson? Moment.toJson
  rw [text?_text, Option.bind_some, Moment.ofText?_text]

theorem NodeMode.ofName?_name (m : NodeMode) : NodeMode.ofName? m.name = some m := by
  cases m <;> simp [NodeMode.ofName?, NodeMode.name]

theorem GatewayMode.ofName?_name (m : GatewayMode) : GatewayMode.ofName? m.name = some m := by
  cases m <;> simp [GatewayMode.ofName?, GatewayMode.name]

theorem Condition.ofJson?_toJson (c : Condition) : Condition.ofJson? c.toJson = some c := by
  unfold Condition.ofJson? Condition.toJson
  refine bind_fields? (by decide) (by simp) ?_
  refine Fields.bind_required (a := c.type) (by simp) (text?_text _) ?_
  refine Fields.bind_required (a := c.status) (by simp) (text?_text _) ?_
  refine Fields.bind_required (a := c.reason) (by simp) (text?_text _) ?_
  refine Fields.bind_optional (a := c.message) (by simp) text?_text text?_null ?_
  refine Fields.bind_required (a := c.since) (by simp) (Moment.ofJson?_toJson c.since) ?_
  rfl

/-! ## Decisions -/

namespace Decision

/-- The names of the fields. -/
def fieldNames : List String := ["updateMaster", "updateNode", "renderPrepull"]

/-- The members that a decision is written with. -/
def writtenMembers (d : Decision) : Members :=
  written [always "updateMaster" (.bool d.updateMaster), always "updateNode" (.bool d.updateNode),
    always "renderPrepull" (.bool d.renderPrepull)]

theorem nodup_writtenMembers (d : Decision) : (d.writtenMembers.map (·.1)).Nodup := by
  have hfollows : Follows fieldNames
      [always "updateMaster" (.bool d.updateMaster), always "updateNode" (.bool d.updateNode),
        always "renderPrepull" (.bool d.renderPrepull)] := by simp [fieldNames]
  exact hfollows.names_sublist.nodup (by simp [fieldNames])

theorem lookup_merged {target : Members} {d : Decision} {name : String} {b : Bool}
    (h : List.lookup name d.writtenMembers = some (.bool b)) :
    List.lookup name (mergeMembers target d.writtenMembers) = some (.bool b) := by
  rw [lookup_mergeMembers d.nodup_writtenMembers h rfl, merge_of_not_object rfl]

theorem ofJson?_merge {target : Json} (h : repeats fieldNames target.members = false)
    (d : Decision) : ofJson? (target.merge d.toJson) = some d := by
  change ofJson? (.object (mergeMembers target.members d.writtenMembers)) = some d
  refine bind_fields?_object (repeats_mergeMembers h _) ?_
  refine Fields.bind_required (lookup_merged (b := d.updateMaster) (by simp [writtenMembers]))
    (bool?_bool _) ?_
  refine Fields.bind_required (lookup_merged (b := d.updateNode) (by simp [writtenMembers]))
    (bool?_bool _) ?_
  refine Fields.bind_required (lookup_merged (b := d.renderPrepull) (by simp [writtenMembers]))
    (bool?_bool _) ?_
  rfl

/-- A stored decision that reads gives no field twice. -/
theorem repeats_of_optional {ms : Members} {name : String} {d : Option Decision}
    (h : Fields.optional ms name ofJson? = some d) :
    repeats fieldNames (ms.getD name).members = false := by
  have hnil : repeats fieldNames [] = false := rfl
  unfold Fields.optional at h
  unfold Members.getD Members.get?
  cases hvalue : List.lookup name ms with
  | none => exact hnil
  | some j =>
    rw [hvalue] at h
    rw [Option.getD_some]
    cases hj : ofJson? j with
    | some d =>
      obtain ⟨fs, hfs, -⟩ := Option.bind_eq_some_iff.mp hj
      exact repeats_members_of_fields? hfs
    | none =>
      split at h
      case h_1 heq => cases heq
      case h_2 heq =>
        injection heq with heq
        rw [heq]
        exact hnil
      case h_3 heq =>
        injection heq with heq
        rw [← heq, hj] at h
        cases h

end Decision

end NetworkRollout
