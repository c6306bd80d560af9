import NetworkRollout.Json.MergePatch
import NetworkRollout.Proofs.Json.Record

/-!
# What a merge patch leaves

A patch that names each member once decides about each member by itself: a member that it does not
name stays, one that it gives as null goes, and any other is merged into the old one. No name comes
to be given twice by it.

* `Members.get?_insert_self`, `get?_insert_of_ne`, `get?_erase_self`, `get?_erase_of_ne`.
* `Json.get?_mergeMembers_of_none`, `get?_mergeMembers_of_mem`: the members after a merge.
* `Json.field_merge_self`, `field_merge_of_ne`: the fields after a patch of one member.
* `Json.repeats_mergeMembers`: no repetitions after a merge.
-/

namespace NetworkRollout

/-! ## Single members -/

namespace Members

theorem get?_cons_self (name : String) (value : Json) (ms : Members) :
    Members.get? ((name, value) :: ms) name = some value :=
  List.lookup_cons_self

theorem get?_cons_of_ne {name other : String} (h : other ≠ name) (value : Json) (ms : Members) :
    Members.get? ((name, value) :: ms) other = Members.get? ms other := by
  have hother : (other == name) = false := by simpa using h
  unfold Members.get?
  rw [List.lookup_cons, hother]

theorem get?_insert_self (name : String) (value : Json) (ms : Members) :
    (Members.insert name value ms).get? name = some value := by
  induction ms with
  | nil => simp [Members.insert, Members.get?]
  | cons m ms ih =>
    obtain ⟨k, v⟩ := m
    unfold Members.insert
    split
    case isTrue h => simp [Members.get?, h]
    case isFalse h =>
      have hk : (name == k) = false := by simpa using Ne.symm h
      unfold Members.get? at ih ⊢
      rw [List.lookup_cons, hk]
      exact ih

theorem get?_insert_of_ne {name other : String} (h : other ≠ name) (value : Json) (ms : Members) :
    (Members.insert name value ms).get? other = ms.get? other := by
  have hother : (other == name) = false := by simpa using h
  induction ms with
  | nil => simp [Members.insert, Members.get?, List.lookup_cons, hother]
  | cons m ms ih =>
    obtain ⟨k, v⟩ := m
    unfold Members.get? at ih ⊢
    unfold Members.insert
    split
    case isTrue hk => rw [hk, List.lookup_cons, List.lookup_cons, hother]
    case isFalse hk => rw [List.lookup_cons, List.lookup_cons, ih]

theorem get?_erase_self (name : String) (ms : Members) :
    (Members.erase name ms).get? name = none := by
  unfold Members.get? Members.erase
  rw [List.lookup_eq_none_iff]
  intro m hm
  have hne : m.1 ≠ name := of_decide_eq_true (List.mem_filter.mp hm).2
  exact bne_iff_ne.mpr (Ne.symm hne)

theorem get?_erase_of_ne {name other : String} (h : other ≠ name) (ms : Members) :
    (Members.erase name ms).get? other = ms.get? other := by
  unfold Members.get? Members.erase
  induction ms with
  | nil => rfl
  | cons m ms ih =>
    obtain ⟨k, v⟩ := m
    by_cases hk : k = name
    · have hother : (other == k) = false := by simpa [hk] using h
      rw [List.filter_cons_of_neg (by simp [hk]), List.lookup_cons, hother]
      exact ih
    · rw [List.filter_cons_of_pos (by simp [hk]), List.lookup_cons, List.lookup_cons, ih]

theorem getD_insert_of_ne {name other : String} (h : other ≠ name) (value : Json) (ms : Members) :
    (Members.insert name value ms).getD other = ms.getD other :=
  congrArg (·.getD .null) (get?_insert_of_ne h value ms)

theorem getD_erase_of_ne {name other : String} (h : other ≠ name) (ms : Members) :
    (Members.erase name ms).getD other = ms.getD other :=
  congrArg (·.getD .null) (get?_erase_of_ne h ms)

/-- How often a name is given. -/
def occurrences (name : String) (ms : Members) : Nat := (ms.filter (·.1 = name)).length

theorem occurrences_cons (name : String) (m : String × Json) (ms : Members) :
    occurrences name (m :: ms) = (if m.1 = name then 1 else 0) + occurrences name ms := by
  unfold occurrences
  by_cases h : m.1 = name
  · rw [List.filter_cons_of_pos (by simp [h]), if_pos h, List.length_cons, Nat.add_comm]
  · rw [List.filter_cons_of_neg (by simp [h]), if_neg h, Nat.zero_add]

theorem occurrences_erase_le (name other : String) (ms : Members) :
    occurrences other (Members.erase name ms) ≤ occurrences other ms := by
  unfold occurrences Members.erase
  exact (List.Sublist.filter _ List.filter_sublist).length_le

theorem occurrences_insert_of_ne {name other : String} (h : name ≠ other) (value : Json)
    (ms : Members) : occurrences other (Members.insert name value ms) = occurrences other ms := by
  induction ms with
  | nil => rw [Members.insert, occurrences_cons, if_neg h, Nat.zero_add]
  | cons m ms ih =>
    unfold Members.insert
    split
    case isTrue => rw [occurrences_cons, occurrences_cons]
    case isFalse => rw [occurrences_cons, occurrences_cons, ih]

/-- A new name is given once, and an old one not more often than before. -/
theorem occurrences_insert_self_le (name : String) (value : Json) (ms : Members) :
    occurrences name (Members.insert name value ms) ≤ max 1 (occurrences name ms) := by
  induction ms with
  | nil =>
    rw [Members.insert, occurrences_cons, if_pos rfl]
    exact Nat.le_max_left 1 _
  | cons m ms ih =>
    unfold Members.insert
    split
    case isTrue =>
      rw [occurrences_cons, occurrences_cons]
      exact Nat.le_max_right 1 _
    case isFalse h =>
      rw [occurrences_cons, occurrences_cons, if_neg h, Nat.zero_add, Nat.zero_add]
      exact ih

theorem occurrences_insert_le (name other : String) (value : Json) (ms : Members) :
    occurrences other (Members.insert name value ms) ≤ max 1 (occurrences other ms) := by
  by_cases h : name = other
  · rw [← h]
    exact occurrences_insert_self_le name value ms
  · rw [occurrences_insert_of_ne h]
    exact Nat.le_max_right 1 _

end Members

/-! ## Whole patches -/

namespace Json

variable {name : String} {target patch : Members}

/-- A patch that is no object takes the place of the value. -/
theorem merge_of_not_object {value : Json} (h : value.object? = none) (target : Json) :
    merge target value = value := by
  cases value <;> first | rfl | cases h

theorem get?_mergeMembers_of_none (h : patch.get? name = none) :
    (mergeMembers target patch).get? name = target.get? name := by
  induction patch generalizing target with
  | nil => rfl
  | cons m rest ih =>
    obtain ⟨k, v⟩ := m
    have hne : name ≠ k := by
      rintro rfl
      simp [Members.get?] at h
    have hrest : Members.get? rest name = none := by
      have hk : (name == k) = false := by simpa using hne
      rwa [Members.get?, List.lookup_cons, hk] at h
    unfold mergeMembers
    split
    case isTrue => rw [ih hrest, Members.get?_erase_of_ne hne]
    case isFalse => rw [ih hrest, Members.get?_insert_of_ne hne]

/-- A member that the patch names is decided where the patch names it: nothing behind it names it
again. -/
theorem get?_mergeMembers_of_mem (hnodup : (patch.map (·.1)).Nodup) {value : Json}
    (h : patch.get? name = some value) :
    (mergeMembers target patch).get? name =
      if value.isNull then none else some (merge (target.getD name) value) := by
  induction patch generalizing target with
  | nil => cases h
  | cons m rest ih =>
    obtain ⟨k, v⟩ := m
    rw [List.map_cons, List.nodup_cons] at hnodup
    by_cases hk : name = k
    · subst hk
      have hv : v = value := by simpa [Members.get?] using h
      have hrest : Members.get? rest name = none := by
        rw [Members.get?, List.lookup_eq_none_iff]
        intro m hm
        have hne : m.1 ≠ name := fun heq => hnodup.1 (List.mem_map.mpr ⟨m, hm, heq⟩)
        exact bne_iff_ne.mpr (Ne.symm hne)
      rw [mergeMembers, hv]
      split
      case isTrue => rw [get?_mergeMembers_of_none hrest, Members.get?_erase_self]
      case isFalse => rw [get?_mergeMembers_of_none hrest, Members.get?_insert_self]
    · have hbeq : (name == k) = false := by simpa using hk
      have hrest : Members.get? rest name = some value := by
        rwa [Members.get?, List.lookup_cons, hbeq] at h
      rw [mergeMembers]
      split
      case isTrue => rw [ih hnodup.2 hrest, Members.getD_erase_of_ne hk]
      case isFalse => rw [ih hnodup.2 hrest, Members.getD_insert_of_ne hk]

theorem lookup_mergeMembers (hnodup : (patch.map (·.1)).Nodup) {value : Json}
    (h : List.lookup name patch = some value) (hnotNull : value.isNull = false) :
    List.lookup name (mergeMembers target patch) = some (merge (target.getD name) value) := by
  have hmerged : (mergeMembers target patch).get? name = _ := get?_mergeMembers_of_mem hnodup h
  rw [hnotNull, if_neg Bool.false_ne_true] at hmerged
  exact hmerged

theorem occurrences_mergeMembers_le (name : String) (target patch : Members) :
    Members.occurrences name (mergeMembers target patch) ≤
      max 1 (Members.occurrences name target) := by
  induction patch generalizing target with
  | nil => exact Nat.le_max_right 1 _
  | cons m rest ih =>
    obtain ⟨k, v⟩ := m
    unfold mergeMembers
    split
    case isTrue =>
      have herase := Members.occurrences_erase_le k name target
      exact Nat.le_trans (ih _) (by omega)
    case isFalse =>
      have hinsert := Members.occurrences_insert_le k name (merge (target.getD k) v) target
      exact Nat.le_trans (ih _) (by omega)

theorem repeats_eq_false_iff {names : List String} {ms : Members} :
    repeats names ms = false ↔ ∀ name ∈ names, Members.occurrences name ms ≤ 1 := by
  simp [repeats, Members.occurrences]

/-- A merge gives no name twice that was not given twice before. -/
theorem repeats_mergeMembers {names : List String} (h : repeats names target = false)
    (patch : Members) : repeats names (mergeMembers target patch) = false := by
  rw [repeats_eq_false_iff] at h ⊢
  intro name hname
  have hmerged := occurrences_mergeMembers_le name target patch
  have htarget := h name hname
  omega

/-! ## Patches of one member -/

section OneMember

variable {other : String} {value : Json}

theorem get?_merge_self (h : value.isNull = false) (j : Json) :
    Members.get? (merge j (.object [(name, value)])).members name =
      some (merge (j.field name) value) := by
  change Members.get? (mergeMembers j.members [(name, value)]) name = _
  rw [get?_mergeMembers_of_mem (by simp) (Members.get?_cons_self name value []), h,
    if_neg Bool.false_ne_true]
  rfl

theorem get?_merge_of_ne (h : other ≠ name) (j : Json) :
    Members.get? (merge j (.object [(name, value)])).members other =
      Members.get? j.members other := by
  refine get?_mergeMembers_of_none ?_
  rw [Members.get?_cons_of_ne h]
  rfl

theorem field_merge_self (h : value.isNull = false) (j : Json) :
    (merge j (.object [(name, value)])).field name = merge (j.field name) value :=
  congrArg (·.getD .null) (get?_merge_self h j)

theorem field_merge_of_ne (h : other ≠ name) (j : Json) :
    (merge j (.object [(name, value)])).field other = j.field other :=
  congrArg (·.getD .null) (get?_merge_of_ne h j)

end OneMember

/-! ## Fields after a merge -/

namespace Fields

variable {α : Type} {read : Json → Option α} {fs other : Fields}

theorem optional_congr (h : List.lookup name fs = List.lookup name other) :
    Fields.optional fs name read = Fields.optional other name read := by
  unfold Fields.optional
  rw [h]

theorem withDefault_congr {default : α} (h : List.lookup name fs = List.lookup name other) :
    Fields.withDefault fs name default read = Fields.withDefault other name default read := by
  unfold Fields.withDefault
  rw [h]

theorem withDefault_of_lookup {default a : α} {j : Json} (h : List.lookup name fs = some j)
    (hread : read j = some a) : Fields.withDefault fs name default read = some a := by
  unfold Fields.withDefault
  rw [h]
  exact hread

/-- An optional field after a merge: what the patch gives, or else what was there. -/
theorem optional_mergeMembers {value old : Option α} (write : α → Json)
    (hnodup : (patch.map (·.1)).Nodup) (hpatch : List.lookup name patch = value.map write)
    (hnotNull : ∀ a, (write a).isNull = false)
    (hread : ∀ a, read (merge (target.getD name) (write a)) = some a) (hnull : read .null = none)
    (hold : Fields.optional target name read = some old) :
    Fields.optional (mergeMembers target patch) name read = some (value.or old) := by
  cases value with
  | none =>
    rw [optional_congr (get?_mergeMembers_of_none hpatch), hold]
    rfl
  | some a =>
    refine optional_of_lookup (a := some a) ?_ hread hnull
    exact lookup_mergeMembers hnodup hpatch (hnotNull a)

/-- The same of a field that is not written as an object. -/
theorem optional_mergeMembers_of_plain {value old : Option α} (write : α → Json)
    (hnodup : (patch.map (·.1)).Nodup) (hpatch : List.lookup name patch = value.map write)
    (hplain : ∀ a, (write a).isNull = false ∧ (write a).object? = none)
    (hread : ∀ a, read (write a) = some a) (hnull : read .null = none)
    (hold : Fields.optional target name read = some old) :
    Fields.optional (mergeMembers target patch) name read = some (value.or old) :=
  optional_mergeMembers write hnodup hpatch (fun a => (hplain a).1)
    (fun a => by rw [merge_of_not_object (hplain a).2, hread]) hnull hold

/-- A field that a patch always gives has the value of the patch. -/
theorem withDefault_mergeMembers {default a : α} {j : Json} (hnodup : (patch.map (·.1)).Nodup)
    (hpatch : List.lookup name patch = some j) (hnotNull : j.isNull = false)
    (hread : read (merge (target.getD name) j) = some a) :
    Fields.withDefault (mergeMembers target patch) name default read = some a :=
  withDefault_of_lookup (lookup_mergeMembers hnodup hpatch hnotNull) hread

end Fields

theorem fields?_object {names : List String} {ms : Members} (h : repeats names ms = false) :
    fields? names (.object ms) = some ms := by
  change (if repeats names ms then none else some ms) = _
  rw [h, if_neg Bool.false_ne_true]

theorem bind_fields?_object {β : Type} {names : List String} {ms : Members}
    {f : Fields → Option β} {b : β} (h : repeats names ms = false) (hf : f ms = some b) :
    (fields? names (.object ms) >>= f) = some b := by
  rw [fields?_object h]
  exact hf

/-- What a record is read from gives no field twice. -/
theorem repeats_members_of_fields? {names : List String} {j : Json} {fs : Fields}
    (h : fields? names j = some fs) : repeats names j.members = false := by
  have hnil : repeats names [] = false := repeats_eq_false_iff.mpr fun _ _ => Nat.zero_le 1
  cases j with
  | object ms =>
    change (if repeats names ms then none else some ms) = some fs at h
    by_cases hrepeats : repeats names ms = true
    · rw [if_pos hrepeats] at h
      cases h
    · exact Bool.not_eq_true _ ▸ hrepeats
  | _ => exact hnil

end Json

end NetworkRollout
