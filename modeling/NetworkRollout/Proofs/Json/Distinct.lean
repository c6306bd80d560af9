import NetworkRollout.Proofs.Json.MergePatch

/-!
# Values that give no name twice

An object may be written with a name twice, and then a look-up finds the first one. A value without
such repetitions is made of any other, and stays one when a patch is merged into it.

* `Members.get?_of_mem`, `get?_of_perm`: look-ups where no name is given twice.
* `Json.Distinct`: no object outside of lists gives a name twice.
* `Json.distinct_dedup`, `Distinct.dedup_eq`: leaving repetitions out.
* `Json.Distinct.merge`: merge patches.
-/

namespace NetworkRollout

/-! ## Members with different names -/

namespace Members

variable {ms : Members} {name : String} {value : Json}

theorem mem_of_get? (h : ms.get? name = some value) : (name, value) ∈ ms := by
  obtain ⟨before, after, rfl, -⟩ := List.lookup_eq_some_iff.mp h
  exact List.mem_append_right before List.mem_cons_self

/-- When no name is given twice, every member is found under its name. -/
theorem get?_of_mem (hnodup : (ms.map (·.1)).Nodup) (h : (name, value) ∈ ms) :
    ms.get? name = some value := by
  induction ms with
  | nil => cases h
  | cons m rest ih =>
    obtain ⟨k, v⟩ := m
    rw [List.map_cons, List.nodup_cons] at hnodup
    rcases List.mem_cons.mp h with heq | hrest
    · cases heq
      exact get?_cons_self name value rest
    · have hne : name ≠ k := by
        rintro rfl
        exact hnodup.1 (List.mem_map.mpr ⟨_, hrest, rfl⟩)
      rw [get?_cons_of_ne hne]
      exact ih hnodup.2 hrest

/-- The order of members does not matter when no name is given twice. -/
theorem get?_of_perm {ms' : Members} (hnodup : (ms.map (·.1)).Nodup) (h : ms'.Perm ms)
    (name : String) : ms'.get? name = ms.get? name := by
  have hnodup' : (ms'.map (·.1)).Nodup := (h.map _).nodup_iff.mpr hnodup
  refine Option.ext fun value => ⟨fun hfound => ?_, fun hfound => ?_⟩
  · exact get?_of_mem hnodup (h.mem_iff.mp (mem_of_get? hfound))
  · exact get?_of_mem hnodup' (h.mem_iff.mpr (mem_of_get? hfound))

theorem insert_of_get? (h : ms.get? name = some value) : Members.insert name value ms = ms := by
  induction ms with
  | nil => cases h
  | cons m rest ih =>
    obtain ⟨k, v⟩ := m
    unfold Members.insert
    split
    case isTrue hk =>
      rw [← hk, get?_cons_self] at h
      rw [Option.some.inj h]
    case isFalse hk =>
      rw [get?_cons_of_ne (Ne.symm hk)] at h
      rw [ih h]

theorem mem_insert {m : String × Json} (h : m ∈ Members.insert name value ms) :
    m = (name, value) ∨ m ∈ ms := by
  induction ms with
  | nil => exact Or.inl (List.mem_singleton.mp h)
  | cons first rest ih =>
    obtain ⟨k, v⟩ := first
    unfold Members.insert at h
    split at h
    case isTrue hk =>
      rw [hk] at h
      exact (List.mem_cons.mp h).imp_right (List.mem_cons_of_mem _)
    case isFalse hk =>
      rcases List.mem_cons.mp h with hfirst | hrest
      · exact Or.inr (hfirst ▸ List.mem_cons_self)
      · exact (ih hrest).imp_right (List.mem_cons_of_mem _)

theorem nodup_insert (h : (ms.map (·.1)).Nodup) :
    ((Members.insert name value ms).map (·.1)).Nodup := by
  induction ms with
  | nil => exact List.pairwise_singleton _ name
  | cons first rest ih =>
    obtain ⟨k, v⟩ := first
    obtain ⟨hk, hrest⟩ := List.nodup_cons.mp h
    unfold Members.insert
    split
    case isTrue => exact h
    case isFalse hne =>
      refine List.nodup_cons.mpr ⟨fun hmem => ?_, ih hrest⟩
      obtain ⟨m, hm, hname⟩ := List.mem_map.mp hmem
      rcases mem_insert hm with rfl | hm
      · exact hne hname.symm
      · exact hk (List.mem_map.mpr ⟨m, hm, hname⟩)

end Members

namespace Json

/-- No object in the value gives a name twice. What is in lists does not matter here, since a list
is never merged. -/
inductive Distinct : Json → Prop
  | object {ms : Members} (hnames : (ms.map (·.1)).Nodup) (heach : ∀ m ∈ ms, Distinct m.2) :
      Distinct (.object ms)
  | plain {j : Json} (h : j.object? = none) : Distinct j

namespace Distinct

theorem nodup {j : Json} (h : j.Distinct) : (j.members.map (·.1)).Nodup := by
  cases h with
  | object hnames _ => exact hnames
  | plain h => cases j <;> first | exact List.nodup_nil | cases h

theorem names {ms : Members} (h : (Json.object ms).Distinct) : (ms.map (·.1)).Nodup := h.nodup

theorem each {ms : Members} (h : (Json.object ms).Distinct) : ∀ m ∈ ms, m.2.Distinct := by
  cases h with
  | object _ heach => exact heach
  | plain h => cases h

theorem members {j : Json} (h : j.Distinct) : (Json.object j.members).Distinct := by
  cases h with
  | object hnames heach => exact .object hnames heach
  | plain h =>
    cases j <;> first | exact .object List.nodup_nil (by rintro m ⟨⟩) | cases h

theorem of_get? {j value : Json} {name : String} (h : j.Distinct)
    (hvalue : Members.get? j.members name = some value) : value.Distinct := by
  have hmem := Members.mem_of_get? hvalue
  cases j with
  | object ms => exact h.each _ hmem
  | _ => cases hmem

theorem field {j : Json} (h : j.Distinct) (name : String) : (j.field name).Distinct := by
  change ((Members.get? j.members name).getD .null).Distinct
  cases hvalue : Members.get? j.members name with
  | none => exact .plain rfl
  | some value => exact h.of_get? hvalue

theorem insert {ms : Members} {name : String} {value : Json} (h : (Json.object ms).Distinct)
    (hvalue : value.Distinct) : (Json.object (Members.insert name value ms)).Distinct := by
  refine .object (Members.nodup_insert h.nodup) ?_
  intro m hm
  rcases Members.mem_insert hm with rfl | hm
  · exact hvalue
  · exact h.each m hm

theorem sublist {ms ms' : Members} (h : (Json.object ms).Distinct) (hsub : ms'.Sublist ms) :
    (Json.object ms').Distinct :=
  .object ((hsub.map _).nodup h.nodup) fun m hm => h.each m (hsub.subset hm)

theorem perm {ms ms' : Members} (h : (Json.object ms).Distinct) (hperm : ms'.Perm ms) :
    (Json.object ms').Distinct :=
  .object ((hperm.map _).nodup_iff.mpr h.nodup) fun m hm => h.each m (hperm.mem_iff.mp hm)

end Distinct

/-! ## Leaving repetitions out -/

mutual

theorem distinct_dedup : (j : Json) → j.dedup.Distinct
  | .object ms => distinct_dedupMembers ms
  | .null | .bool _ | .int _ | .float _ | .text _ | .array _ | .unreadable => .plain rfl

theorem distinct_dedupMembers : (ms : Members) → (Json.object (dedupMembers ms)).Distinct
  | [] => .object List.nodup_nil (by rintro m ⟨⟩)
  | (name, value) :: rest => by
    have hrest : (Json.object ((dedupMembers rest).erase name)).Distinct :=
      (distinct_dedupMembers rest).sublist List.filter_sublist
    refine .object (List.nodup_cons.mpr ⟨fun hmem => ?_, hrest.nodup⟩) ?_
    · obtain ⟨m, hm, hname⟩ := List.mem_map.mp hmem
      exact of_decide_eq_true (List.mem_filter.mp hm).2 hname
    · exact List.forall_mem_cons.mpr ⟨distinct_dedup value, hrest.each⟩

end

/-- Where no name is given twice there is nothing to leave out. -/
theorem Distinct.dedup_eq {j : Json} (h : j.Distinct) : j.dedup = j := by
  induction h with
  | @plain j hplain => cases j <;> first | rfl | cases hplain
  | @object ms hnames heach ih =>
    clear heach
    refine congrArg Json.object ?_
    induction ms with
    | nil => rfl
    | cons m rest ihRest =>
      obtain ⟨name, value⟩ := m
      obtain ⟨hname, hrest⟩ := List.nodup_cons.mp hnames
      obtain ⟨hvalue, hvalues⟩ := List.forall_mem_cons.mp ih
      have hkept : Members.erase name rest = rest := List.filter_eq_self.mpr fun m hm =>
        decide_eq_true fun heq => hname (List.mem_map.mpr ⟨m, hm, heq⟩)
      rw [dedupMembers, hvalue, ihRest hrest hvalues, hkept]

theorem members_dedup (j : Json) : j.dedup.members = dedupMembers j.members := by
  cases j <;> rfl

/-- A look-up finds the first member of a name either way. -/
theorem get?_dedupMembers (ms : Members) (name : String) :
    (dedupMembers ms).get? name = (ms.get? name).map dedup := by
  induction ms with
  | nil => rfl
  | cons m rest ih =>
    obtain ⟨k, value⟩ := m
    rw [dedupMembers]
    by_cases hname : name = k
    · rw [hname, Members.get?_cons_self, Members.get?_cons_self]
      rfl
    · rw [Members.get?_cons_of_ne hname, Members.get?_cons_of_ne hname,
        Members.get?_erase_of_ne hname, ih]

/-! ## Merges -/

namespace Distinct

theorem erase {ms : Members} (h : (Json.object ms).Distinct) (name : String) :
    (Json.object (Members.erase name ms)).Distinct :=
  h.sublist List.filter_sublist

mutual

/-- A patch gives no name twice, whatever it is: its members are put in one after another. -/
theorem merge {target : Json} (h : target.Distinct) : (patch : Json) → (target.merge patch).Distinct
  | .object patch => mergeMembers h.members patch
  | .null | .bool _ | .int _ | .float _ | .text _ | .array _ | .unreadable => .plain rfl

theorem mergeMembers {target : Members} (h : (Json.object target).Distinct) :
    (patch : Members) → (Json.object (Json.mergeMembers target patch)).Distinct
  | [] => h
  | (name, patch) :: rest => by
    rw [Json.mergeMembers]
    split
    case isTrue => exact mergeMembers (h.erase name) rest
    case isFalse => exact mergeMembers (h.insert (merge (h.field name) patch)) rest

end

end Distinct

end Json

end NetworkRollout
