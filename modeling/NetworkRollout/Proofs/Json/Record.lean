import Mathlib.Data.List.Forall2
import NetworkRollout.Json.Record
import NetworkRollout.Proofs.Json.RoundTrip

/-!
# Records read back from their JSON form

A record is written as an object with a member for each field that is there. When the fields have
different names, the object is read field by field: each name is looked up, and what is found is
read as a value of the field.

* `Follows`: members written for fields of given names, in their order.
* `fields?_objectOf`: such members are accepted as the fields of the record.
* `exact_objectOf`: the object is exact when its values are.
* `lookup_always`, `lookup_whenSome`: a written member is found; `lookup_cons_of_ne`: another one
  is passed over.
* `bind_fields?`, `Fields.bind_required`, `bind_withDefault`, `bind_optional`: a record is read,
  field by field, from what is found.
-/

namespace NetworkRollout.Json

variable {α : Type} {name : String} {ms : List (Option (String × Json))}

/-! ## Written members -/

/-- The members that are there. -/
def written (ms : List (Option (String × Json))) : Members := ms.filterMap id

/-- A member has the name, if it is there. -/
def Named (name : String) (m : Option (String × Json)) : Prop := ∀ p, m = some p → p.1 = name

/-- A member has another name than this, if it is there. -/
def NotNamed (name : String) (m : Option (String × Json)) : Prop :=
  ∀ p, m = some p → p.1 ≠ name

@[simp] theorem named_always (value : Json) : Named name (always name value) := by
  rintro p ⟨⟩
  rfl

@[simp] theorem notNamed_always {other : String} (h : other ≠ name) (value : Json) :
    NotNamed name (always other value) := by
  rintro p ⟨⟩
  exact h

@[simp] theorem named_whenSome (write : α → Json) (value : Option α) :
    Named name (whenSome name write value) := by
  intro p hp
  obtain ⟨a, -, rfl⟩ := Option.map_eq_some_iff.mp hp
  rfl

@[simp] theorem notNamed_whenSome {other : String} (h : other ≠ name) (write : α → Json)
    (value : Option α) : NotNamed name (whenSome other write value) := by
  intro p hp
  obtain ⟨a, -, rfl⟩ := Option.map_eq_some_iff.mp hp
  exact h

/-- The members are written for the fields of these names, in their order. -/
def Follows (names : List String) (ms : List (Option (String × Json))) : Prop :=
  List.Forall₂ Named names ms

@[simp] theorem follows_nil : Follows [] [] := List.Forall₂.nil

@[simp] theorem follows_cons {names : List String} {m : Option (String × Json)} :
    Follows (name :: names) (m :: ms) ↔ Named name m ∧ Follows names ms :=
  List.forall₂_cons

/-- Only names of fields occur among the members. -/
theorem Follows.names_sublist {names : List String} (h : Follows names ms) :
    ((written ms).map (·.1)).Sublist names := by
  induction h with
  | nil => exact List.Sublist.slnil
  | @cons name m names ms hm _ ih =>
    cases m with
    | none => exact ih.cons name
    | some p =>
      have hp : p.1 = name := hm p rfl
      change (p.1 :: (written ms).map (·.1)).Sublist (name :: names)
      rw [hp]
      exact ih.cons_cons name

/-- No name is given twice among members of different names. -/
theorem repeats_eq_false_of_nodup {names : List String} {ms : Members}
    (h : (ms.map (·.1)).Nodup) : repeats names ms = false := by
  unfold repeats
  rw [List.any_eq_false]
  intro name _
  have hcount : (ms.filter (·.1 = name)).length = (ms.map (·.1)).count name := by
    rw [← List.countP_eq_length_filter, List.count, List.countP_map]
    exact List.countP_congr fun m _ => by simp
  rw [hcount, decide_eq_true_eq, Nat.not_lt]
  exact List.nodup_iff_count.mp h name

/-- The members of a written record are its fields. -/
theorem fields?_objectOf {names : List String} (hnames : names.Nodup) (h : Follows names ms) :
    fields? names (objectOf ms) = some (written ms) := by
  have hnodup : ((written ms).map (·.1)).Nodup := h.names_sublist.nodup hnames
  change (if repeats names (written ms) then none else some (written ms)) = _
  rw [repeats_eq_false_of_nodup hnodup]
  rfl

/-! ## Look-up -/

@[simp] theorem lookup_cons_of_ne {m : Option (String × Json)} (hm : NotNamed name m) :
    List.lookup name (written (m :: ms)) = List.lookup name (written ms) := by
  cases m with
  | none => rfl
  | some p =>
    have hp : (name == p.1) = false := by simpa using (hm p rfl).symm
    change List.lookup name ((p.1, p.2) :: written ms) = _
    rw [List.lookup_cons, hp]

@[simp] theorem lookup_always (value : Json) :
    List.lookup name (written (always name value :: ms)) = some value := by
  simp [written, always]

/-- A name that no member has is not found. -/
theorem lookup_eq_none (h : ∀ m ∈ ms, NotNamed name m) :
    List.lookup name (written ms) = none := by
  induction ms with
  | nil => rfl
  | cons m ms ih =>
    rw [lookup_cons_of_ne (h m List.mem_cons_self)]
    exact ih fun m hm => h m (List.mem_cons_of_mem _ hm)

@[simp] theorem lookup_whenSome (write : α → Json) (value : Option α)
    (hms : ∀ m ∈ ms, NotNamed name m) :
    List.lookup name (written (whenSome name write value :: ms)) = value.map write := by
  cases value with
  | none =>
    change List.lookup name (written ms) = none
    exact lookup_eq_none hms
  | some a => exact lookup_always (write a)

/-! ## Fields -/

namespace Fields

variable {read : Json → Option α} {fs : Fields}

/-- A record is read when its first field is, and the rest is with it. -/
theorem bind_required {β : Type} {f : α → Option β} {j : Json} {a : α} {b : β}
    (h : List.lookup name fs = some j) (hread : read j = some a) (hf : f a = some b) :
    (fs.required name read >>= f) = some b := by
  unfold Fields.required
  rw [h, Option.bind_some, hread]
  exact hf

theorem bind_withDefault {β : Type} {f : α → Option β} {j : Json} {a default : α} {b : β}
    (h : List.lookup name fs = some j) (hread : read j = some a) (hf : f a = some b) :
    (fs.withDefault name default read >>= f) = some b := by
  unfold Fields.withDefault
  rw [h]
  dsimp only
  rw [hread]
  exact hf

/-- An optional field is read from what the look-up finds. Nothing is written as null. -/
theorem optional_of_lookup {write : α → Json} {a : Option α}
    (h : List.lookup name fs = a.map write) (hread : ∀ x, read (write x) = some x)
    (hnull : read .null = none) : fs.optional name read = some a := by
  unfold Fields.optional
  rw [h]
  cases a with
  | none => rfl
  | some x =>
    rw [Option.map_some]
    split
    case h_1 heq => cases heq
    case h_2 heq =>
      injection heq with heq
      have hread := hread x
      rw [heq, hnull] at hread
      cases hread
    case h_3 j _ heq =>
      injection heq with heq
      rw [← heq, hread]
      rfl

theorem bind_optional {β : Type} {f : Option α → Option β} {write : α → Json} {a : Option α}
    {b : β} (h : List.lookup name fs = a.map write) (hread : ∀ x, read (write x) = some x)
    (hnull : read .null = none) (hf : f a = some b) :
    (fs.optional name read >>= f) = some b := by
  rw [optional_of_lookup h hread hnull]
  exact hf

end Fields

/-- The fields of a written record are read as the record. -/
theorem bind_fields? {β : Type} {names : List String} {f : Fields → Option β} {b : β}
    (hnames : names.Nodup) (h : Follows names ms) (hf : f (written ms) = some b) :
    (fields? names (objectOf ms) >>= f) = some b := by
  rw [fields?_objectOf hnames h]
  exact hf

/-! ## Exact records -/

/-- The value of a member is exact, if the member is there. -/
def ExactMember (m : Option (String × Json)) : Prop := ∀ p, m = some p → p.2.Exact

@[simp] theorem exactMember_always {value : Json} (h : value.Exact) :
    ExactMember (always name value) := by
  rintro p ⟨⟩
  exact h

@[simp] theorem exactMember_whenSome {write : α → Json} (h : ∀ a, (write a).Exact)
    (value : Option α) : ExactMember (whenSome name write value) := by
  intro p hp
  obtain ⟨a, -, rfl⟩ := Option.map_eq_some_iff.mp hp
  exact h a

@[simp] theorem exact_objectOf (h : ∀ m ∈ ms, ExactMember m) : (objectOf ms).Exact := by
  refine Exact.object fun p hp => ?_
  obtain ⟨m, hm, hp⟩ := List.mem_filterMap.mp hp
  exact h m hm p hp

@[simp] theorem exact_ofList {write : α → Json} (h : ∀ a, (write a).Exact) (items : List α) :
    (ofList write items).Exact := by
  refine Exact.array fun j hj => ?_
  obtain ⟨a, -, rfl⟩ := List.mem_map.mp hj
  exact h a

attribute [simp] Exact.text Exact.bool

@[simp] theorem exact_ofU32 (n : UInt32) : (ofU32 n).Exact := by
  refine Exact.int ⟨by omega, ?_⟩
  have hbound : n.toNat < UInt32.size := n.toNat_lt_size
  have hwider : UInt32.size ≤ UInt64.size := by decide
  exact_mod_cast Nat.lt_of_lt_of_le hbound hwider

/-! ## Values of fields -/

@[simp] theorem text?_text (t : String) : text? (.text t) = some t := rfl

@[simp] theorem text?_null : text? .null = none := rfl

@[simp] theorem bool?_bool (b : Bool) : bool? (.bool b) = some b := rfl

@[simp] theorem u32?_null : u32? .null = none := rfl

@[simp] theorem u32?_ofU32 (n : UInt32) : u32? (ofU32 n) = some n := by
  have hbound : (0 : Int) ≤ n.toNat ∧ (n.toNat : Int) < UInt32.size :=
    ⟨Int.natCast_nonneg _, by exact_mod_cast n.toNat_lt_size⟩
  simp only [u32?, ofU32, hbound, and_self, if_true, Int.toNat_natCast, UInt32.ofNat_toNat]

/-- A list is read when all its items are. -/
@[simp] theorem listOf?_ofList {read : Json → Option α} {write : α → Json}
    (hread : ∀ a, read (write a) = some a) (items : List α) :
    listOf? read (ofList write items) = some items := by
  unfold listOf? ofList
  dsimp only
  induction items with
  | nil => rfl
  | cons a items ih =>
    rw [List.map_cons, List.mapM_cons, hread, ih]
    rfl

end NetworkRollout.Json
