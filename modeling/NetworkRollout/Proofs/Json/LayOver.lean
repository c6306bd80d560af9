import NetworkRollout.Json.LayOver
import NetworkRollout.Proofs.Json.Distinct

/-!
# Values laid over others

A server that merges what it is sent into what it holds lays the one value over the other. What is
found afterwards under a name was sent, or was there before and nothing was sent in its place.

* `Json.get?_layMembers_of_none`, `get?_layMembers_of_some`: the members afterwards.
* `Json.layMembers_of_part`, `layOver_self`: laying over what is there changes nothing.
* `Json.ReadsAs.layOver`: what reads still reads when something is laid over it that reads.
-/

namespace NetworkRollout

namespace Json

/-! ## Laying over -/

variable {name : String} {stored sent : Members}

theorem layOver_of_not_object {sent : Json} (h : sent.object? = none) (stored : Json) :
    layOver stored sent = sent := by
  cases sent <;> first | rfl | cases h

theorem get?_layMembers_of_none (h : sent.get? name = none) :
    (layMembers stored sent).get? name = stored.get? name := by
  induction sent generalizing stored with
  | nil => rfl
  | cons m rest ih =>
    obtain ⟨k, v⟩ := m
    have hne : name ≠ k := by
      rintro rfl
      rw [Members.get?_cons_self] at h
      cases h
    rw [Members.get?_cons_of_ne hne] at h
    rw [layMembers, ih h, Members.get?_insert_of_ne hne]

/-- What is sent is decided where it is sent: nothing behind it has its name. -/
theorem get?_layMembers_of_some (hnodup : (sent.map (·.1)).Nodup) {value : Json}
    (h : sent.get? name = some value) :
    (layMembers stored sent).get? name = some (layOver (stored.getD name) value) := by
  induction sent generalizing stored with
  | nil => cases h
  | cons m rest ih =>
    obtain ⟨k, v⟩ := m
    obtain ⟨hk, hrest⟩ := List.nodup_cons.mp hnodup
    rw [layMembers]
    by_cases hname : name = k
    · have hnone : Members.get? rest name = none := by
        rw [Members.get?, List.lookup_eq_none_iff]
        intro m hm
        have hne : m.1 ≠ k := fun heq => hk (List.mem_map.mpr ⟨m, hm, heq⟩)
        rw [hname]
        exact bne_iff_ne.mpr hne.symm
      rw [hname, Members.get?_cons_self] at h
      rw [get?_layMembers_of_none hnone, hname, Members.get?_insert_self, Option.some.inj h]
    · rw [Members.get?_cons_of_ne hname] at h
      rw [ih hrest h, Members.getD_insert_of_ne hname]

section Fields

variable {a b value : Json}

theorem get?_layOver (hb : b.Distinct) (h : Members.get? b.members name = some value) :
    Members.get? (a.layOver b).members name = some ((a.field name).layOver value) := by
  cases b with
  | object sent => exact get?_layMembers_of_some hb.names h
  | _ => cases h

theorem get?_layOver_of_none (hb : b.object?.isSome) (h : Members.get? b.members name = none) :
    Members.get? (a.layOver b).members name = Members.get? a.members name := by
  cases b with
  | object sent => exact get?_layMembers_of_none h
  | _ => cases hb

theorem field_layOver (hb : b.Distinct) (h : (b.field name).members ≠ []) :
    (a.layOver b).field name = (a.field name).layOver (b.field name) := by
  change (Members.getD b.members name).members ≠ [] at h
  change ((Members.get? (a.layOver b).members name).getD .null) =
    (a.field name).layOver (Members.getD b.members name)
  unfold Members.getD at h ⊢
  cases hvalue : Members.get? b.members name with
  | none =>
    rw [hvalue] at h
    exact absurd rfl h
  | some value =>
    rw [get?_layOver hb hvalue]
    rfl

/-- A member of a field stays unless the field is sent as something else than an object, or with
that member. -/
theorem get?_field_layOver {inner : String} (hdistinct : b.Distinct) (hb : b.object?.isSome)
    (h : ∀ value, Members.get? b.members name = some value →
      value.object?.isSome ∧ Members.get? value.members inner = none) :
    Members.get? ((a.layOver b).field name).members inner =
      Members.get? (a.field name).members inner := by
  cases hvalue : Members.get? b.members name with
  | none =>
    have hfield : (a.layOver b).field name = a.field name :=
      congrArg (·.getD .null) (get?_layOver_of_none hb hvalue)
    rw [hfield]
  | some value =>
    obtain ⟨hobject, hinner⟩ := h value hvalue
    have hfield : (a.layOver b).field name = (a.field name).layOver value :=
      congrArg (·.getD .null) (get?_layOver hdistinct hvalue)
    rw [hfield, get?_layOver_of_none hobject hinner]

end Fields

/-- Laying over members that are all there changes nothing. -/
theorem layMembers_of_part
    (h : ∀ m ∈ sent, ∃ value, stored.get? m.1 = some value ∧ layOver value m.2 = value) :
    layMembers stored sent = stored := by
  induction sent with
  | nil => rfl
  | cons m rest ih =>
    obtain ⟨hm, hrest⟩ := List.forall_mem_cons.mp h
    obtain ⟨value, hvalue, hlaid⟩ := hm
    have hstored : stored.getD m.1 = value := congrArg (·.getD .null) hvalue
    rw [layMembers, hstored, hlaid, Members.insert_of_get? hvalue]
    exact ih hrest

/-- The same, said of look-ups. -/
theorem layOver_of_part {ms : Members} {b : Json} (hb : b.Distinct) (hobject : b.object?.isSome)
    (h : ∀ name value, Members.get? b.members name = some value →
      ∃ stored, ms.get? name = some stored ∧ layOver stored value = stored) :
    (Json.object ms).layOver b = .object ms := by
  cases b with
  | object sent =>
    refine congrArg Json.object (layMembers_of_part fun m hm => ?_)
    exact h m.1 m.2 (Members.get?_of_mem hb.names hm)
  | _ => cases hobject

theorem layOver_self {j : Json} (h : j.Distinct) : layOver j j = j := by
  induction h with
  | @object ms hnames _ ih =>
    have hsame : layMembers ms ms = ms := layMembers_of_part fun m hm =>
      ⟨m.2, Members.get?_of_mem hnames hm, ih m hm⟩
    change Json.object (layMembers ms ms) = _
    rw [hsame]
  | plain hplain => exact layOver_of_not_object hplain _

namespace Distinct

mutual

/-- What is laid over makes no object give a name twice. -/
theorem layOver {stored : Json} (h : stored.Distinct) :
    (sent : Json) → (Json.layOver stored sent).Distinct
  | .object sent => layMembers h.members sent
  | .null | .bool _ | .int _ | .float _ | .text _ | .array _ | .unreadable => .plain rfl

theorem layMembers {stored : Members} (h : (Json.object stored).Distinct) :
    (sent : Members) → (Json.object (Json.layMembers stored sent)).Distinct
  | [] => h
  | (name, sent) :: rest => by
    rw [Json.layMembers]
    exact layMembers (h.insert (layOver (h.field name) sent)) rest

end

end Distinct

/-! ## What reads -/

/-- The member is missing, null, or passes a check. -/
def FieldReads (ms : Members) (name : String) (check : Json → Bool) : Prop :=
  ∀ j, ms.get? name = some j → j.isNull = true ∨ check j = true

theorem isSome_optional_iff {α : Type} {read : Json → Option α} :
    (Fields.optional sent name read).isSome ↔ FieldReads sent name fun j => (read j).isSome := by
  unfold Fields.optional FieldReads Members.get?
  cases List.lookup name sent with
  | none => simp
  | some j =>
    cases j with
    | null => simp [isNull]
    | _ => simp [isNull]

theorem FieldReads.of_optional {α : Type} {read : Json → Option α} {found : Option α}
    (h : Fields.optional sent name read = some found) :
    FieldReads sent name fun j => (read j).isSome :=
  isSome_optional_iff.mp (Option.isSome_of_eq_some h)

theorem FieldReads.exists_optional {α : Type} {read : Json → Option α}
    (h : FieldReads sent name fun j => (read j).isSome) :
    ∃ found, Fields.optional sent name read = some found :=
  Option.isSome_iff_exists.mp (isSome_optional_iff.mpr h)

/-- What is read of a member that may be missing is read from its value. -/
theorem Fields.exists_of_optional {α : Type} {read : Json → Option α} {a : α}
    (h : Fields.optional sent name read = some (some a)) :
    ∃ value, sent.get? name = some value ∧ read value = some a := by
  unfold Fields.optional at h
  split at h
  case h_1 => cases h
  case h_2 => cases h
  case h_3 value _ hvalue =>
    obtain ⟨b, hread, heq⟩ := Option.map_eq_some_iff.mp h
    cases heq
    exact ⟨value, hvalue, hread⟩

/-- The value is null, or an object whose members of these names pass their checks. -/
def ReadsAs (checks : List (String × (Json → Bool))) (j : Json) : Prop :=
  j.isNull = true ∨ ∃ ms, j = .object ms ∧ ∀ c ∈ checks, FieldReads ms c.1 c.2

/-- The check is passed after something that passes it was laid over null, or over something that
passes it. -/
def StaysRead (check : Json → Bool) : Prop :=
  ∀ a b, (a.isNull = true ∨ check a = true) → check b = true → check (layOver a b) = true

/-- A check that no object passes has nothing to merge. -/
theorem staysRead_of_plain {check : Json → Bool} (h : ∀ ms, check (.object ms) = false) :
    StaysRead check := by
  intro a b _ hb
  cases b with
  | object ms =>
    rw [h ms] at hb
    cases hb
  | _ => exact hb

theorem FieldReads.layMembers {check : Json → Bool} (hstays : StaysRead check)
    (hnodup : (sent.map (·.1)).Nodup) (hstored : FieldReads stored name check)
    (hsent : FieldReads sent name check) :
    FieldReads (Json.layMembers stored sent) name check := by
  intro j hj
  cases hmember : sent.get? name with
  | none =>
    rw [get?_layMembers_of_none hmember] at hj
    exact hstored j hj
  | some value =>
    rw [get?_layMembers_of_some hnodup hmember] at hj
    obtain rfl := Option.some.inj hj
    rcases hsent value hmember with hnull | hcheck
    · cases value with
      | null => exact Or.inl rfl
      | _ => cases hnull
    · refine Or.inr (hstays _ _ ?_ hcheck)
      change ((stored.get? name).getD .null).isNull = true ∨ _
      unfold Members.getD
      cases hold : stored.get? name with
      | none => exact Or.inl rfl
      | some old => exact hstored old hold

theorem ReadsAs.layOver {checks : List (String × (Json → Bool))} {a b : Json}
    (hstays : ∀ c ∈ checks, StaysRead c.2) (ha : ReadsAs checks a) (hb : ReadsAs checks b)
    (hdistinct : b.Distinct) : ReadsAs checks (Json.layOver a b) := by
  rcases hb with hnull | ⟨sent, rfl, hsent⟩
  · cases b with
    | null => exact Or.inl rfl
    | _ => cases hnull
  · have hstored : ∀ c ∈ checks, FieldReads a.members c.1 c.2 := by
      rcases ha with hnull | ⟨stored, rfl, hstored⟩
      · cases a with
        | null => rintro c - j ⟨⟩
        | _ => cases hnull
      · exact hstored
    exact Or.inr ⟨_, rfl, fun c hc =>
      (hstored c hc).layMembers (hstays c hc) hdistinct.nodup (hsent c hc)⟩

end Json

end NetworkRollout
