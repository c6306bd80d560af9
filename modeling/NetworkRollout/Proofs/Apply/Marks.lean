import Mathlib.Data.List.Infix
import NetworkRollout.Proofs.Apply.Stamp

/-!
# Where the marks of a rollout go

Stamping writes two texts: the release and the family among the annotations of a workload, and the
family once more among those of its pod template. Nothing else of an object changes, at any depth,
and a second stamp changes nothing at all. The way to the template is made where it is missing, but
it ends at a value that is no object, and null is such a value: a template whose annotations are
null gets no mark.

* `Json.at?`: the value at the end of a path, if the path gets there.
* `Members.opens`, `Members.at?_setText_self`, `at?_setText_of_apart`: which ways are open, and what
  a text at the end of one changes.
* `Object.Stamped`, `stamp_marks`: what stamping does to any list of objects.
* `not_stamp_reaches_template`: null on the way to a template.
-/

namespace NetworkRollout

/-! ## Paths -/

namespace Json

/-- The value at the end of a path of names, if the path gets there. -/
def at? : Json → List String → Option Json
  | j, [] => some j
  | j, name :: path => (Members.get? j.members name).bind fun value => at? value path

theorem at?_cons (ms : Members) (name : String) (path : List String) :
    (object ms).at? (name :: path) = (ms.get? name).bind fun value => value.at? path := rfl

/-- No path leads on from a value without members. -/
theorem at?_of_members_nil {j : Json} (h : j.members = []) {path : List String}
    (hpath : path ≠ []) : j.at? path = none := by
  cases path with
  | nil => exact absurd rfl hpath
  | cons name path =>
    rw [at?, h]
    rfl

end Json

/-- Two paths of which neither leads through the end of the other. -/
structure Apart (path other : List String) : Prop where
  not_prefix : ¬ path <+: other
  not_extends : ¬ other <+: path

namespace Apart

theorem ne_nil {path other : List String} (h : Apart path other) : path ≠ [] := by
  rintro rfl
  exact h.not_prefix List.nil_prefix

/-- Below a common name, paths are apart if they were. -/
theorem tail {name : String} {path other : List String}
    (h : Apart (name :: path) (name :: other)) : Apart path other where
  not_prefix hprefix := h.not_prefix (List.cons_prefix_cons.mpr ⟨rfl, hprefix⟩)
  not_extends hprefix := h.not_extends (List.cons_prefix_cons.mpr ⟨rfl, hprefix⟩)

end Apart

/-! ## Texts at the end of a way -/

namespace Members

open Json

variable {ms inner : Members} {field name value : String} {path : List String}

/-- The members below a name: those of the object there, none where nothing is. -/
def below? (ms : Members) (field : String) : Option Members :=
  match ms.get? field with
  | none => some []
  | some value => value.object?

theorem below?_eq_some_iff : ms.below? field = some inner ↔
    ms.get? field = some (.object inner) ∨ ms.get? field = none ∧ inner = [] := by
  unfold below?
  cases ms.get? field with
  | none => simp [eq_comm]
  | some value => cases value <;> simp [object?]

theorem setText_cons (ms : Members) (name value field : String) (path : List String) :
    ms.setText name value (field :: path) =
      match ms.below? field with
      | none => ms
      | some inner => ms.insert field (.object (inner.setText name value path)) := by
  unfold below?
  rw [setText]
  cases ms.get? field with
  | none => rfl
  | some value => cases value <;> rfl

theorem below?_insert_self (ms inner : Members) (field : String) :
    (ms.insert field (.object inner)).below? field = some inner :=
  below?_eq_some_iff.mpr (Or.inl (get?_insert_self _ _ _))

/-- A path goes on below its first name. -/
theorem at?_below (h : ms.below? field = some inner) (hpath : path ≠ []) :
    (object ms).at? (field :: path) = (object inner).at? path := by
  rw [at?_cons]
  rcases below?_eq_some_iff.mp h with hget | ⟨hget, rfl⟩
  · rw [hget]
    rfl
  · rw [hget]
    exact (at?_of_members_nil rfl hpath).symm

/-- Whether there is an object at each name of the way, or nothing from some name on. -/
def opens : Members → List String → Bool
  | _, [] => true
  | ms, field :: path =>
    match ms.below? field with
    | none => false
    | some inner => opens inner path

theorem opens_nil_members (path : List String) : opens [] path = true := by
  induction path with
  | nil => rfl
  | cons field path ih => exact ih

/-- Where the way is not open, nothing is written. -/
theorem setText_of_not_opens (h : ms.opens path = false) : ms.setText name value path = ms := by
  induction path generalizing ms with
  | nil => cases h
  | cons field path ih =>
    rw [setText_cons]
    rw [opens] at h
    cases hbelow : ms.below? field with
    | none => rfl
    | some inner =>
      rw [hbelow] at h
      dsimp only at h ⊢
      -- The way cannot end below a missing object: from there on it is open.
      rcases below?_eq_some_iff.mp hbelow with hget | ⟨-, rfl⟩
      · rw [ih h]
        exact insert_of_get? hget
      · rw [opens_nil_members] at h
        cases h

theorem at?_of_not_opens (h : ms.opens path = false) : (object ms).at? (path ++ [name]) = none := by
  induction path generalizing ms with
  | nil => cases h
  | cons field path ih =>
    have hne : path ++ [name] ≠ [] := List.append_ne_nil_of_right_ne_nil _ (List.cons_ne_nil _ _)
    rw [opens] at h
    rw [List.cons_append]
    cases hbelow : ms.below? field with
    | none =>
      unfold below? at hbelow
      rw [at?_cons]
      cases hget : ms.get? field with
      | none => rfl
      | some value =>
        rw [hget] at hbelow
        refine at?_of_members_nil ?_ hne
        cases value with
        | object inner => cases hbelow
        | _ => rfl
    | some inner =>
      rw [hbelow] at h
      rw [at?_below hbelow hne]
      exact ih h

/-- Where it is open, the text stands at its end. -/
theorem at?_setText_self (h : ms.opens path = true) :
    (object (ms.setText name value path)).at? (path ++ [name]) = some (.text value) := by
  induction path generalizing ms with
  | nil =>
    rw [List.nil_append, at?_cons, setText, get?_insert_self]
    rfl
  | cons field path ih =>
    have hne : path ++ [name] ≠ [] := List.append_ne_nil_of_right_ne_nil _ (List.cons_ne_nil _ _)
    rw [opens] at h
    rw [setText_cons, List.cons_append]
    cases hbelow : ms.below? field with
    | none =>
      rw [hbelow] at h
      cases h
    | some inner =>
      rw [hbelow] at h
      dsimp only
      rw [at?_below (below?_insert_self _ _ _) hne]
      exact ih h

/-- No value changes but the text, and those that it stands in. -/
theorem at?_setText_of_apart {other : List String} (h : Apart other (path ++ [name])) :
    (object (ms.setText name value path)).at? other = (object ms).at? other := by
  induction path generalizing ms other with
  | nil =>
    cases other with
    | nil => exact absurd rfl h.ne_nil
    | cons first rest =>
      have hne : first ≠ name := by
        rintro rfl
        exact h.not_extends (List.cons_prefix_cons.mpr ⟨rfl, List.nil_prefix⟩)
      rw [at?_cons, at?_cons, setText, get?_insert_of_ne hne]
  | cons field path ih =>
    cases other with
    | nil => exact absurd rfl h.ne_nil
    | cons first rest =>
      by_cases hfirst : first = field
      · subst hfirst
        have hrest := h.tail
        rw [setText_cons]
        cases hbelow : ms.below? first with
        | none => rfl
        | some inner =>
          dsimp only
          rw [at?_below (below?_insert_self _ _ _) hrest.ne_nil, at?_below hbelow hrest.ne_nil]
          exact ih hrest
      · rw [at?_cons, at?_cons, get?_setText_of_ne hfirst]

/-- A text that stands where it belongs is left alone. -/
theorem setText_setText (ms : Members) (name value : String) (path : List String) :
    (ms.setText name value path).setText name value path = ms.setText name value path := by
  induction path generalizing ms with
  | nil => exact insert_of_get? (get?_insert_self _ _ _)
  | cons field path ih =>
    have hwritten := setText_cons ms name value field path
    cases hbelow : ms.below? field with
    | none =>
      rw [hbelow] at hwritten
      rw [hwritten, hwritten]
    | some inner =>
      rw [hbelow] at hwritten
      dsimp only at hwritten
      rw [hwritten, setText_cons, below?_insert_self]
      dsimp only
      rw [ih]
      exact insert_of_get? (get?_insert_self _ _ _)

/-- A way is open if all that stands on it are objects. -/
theorem opens_iff : ms.opens path = true ↔
    ∀ part, part <+: path → ∀ value, (object ms).at? part = some value → value.object?.isSome := by
  induction path generalizing ms with
  | nil =>
    refine iff_of_true rfl fun part hpart value hvalue => ?_
    rw [List.prefix_nil.mp hpart] at hvalue
    rw [← Option.some.inj hvalue]
    rfl
  | cons field path ih =>
    unfold opens below?
    constructor
    · intro hopen part hpart value hvalue
      cases part with
      | nil =>
        rw [← Option.some.inj hvalue]
        rfl
      | cons first rest =>
        obtain ⟨rfl, hrest⟩ := List.cons_prefix_cons.mp hpart
        rw [at?_cons] at hvalue
        cases hget : ms.get? first with
        | none =>
          rw [hget] at hvalue
          cases hvalue
        | some inside =>
          rw [hget] at hvalue hopen
          cases inside with
          | object inner => exact ih.mp hopen rest hrest value hvalue
          | _ => cases hopen
    · intro hall
      cases hget : ms.get? field with
      | none => exact opens_nil_members path
      | some inside =>
        have hbelow : ∀ part, part <+: path → ∀ value, inside.at? part = some value →
            value.object?.isSome := fun part hpart value hvalue =>
          hall (field :: part) (List.cons_prefix_cons.mpr ⟨rfl, hpart⟩) value (by
            rw [at?_cons, hget]
            exact hvalue)
        cases inside with
        | object inner => exact ih.mpr hbelow
        | _ => cases hbelow [] List.nil_prefix _ rfl

end Members

/-! ## Annotations -/

theorem TextMap.insert_of_get? {m : TextMap} {key value : String} (h : m.get? key = some value) :
    TextMap.insert key value m = m := by
  induction m with
  | nil => cases h
  | cons entry m ih =>
    obtain ⟨k, v⟩ := entry
    unfold TextMap.get? at h ih
    rw [List.lookup_cons] at h
    unfold TextMap.insert
    split at h
    case h_1 heq =>
      rw [if_pos (eq_of_beq heq).symm, Option.some.inj h]
    case h_2 hne =>
      rw [if_neg fun hk => by simp [hk] at hne, ih h]

namespace Metadata

theorem annotation?_annotate_self (m : Metadata) (key value : String) :
    (m.annotate key value).annotation? key = some value := TextMap.get?_insert_self key value _

theorem annotation?_annotate_of_ne {key other : String} (h : other ≠ key) (m : Metadata)
    (value : String) : (m.annotate key value).annotation? other = m.annotation? other := by
  change (TextMap.insert key value (m.annotations.getD [])).get? other = m.annotation? other
  rw [TextMap.get?_insert_of_ne h]
  unfold annotation?
  cases m.annotations <;> rfl

theorem annotate_of_annotation? {m : Metadata} {key value : String}
    (h : m.annotation? key = some value) : m.annotate key value = m := by
  obtain ⟨texts, htexts, hvalue⟩ := Option.bind_eq_some_iff.mp h
  unfold annotate
  rw [htexts, Option.getD_some, TextMap.insert_of_get? hvalue, ← htexts]

end Metadata

/-! ## Stamps -/

namespace Object

open Json

variable {o : Object} {family : Family} {release : String}

/-- Where a pod template carries the mark of its family. -/
def familyPath : List String := templateAnnotations ++ [Names.familyKey]

theorem isWorkload_stamp (o : Object) (family : Family) (release name : String) :
    (o.stamp family release).isWorkload name = o.isWorkload name := by
  obtain ⟨htype, hname, -⟩ := stamp_identity o family release
  unfold isWorkload group kind
  rw [htype, hname]

theorem isWorkload_unique {a b : String} (ha : o.isWorkload a = true) (hb : o.isWorkload b = true) :
    a = b := by
  simp only [isWorkload, Bool.and_eq_true, decide_eq_true_eq] at ha hb
  exact Option.some.inj (ha.2.symm.trans hb.2)

/-- The three ways of a stamp. -/
theorem stamp_cases (o : Object) (family : Family) (release : String) :
    ((∃ name ∈ familyNames, o.isWorkload name = true) ∧
        o.stamp family release = (o.markFamily family).markRelease release) ∨
      (o.isWorkload Names.prepullerWorkload = true ∧
        o.stamp family release = o.markRelease release) ∨
      ((∀ name ∈ workloadNames, o.isWorkload name = false) ∧ o.stamp family release = o) := by
  unfold stamp
  split
  case isTrue h =>
    refine Or.inl ⟨?_, rfl⟩
    rcases Bool.or_eq_true_iff.mp h with hmaster | hnode
    · exact ⟨_, List.mem_pair.mpr (Or.inl rfl), hmaster⟩
    · exact ⟨_, List.mem_pair.mpr (Or.inr rfl), hnode⟩
  case isFalse h =>
    split
    case isTrue hprepuller => exact Or.inr (Or.inl ⟨hprepuller, rfl⟩)
    case isFalse hprepuller =>
      refine Or.inr (Or.inr ⟨fun name hname => ?_, rfl⟩)
      obtain ⟨hmaster, hnode⟩ := Bool.or_eq_false_iff.mp (Bool.eq_false_iff.mpr h)
      rcases mem_workloadNames.mp hname with rfl | rfl | rfl
      · exact hmaster
      · exact hnode
      · exact Bool.eq_false_iff.mpr hprepuller

/-- What a stamp makes of an object. -/
structure Stamped (family : Family) (release : String) (before after : Object) : Prop where
  /-- The workloads of master and node carry the family. -/
  marked : ∀ name ∈ familyNames, before.isWorkload name = true →
    after.metadata.annotation? Names.familyKey = some family.marker
  /-- Their templates carry it just if all that stood on the way there were objects. -/
  template : ∀ name ∈ familyNames, before.isWorkload name = true →
    ((object after.data).at? familyPath = some (.text family.marker) ↔
      ∀ part, part <+: templateAnnotations → ∀ value, (object before.data).at? part = some value →
        value.object?.isSome)
  /-- All workloads of tiers carry the release. -/
  released : ∀ name ∈ workloadNames, before.isWorkload name = true →
    after.metadata.annotation? Names.releaseKey = some release
  /-- The prepuller gets no mark of a family. -/
  prepuller : before.isWorkload Names.prepullerWorkload = true →
    after.metadata.annotation? Names.familyKey = before.metadata.annotation? Names.familyKey ∧
      after.data = before.data
  other : (∀ name ∈ workloadNames, before.isWorkload name = false) → after = before
  type : after.type = before.type
  metadata : { after.metadata with annotations := before.metadata.annotations } = before.metadata
  annotations : ∀ key, key ≠ Names.familyKey → key ≠ Names.releaseKey →
    after.metadata.annotation? key = before.metadata.annotation? key
  data : ∀ path, Apart path familyPath →
    (object after.data).at? path = (object before.data).at? path
  /-- Where a template gets no mark, nothing of it changes. -/
  closed : (object after.data).at? familyPath ≠ some (.text family.marker) →
    after.data = before.data

theorem stamped_refl (hother : ∀ name ∈ workloadNames, o.isWorkload name = false) :
    Stamped family release o o where
  marked name hname h := by
    rw [hother name (familyNames_subset hname)] at h
    cases h
  template name hname h := by
    rw [hother name (familyNames_subset hname)] at h
    cases h
  released name hname h := by
    rw [hother name hname] at h
    cases h
  prepuller _ := ⟨rfl, rfl⟩
  other _ := rfl
  type := rfl
  metadata := rfl
  annotations _ _ _ := rfl
  data _ _ := rfl
  closed _ := rfl

theorem stamped_markRelease (hprepuller : o.isWorkload Names.prepullerWorkload = true) :
    Stamped family release o (o.markRelease release) where
  marked name hname h := by
    rw [isWorkload_unique h hprepuller] at hname
    exact absurd hname (by decide)
  template name hname h := by
    rw [isWorkload_unique h hprepuller] at hname
    exact absurd hname (by decide)
  released _ _ _ := Metadata.annotation?_annotate_self _ _ _
  prepuller _ := ⟨Metadata.annotation?_annotate_of_ne (by decide) _ _, rfl⟩
  other hother := by
    rw [hother _ (by decide)] at hprepuller
    cases hprepuller
  type := rfl
  metadata := rfl
  annotations _ _ hrelease := Metadata.annotation?_annotate_of_ne hrelease _ _
  data _ _ := rfl
  closed _ := rfl

theorem at?_markFamily (o : Object) (family : Family) :
    (object (o.markFamily family).data).at? familyPath = some (.text family.marker) ↔
      o.data.opens templateAnnotations = true := by
  constructor
  · intro hmark
    by_contra hclosed
    have hnot := Bool.eq_false_iff.mpr hclosed
    change (object (o.data.setText Names.familyKey family.marker templateAnnotations)).at? _ = _
      at hmark
    rw [Members.setText_of_not_opens hnot, familyPath, Members.at?_of_not_opens hnot] at hmark
    cases hmark
  · exact Members.at?_setText_self

theorem stamped_markFamily {name : String} (hname : name ∈ familyNames)
    (hworkload : o.isWorkload name = true) :
    Stamped family release o ((o.markFamily family).markRelease release) where
  marked _ _ _ := (Metadata.annotation?_annotate_of_ne (by decide) _ _).trans
    (Metadata.annotation?_annotate_self _ _ _)
  template _ _ _ := (at?_markFamily o family).trans Members.opens_iff
  released _ _ _ := Metadata.annotation?_annotate_self _ _ _
  prepuller h := by
    rw [isWorkload_unique hworkload h] at hname
    exact absurd hname (by decide)
  other hother := by
    rw [hother name (familyNames_subset hname)] at hworkload
    cases hworkload
  type := rfl
  metadata := rfl
  annotations _ hfamily hrelease := (Metadata.annotation?_annotate_of_ne hrelease _ _).trans
    (Metadata.annotation?_annotate_of_ne hfamily _ _)
  data _ hapart := Members.at?_setText_of_apart hapart
  closed hmark := Members.setText_of_not_opens
    (Bool.eq_false_iff.mpr fun hopen => hmark ((at?_markFamily o family).mpr hopen))

theorem stamped_stamp (o : Object) (family : Family) (release : String) :
    Stamped family release o (o.stamp family release) := by
  rcases stamp_cases o family release with ⟨⟨_, hname, h⟩, hstamp⟩ | ⟨h, hstamp⟩ | ⟨h, hstamp⟩
  · rw [hstamp]
    exact stamped_markFamily hname h
  · rw [hstamp]
    exact stamped_markRelease h
  · rw [hstamp]
    exact stamped_refl h

theorem markFamily_of_marked (h : o.metadata.annotation? Names.familyKey = some family.marker)
    (hdata : o.data.setText Names.familyKey family.marker templateAnnotations = o.data) :
    o.markFamily family = o := by
  unfold markFamily
  rw [Metadata.annotate_of_annotation? h, hdata]

theorem markRelease_of_marked (h : o.metadata.annotation? Names.releaseKey = some release) :
    o.markRelease release = o := by
  unfold markRelease
  rw [Metadata.annotate_of_annotation? h]

/-- A stamped object stays as it is when it is stamped again. -/
theorem stamp_stamp (o : Object) (family : Family) (release : String) :
    (o.stamp family release).stamp family release = o.stamp family release := by
  have hstamped := stamped_stamp o family release
  -- What a stamp does is decided by the type and the name, which the first one kept.
  rcases stamp_cases (o.stamp family release) family release with
    ⟨⟨name, hname, h⟩, hstamp⟩ | ⟨h, hstamp⟩ | ⟨h, hstamp⟩
  · rw [isWorkload_stamp] at h
    have hfamily : (o.stamp family release).markFamily family = o.stamp family release := by
      refine markFamily_of_marked (hstamped.marked name hname h) ?_
      rw [stamp_of_isWorkload h hname]
      exact Members.setText_setText _ _ _ _
    rw [hstamp, hfamily]
    exact markRelease_of_marked (hstamped.released name (familyNames_subset hname) h)
  · rw [isWorkload_stamp] at h
    rw [hstamp]
    exact markRelease_of_marked (hstamped.released _ (by decide) h)
  · exact hstamp

/-- Stamping marks the workloads of any list of objects and changes nothing else, and stamping
again changes nothing. -/
theorem stamp_marks (family : Family) (release : String) (objects : List Object) :
    List.Forall₂ (Stamped family release) objects (objects.map (·.stamp family release)) ∧
      (objects.map (·.stamp family release)).map (·.stamp family release) =
        objects.map (·.stamp family release) := by
  constructor
  · rw [List.forall₂_map_right_iff]
    exact List.forall₂_same.mpr fun o _ => stamped_stamp o family release
  · rw [List.map_map]
    exact List.map_congr_left fun o _ => stamp_stamp o family release

/-- A workload of the master without a template. -/
def bareMaster : Object where
  type := some daemonSetType
  metadata := { name := some Names.masterWorkload }

/-- The template is made for its mark. -/
theorem stamp_marks_bareMaster :
    bareMaster.isWorkload Names.masterWorkload = true ∧
      (object (bareMaster.stamp .dualStack "4.11.0").data).at? familyPath =
        some (.text Family.dualStack.marker) := by
  have hworkload : bareMaster.isWorkload Names.masterWorkload = true := by decide +kernel
  obtain ⟨hstamped, -⟩ := stamp_marks .dualStack "4.11.0" [bareMaster]
  cases hstamped with
  | cons h _ =>
    exact ⟨hworkload, (h.template _ (by decide) hworkload).mpr (Members.opens_iff.mp rfl)⟩

/-- A workload of the master whose template has its annotations set to null. -/
def nullTemplate : Object where
  type := some daemonSetType
  metadata := { name := some Names.masterWorkload }
  data := [("spec", .object [("template", .object [("metadata", .object
    [("annotations", .null)])])])]

/-- Null may stand for missing annotations, but a template that has it gets no mark. -/
theorem not_stamp_reaches_template :
    nullTemplate.isWorkload Names.masterWorkload = true ∧
      (∀ part, part <+: templateAnnotations → ∀ value,
        (object nullTemplate.data).at? part = some value → Tier.isObjectOrNull value = true) ∧
      (object (nullTemplate.stamp .dualStack "4.11.0").data).at? familyPath = none := by
  have hall : ∀ part ∈ templateAnnotations.inits,
      ((object nullTemplate.data).at? part).all Tier.isObjectOrNull = true := by decide
  refine ⟨by decide +kernel, fun part hpart value hvalue => ?_, by decide +kernel⟩
  have hvalues := hall part ((List.mem_inits _ _).mpr hpart)
  rw [hvalue] at hvalues
  exact hvalues

end Object

end NetworkRollout
