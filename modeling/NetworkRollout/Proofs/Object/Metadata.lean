import NetworkRollout.Object.Metadata
import NetworkRollout.Proofs.Bootstrap.Store
import NetworkRollout.Proofs.Json.LayOver
import NetworkRollout.Proofs.Readings

/-!
# Metadata read and written

Metadata read field by field, so whether they read is a matter of each field by itself. What is read
from a value that gives no name twice is written without giving one twice, and an annotation changes
no field but the annotations.

* `TextMap.members_of_ofJson?`: a map of texts is written as it reads.
* `Metadata.checks`, `Metadata.isSome_ofJson?_iff`: when metadata read.
* `Metadata.WellFormed`, `Metadata.wellFormed_of_ofJson?`: what holds of metadata that were read.
* `Metadata.get?_annotate_of_ne`, `get?_annotations`: the fields after an annotation.
-/

namespace NetworkRollout

open Json

/-! ## Maps of texts -/

namespace TextMap

theorem isSome_foldlM_iff {ms : Members} {start : TextMap} :
    (ms.foldlM (fun (m : TextMap) (k, v) =>
        (Json.text? v).map fun s => TextMap.insert k s m) start).isSome ↔
      ∀ m ∈ ms, m.2.text?.isSome := by
  induction ms generalizing start with
  | nil => simp
  | cons m rest ih =>
    obtain ⟨k, v⟩ := m
    rw [List.foldlM_cons, List.forall_mem_cons]
    dsimp only
    cases htext : v.text? with
    | none => simp
    | some s =>
      rw [Option.map_some, Option.bind_eq_bind, Option.bind_some, ih]
      simp

/-- A map of texts reads if all its values are texts. -/
theorem isSome_ofJson?_object {ms : Members} :
    (ofJson? (.object ms)).isSome ↔ ∀ m ∈ ms, m.2.text?.isSome := isSome_foldlM_iff

theorem insert_of_not_mem {m : TextMap} {key : String} (h : key ∉ m.map (·.1)) (value : String) :
    TextMap.insert key value m = m ++ [(key, value)] := by
  induction m with
  | nil => rfl
  | cons entry rest ih =>
    obtain ⟨k, v⟩ := entry
    rw [List.map_cons, List.mem_cons, not_or] at h
    unfold TextMap.insert
    rw [if_neg (Ne.symm h.1), ih h.2]
    rfl

/-- The members that a map of texts is written with. -/
def members (m : TextMap) : Members := m.map fun (k, s) => (k, .text s)

theorem names_members (m : TextMap) : m.members.map (·.1) = m.map (·.1) := by
  unfold members
  rw [List.map_map]
  rfl

/-- Reading members behind those of a map. The induction is on the members, which go to the end of
the map one after another. -/
theorem members_of_foldlM {ms : Members} {m : TextMap} (start : TextMap)
    (hnodup : ((start.members ++ ms).map (·.1)).Nodup)
    (h : ms.foldlM (fun (m : TextMap) (k, v) =>
      (Json.text? v).map fun s => TextMap.insert k s m) start = some m) :
    m.members = start.members ++ ms := by
  induction ms generalizing start with
  | nil =>
    cases h
    exact (List.append_nil _).symm
  | cons first rest ih =>
    obtain ⟨k, v⟩ := first
    rw [List.foldlM_cons] at h
    obtain ⟨next, hnext, h⟩ := Option.bind_eq_some_iff.mp h
    obtain ⟨s, hs, rfl⟩ := Option.map_eq_some_iff.mp hnext
    have hv : v = .text s := by
      cases v with
      | text t =>
        cases hs
        rfl
      | _ => cases hs
    have hk : k ∉ start.map (·.1) := by
      rw [List.map_append, names_members, List.nodup_append] at hnodup
      exact fun hmem => hnodup.2.2 k hmem k List.mem_cons_self rfl
    have hstart : TextMap.members (start ++ [(k, s)]) = start.members ++ [(k, .text s)] :=
      List.map_append
    rw [insert_of_not_mem hk] at h
    rw [hv] at hnodup ⊢
    have hsame : start.members ++ (k, Json.text s) :: rest =
        TextMap.members (start ++ [(k, s)]) ++ rest := by
      rw [hstart, List.append_assoc]
      rfl
    rw [hsame] at hnodup ⊢
    exact ih _ hnodup h

/-- A map of texts is written as it reads, when no name is given twice. -/
theorem members_of_ofJson? {ms : Members} {m : TextMap} (hnodup : (ms.map (·.1)).Nodup)
    (h : ofJson? (.object ms) = some m) : m.members = ms :=
  members_of_foldlM [] hnodup h

theorem get?_members (m : TextMap) (key : String) :
    m.members.get? key = (m.get? key).map .text := by
  unfold Members.get? TextMap.get?
  induction m with
  | nil => rfl
  | cons entry rest ih =>
    obtain ⟨k, s⟩ := entry
    change List.lookup key ((k, Json.text s) :: TextMap.members rest) = _
    rw [List.lookup_cons, List.lookup_cons, ih]
    cases key == k <;> rfl

theorem distinct_toJson {m : TextMap} (h : (m.map (·.1)).Nodup) : m.toJson.Distinct := by
  change (Json.object m.members).Distinct
  refine .object ?_ ?_
  · rw [names_members]
    exact h
  · intro entry hentry
    obtain ⟨_, -, rfl⟩ := List.mem_map.mp hentry
    exact .plain rfl

theorem nodup_insert {m : TextMap} {key value : String} (h : (m.map (·.1)).Nodup) :
    ((TextMap.insert key value m).map (·.1)).Nodup := by
  have hinsert : (TextMap.insert key value m).members = m.members.insert key (.text value) := by
    clear h
    induction m with
    | nil => rfl
    | cons entry rest ih =>
      obtain ⟨k, s⟩ := entry
      change _ = Members.insert key (.text value) ((k, .text s) :: TextMap.members rest)
      unfold TextMap.insert Members.insert
      split
      case isTrue => rfl
      case isFalse => exact congrArg ((k, Json.text s) :: ·) ih
  rw [← names_members] at h ⊢
  rw [hinsert]
  exact Members.nodup_insert h

theorem staysRead : StaysRead fun j => (ofJson? j).isSome := by
  intro a b ha hb
  cases b with
  | object sent =>
    have hsent := isSome_ofJson?_object.mp hb
    have hstored : ∀ m ∈ a.members, m.2.text?.isSome := by
      cases a with
      | object stored =>
        rcases ha with hnull | hread
        · cases hnull
        · exact isSome_ofJson?_object.mp hread
      | _ => rintro m ⟨⟩
    refine isSome_ofJson?_object.mpr ?_
    clear ha hb
    generalize a.members = stored at hstored
    -- each text that is sent takes the place of a text, or comes to the others
    induction sent generalizing stored with
    | nil => exact hstored
    | cons m rest ih =>
      obtain ⟨k, v⟩ := m
      obtain ⟨hv, hrest⟩ := List.forall_mem_cons.mp hsent
      rw [Json.layMembers]
      refine ih hrest _ fun m hm => ?_
      rcases Members.mem_insert hm with rfl | hm
      · cases v with
        | text t => rfl
        | _ => cases hv
      · exact hstored m hm
  | _ => cases hb

end TextMap

/-! ## Fields of records -/

/-- What is read for a field of a record. -/
def readField? (ms : Members) (f : String × Leaf × Option Json) :
    Option (Option (String × Json)) :=
  match ms.get? f.1 with
  | none => some (f.2.2.map (f.1, ·))
  | some .null => some (f.2.2.map (f.1, ·))
  | some j => (f.2.1.read? j).map fun j => some (f.1, j)

theorem readFields?_eq (fields : RecordType) (ms : Members) :
    readFields? fields ms = (fields.mapM (readField? ms)).map written := by
  change (fields.mapM (readField? ms)).bind _ = _
  cases fields.mapM (readField? ms) <;> rfl

/-- Fields are read from their members alone. -/
theorem readFields?_congr {fields : RecordType} {ms ms' : Members}
    (h : ∀ f ∈ fields, ms'.get? f.1 = ms.get? f.1) :
    readFields? fields ms' = readFields? fields ms := by
  have hfields : fields.mapM (readField? ms') = fields.mapM (readField? ms) := by
    induction fields with
    | nil => rfl
    | cons f rest ih =>
      obtain ⟨hf, hrest⟩ := List.forall_mem_cons.mp h
      have hfirst : readField? ms' f = readField? ms f := by
        unfold readField?
        rw [hf]
      rw [List.mapM_cons, List.mapM_cons, ih hrest, hfirst]
  rw [readFields?_eq, readFields?_eq, hfields]

theorem isSome_readField?_iff {ms : Members} {f : String × Leaf × Option Json} :
    (readField? ms f).isSome ↔ FieldReads ms f.1 fun j => (f.2.1.read? j).isSome := by
  unfold readField? FieldReads
  cases ms.get? f.1 with
  | none => simp
  | some j =>
    cases j with
    | null => simp [isNull]
    | _ => simp [isNull]

theorem isSome_readFields?_iff {fields : RecordType} {ms : Members} :
    (readFields? fields ms).isSome ↔
      ∀ f ∈ fields, FieldReads ms f.1 fun j => (f.2.1.read? j).isSome := by
  rw [readFields?_eq, Option.isSome_map, isSome_mapM_iff]
  exact forall₂_congr fun f _ => isSome_readField?_iff

/-- A value in its normal form gives no name twice. -/
theorem Leaf.distinct_of_read? {leaf : Leaf} {j out : Json} (hj : j.Distinct)
    (h : leaf.read? j = some out) : out.Distinct := by
  cases leaf with
  | anything =>
    cases h
    exact hj
  | textMap =>
    obtain ⟨m, hm, rfl⟩ := Option.map_eq_some_iff.mp h
    cases j with
    | object ms =>
      refine TextMap.distinct_toJson ?_
      rw [← TextMap.names_members, TextMap.members_of_ofJson? hj.nodup hm]
      exact hj.nodup
    | _ => cases hm
  | _ =>
    obtain ⟨_, -, rfl⟩ := Option.map_eq_some_iff.mp h
    exact .plain rfl

/-- The fields that are read have the names of the record, in its order, and values in which no name
is given twice. -/
theorem distinct_readFields? {fields : RecordType} {ms out : Members}
    (hms : (Json.object ms).Distinct) (hdefaults : ∀ f ∈ fields, f.2.2 = none)
    (h : readFields? fields ms = some out) :
    (out.map (·.1)).Sublist (fields.map (·.1)) ∧ ∀ m ∈ out, m.2.Distinct := by
  rw [readFields?_eq] at h
  obtain ⟨read, hread, rfl⟩ := Option.map_eq_some_iff.mp h
  clear h
  induction fields generalizing read with
  | nil =>
    cases hread
    exact ⟨List.Sublist.slnil, by rintro m ⟨⟩⟩
  | cons f rest ih =>
    obtain ⟨hdefault, hdefaults⟩ := List.forall_mem_cons.mp hdefaults
    rw [List.mapM_cons] at hread
    obtain ⟨first, hfirst, hread⟩ := Option.bind_eq_some_iff.mp hread
    obtain ⟨later, hlater, heq⟩ := Option.bind_eq_some_iff.mp hread
    cases heq
    obtain ⟨hnames, heach⟩ := ih hdefaults later hlater
    cases first with
    | none => exact ⟨hnames.cons _, heach⟩
    | some m =>
      -- a field that is missing has no default, so this one is there
      have hm : m.1 = f.1 ∧ m.2.Distinct := by
        unfold readField? at hfirst
        rw [hdefault] at hfirst
        split at hfirst
        case h_1 => cases hfirst
        case h_2 => cases hfirst
        case h_3 j _ hj =>
          obtain ⟨out, hout, heq⟩ := Option.map_eq_some_iff.mp hfirst
          cases heq
          exact ⟨rfl, Leaf.distinct_of_read? (hms.of_get? hj) hout⟩
      refine ⟨?_, List.forall_mem_cons.mpr ⟨hm.2, heach⟩⟩
      change (m.1 :: (written later).map (·.1)).Sublist (f.1 :: rest.map (·.1))
      rw [hm.1]
      exact hnames.cons_cons f.1

theorem Leaf.staysRead (leaf : Leaf) : StaysRead fun j => (leaf.read? j).isSome := by
  cases leaf with
  | anything =>
    intro a b _ _
    rfl
  | textMap =>
    intro a b ha hb
    have hread : ∀ j, (Leaf.textMap.read? j).isSome = (TextMap.ofJson? j).isSome :=
      fun j => Option.isSome_map
    dsimp only at ha hb ⊢
    rw [hread] at ha hb ⊢
    exact TextMap.staysRead a b ha hb
  | _ => exact staysRead_of_plain fun ms => rfl

namespace Metadata

variable {m : Metadata}

/-! ## Reading metadata -/

/-- The fields of metadata, each with the check that its value has to pass. -/
def checks : List (String × (Json → Bool)) :=
  [("name", fun j => j.text?.isSome), ("namespace", fun j => j.text?.isSome),
    ("generateName", fun j => j.text?.isSome),
    ("annotations", fun j => (TextMap.ofJson? j).isSome),
    ("generation", fun j => (i64? j).isSome), ("resourceVersion", fun j => j.text?.isSome),
    ("managedFields", fun j => (readRecords? managedFieldFields j).isSome),
    ("ownerReferences", fun j => (readRecords? ownerFields j).isSome)] ++
  otherFields.map fun f => (f.1, fun j => (f.2.1.read? j).isSome)

theorem staysRead_checks : ∀ c ∈ checks, StaysRead c.2 := by
  intro c hc
  rcases List.mem_append.mp hc with hown | hother
  · simp only [List.mem_cons, List.not_mem_nil, or_false] at hown
    rcases hown with rfl | rfl | rfl | rfl | rfl | rfl | rfl | rfl
    case inr.inr.inr.inl => exact TextMap.staysRead
    all_goals exact staysRead_of_plain fun ms => rfl
  · obtain ⟨f, -, rfl⟩ := List.mem_map.mp hother
    exact f.2.1.staysRead

theorem isSome_ofMembers?_iff {ms : Members} :
    (ofMembers? ms).isSome ↔ ∀ c ∈ checks, FieldReads ms c.1 c.2 := by
  constructor
  · intro h
    obtain ⟨m, hm⟩ := Option.isSome_iff_exists.mp h
    unfold ofMembers? at hm
    simp only [Option.bind_eq_bind, Option.bind_eq_some_iff] at hm
    obtain ⟨_, howners, _, hothers, _, hname, _, hnamespace, _, hgenerate, _, hannotations, _,
      hgeneration, _, hversion, _, hmanaged, -⟩ := hm
    intro c hc
    rcases List.mem_append.mp hc with hown | hother
    · simp only [List.mem_cons, List.not_mem_nil, or_false] at hown
      rcases hown with rfl | rfl | rfl | rfl | rfl | rfl | rfl | rfl
      · exact .of_optional hname
      · exact .of_optional hnamespace
      · exact .of_optional hgenerate
      · exact .of_optional hannotations
      · exact .of_optional hgeneration
      · exact .of_optional hversion
      · exact .of_optional hmanaged
      · exact .of_optional howners
    · obtain ⟨f, hf, rfl⟩ := List.mem_map.mp hother
      exact isSome_readFields?_iff.mp (Option.isSome_of_eq_some hothers) f hf
  · intro h
    obtain ⟨hown, hother⟩ := List.forall_mem_append.mp h
    simp only [List.forall_mem_cons] at hown
    obtain ⟨hname, hnamespace, hgenerate, hannotations, hgeneration, hversion, hmanaged, howners,
      -⟩ := hown
    have hothers : (readFields? otherFields ms).isSome :=
      isSome_readFields?_iff.mpr fun f hf => hother _ (List.mem_map.mpr ⟨f, hf, rfl⟩)
    obtain ⟨_, hname⟩ := hname.exists_optional
    obtain ⟨_, hnamespace⟩ := hnamespace.exists_optional
    obtain ⟨_, hgenerate⟩ := hgenerate.exists_optional
    obtain ⟨_, hannotations⟩ := hannotations.exists_optional
    obtain ⟨_, hgeneration⟩ := hgeneration.exists_optional
    obtain ⟨_, hversion⟩ := hversion.exists_optional
    obtain ⟨_, hmanaged⟩ := hmanaged.exists_optional
    obtain ⟨_, howners⟩ := howners.exists_optional
    obtain ⟨_, hothers⟩ := Option.isSome_iff_exists.mp hothers
    unfold ofMembers?
    simp only [hname, hnamespace, hgenerate, hannotations, hgeneration, hversion, hmanaged,
      howners, hothers, Option.bind_eq_bind, Option.bind_some]
    rfl

theorem isSome_ofJson?_iff {j : Json} : (ofJson? j).isSome ↔ ReadsAs checks j := by
  cases j with
  | null => exact iff_of_true rfl (Or.inl rfl)
  | object ms =>
    change (ofMembers? ms).isSome ↔ _
    rw [isSome_ofMembers?_iff]
    refine ⟨fun h => Or.inr ⟨ms, rfl, h⟩, ?_⟩
    rintro (hnull | ⟨_, heq, h⟩)
    · cases hnull
    · cases heq
      exact h
  | _ =>
    refine iff_of_false (by rintro ⟨⟩) ?_
    rintro (hnull | ⟨_, heq, -⟩)
    · cases hnull
    · cases heq

/-- Metadata that are null read like those of an object without members. -/
theorem ofMembers?_of_ofJson? {j : Json} (h : ofJson? j = some m) :
    ofMembers? j.members = some m := by
  cases j with
  | null => exact h
  | object ms => exact h
  | _ => cases h

theorem annotations_of_ofMembers? {ms : Members} (h : ofMembers? ms = some m) :
    Fields.optional ms "annotations" TextMap.ofJson? = some m.annotations := by
  unfold ofMembers? at h
  simp only [Option.bind_eq_bind, Option.bind_eq_some_iff] at h
  obtain ⟨_, -, _, -, _, -, _, -, _, -, _, hannotations, _, -, _, -, _, -, heq⟩ := h
  cases heq
  exact hannotations

theorem generation_of_ofMembers? {ms : Members} (h : ofMembers? ms = some m) :
    Fields.optional ms "generation" i64? = some m.generation := by
  unfold ofMembers? at h
  simp only [Option.bind_eq_bind, Option.bind_eq_some_iff] at h
  obtain ⟨_, -, _, -, _, -, _, -, _, -, _, -, _, hgeneration, _, -, _, -, heq⟩ := h
  cases heq
  exact hgeneration

/-- The annotations are the members of their object, when no name is given twice there. -/
theorem map_annotation?_of_ofJson? {j : Json} (h : ofJson? j = some m)
    (hnames : ((j.field "annotations").members.map (·.1)).Nodup) (key : String) :
    (m.annotation? key).map .text = Members.get? (j.field "annotations").members key := by
  have hannotations := annotations_of_ofMembers? (ofMembers?_of_ofJson? h)
  unfold Fields.optional at hannotations
  unfold annotation?
  change (((List.lookup "annotations" j.members).getD .null).members.map (·.1)).Nodup at hnames
  change _ = Members.get? ((List.lookup "annotations" j.members).getD .null).members key
  split at hannotations
  case h_1 hnone =>
    rw [hnone, ← Option.some.inj hannotations]
    rfl
  case h_2 hnull =>
    rw [hnull, ← Option.some.inj hannotations]
    rfl
  case h_3 a _ ha =>
    obtain ⟨texts, htexts, heq⟩ := Option.map_eq_some_iff.mp hannotations
    rw [ha, Option.getD_some] at hnames ⊢
    rw [← heq, Option.bind_some, ← TextMap.get?_members]
    cases a with
    | object ms => rw [TextMap.members_of_ofJson? hnames htexts]
    | _ => cases htexts

/-- An annotation is the member of its name, when no name is given twice. -/
theorem annotation?_of_ofJson? {j : Json} (hj : j.Distinct) (h : ofJson? j = some m)
    {key value : String}
    (hvalue : Members.get? (j.field "annotations").members key = some (.text value)) :
    m.annotation? key = some value := by
  rw [← map_annotation?_of_ofJson? h (hj.field "annotations").nodup] at hvalue
  obtain ⟨text, htext, heq⟩ := Option.map_eq_some_iff.mp hvalue
  cases heq
  exact htext

/-! ## Writing metadata -/

/-- The fields that metadata are written with, in front of the others. -/
def head (m : Metadata) : List (Option (String × Json)) :=
  [whenSome "name" Json.text m.name, whenSome "namespace" Json.text m.namespaceName,
    whenSome "generateName" Json.text m.generateName,
    whenSome "annotations" TextMap.toJson m.annotations,
    whenSome "generation" Json.int m.generation,
    whenSome "resourceVersion" Json.text m.resourceVersion,
    whenSome "managedFields" id m.managedFields]

theorem toJson_eq (m : Metadata) : m.toJson = .object (written m.head ++ m.others) := rfl

theorem get?_toJson (m : Metadata) (name : String) :
    Members.get? m.toJson.members name =
      (List.lookup name (written m.head)).or (m.others.get? name) := by
  rw [toJson_eq]
  exact List.lookup_append

theorem lookup_written_of_ne {name : String} {x : Option (String × Json)} (hx : NotNamed name x)
    (before after : List (Option (String × Json))) :
    List.lookup name (written (before ++ x :: after)) =
      List.lookup name (written (before ++ after)) := by
  unfold written
  rw [List.filterMap_append, List.filterMap_append, List.lookup_append, List.lookup_append]
  exact congrArg _ (lookup_cons_of_ne hx)

/-- An annotation changes no field but the annotations. -/
theorem get?_annotate_of_ne {name : String} (hname : name ≠ "annotations") (m : Metadata)
    (key value : String) :
    Members.get? (m.annotate key value).toJson.members name =
      Members.get? m.toJson.members name := by
  have hskip : ∀ texts : Option TextMap,
      List.lookup name (written { m with annotations := texts }.head) =
        List.lookup name (written (m.head.take 3 ++ m.head.drop 4)) :=
    fun texts => lookup_written_of_ne (notNamed_whenSome hname.symm TextMap.toJson texts)
      (m.head.take 3) (m.head.drop 4)
  rw [get?_toJson, get?_toJson]
  exact congrArg (Option.or · _) ((hskip _).trans (hskip _).symm)

theorem get?_annotations {texts : TextMap} (h : m.annotations = some texts) :
    Members.get? m.toJson.members "annotations" = some texts.toJson := by
  have hskip : ∀ name, name ≠ "annotations" → ∀ text : Option String,
      NotNamed "annotations" (whenSome name Json.text text) :=
    fun name hname text => notNamed_whenSome hname _ _
  rw [get?_toJson]
  unfold head
  rw [lookup_cons_of_ne (hskip _ (by decide) _), lookup_cons_of_ne (hskip _ (by decide) _),
    lookup_cons_of_ne (hskip _ (by decide) _), h]
  rfl

/-- Metadata without what the server keeps about them. -/
def withoutBookkeeping (m : Metadata) : Metadata :=
  { m with managedFields := none, resourceVersion := none }

/-- The fields in front of those that the server keeps. -/
def kept (m : Metadata) : List (Option (String × Json)) := m.head.take 5

def bookkeeping : List String := ["managedFields", "resourceVersion"]

theorem get?_withoutBookkeeping {name : String} (hname : name ∉ bookkeeping) (m : Metadata) :
    Members.get? m.withoutBookkeeping.toJson.members name =
      Members.get? m.toJson.members name := by
  obtain ⟨hmanaged, hversion⟩ : name ≠ "managedFields" ∧ name ≠ "resourceVersion" := by
    simpa [bookkeeping] using hname
  have hskip : ∀ (version : Option String) (managed : Option Json),
      List.lookup name (written
        { m with resourceVersion := version, managedFields := managed }.head) =
      List.lookup name (written m.kept) := by
    intro version managed
    change List.lookup name (written (m.kept ++ _ :: [_])) = _
    rw [lookup_written_of_ne (notNamed_whenSome hversion.symm _ version),
      lookup_written_of_ne (notNamed_whenSome hmanaged.symm _ managed), List.append_nil]
  rw [get?_toJson, get?_toJson]
  exact congrArg (Option.or · _) ((hskip none none).trans (hskip _ _).symm)

theorem members_withoutBookkeeping_sublist (m : Metadata) :
    m.withoutBookkeeping.toJson.members.Sublist m.toJson.members := by
  have hfull : m.toJson.members = written m.kept ++ written _ ++ m.others :=
    congrArg (· ++ m.others) (List.filterMap_append (l := m.kept) (f := id))
  have hless : m.withoutBookkeeping.toJson.members = written m.kept ++ m.others :=
    congrArg (· ++ m.others) ((List.filterMap_append (l := m.kept) (f := id)).trans
      (List.append_nil _))
  rw [hfull, hless]
  exact (List.sublist_append_left _ _).append (List.Sublist.refl _)

/-- What holds of metadata that were read. -/
structure WellFormed (m : Metadata) : Prop where
  annotations : ∀ texts, m.annotations = some texts → (texts.map (·.1)).Nodup
  managedFields : ∀ j, m.managedFields = some j → j.Distinct
  others : ∀ entry ∈ m.others, entry.2.Distinct
  names : (m.others.map (·.1)).Sublist (otherFields.map (·.1) ++ ["ownerReferences"])

theorem WellFormed.annotate (h : m.WellFormed) (key value : String) :
    (m.annotate key value).WellFormed where
  annotations := by
    rintro texts ⟨⟩
    refine TextMap.nodup_insert ?_
    cases htexts : m.annotations with
    | none => exact List.nodup_nil
    | some texts => exact h.annotations texts htexts
  managedFields := h.managedFields
  others := h.others
  names := h.names

theorem WellFormed.distinct (h : m.WellFormed) : m.toJson.Distinct := by
  have hfollows : Follows ["name", "namespace", "generateName", "annotations", "generation",
      "resourceVersion", "managedFields"] m.head := by
    simp [head]
  refine .object ?_ ?_
  · rw [List.map_append]
    refine (hfollows.names_sublist.append h.names).nodup ?_
    decide
  · intro entry hentry
    rcases List.mem_append.mp hentry with hhead | hother
    · obtain ⟨field, hfield, hentry⟩ := List.mem_filterMap.mp hhead
      simp only [List.mem_cons, List.not_mem_nil, or_false] at hfield
      rcases hfield with rfl | rfl | rfl | rfl | rfl | rfl | rfl <;>
        obtain ⟨value, hvalue, rfl⟩ := Option.map_eq_some_iff.mp hentry
      case inr.inr.inr.inl => exact TextMap.distinct_toJson (h.annotations value hvalue)
      case inr.inr.inr.inr.inr.inr => exact h.managedFields value hvalue
      all_goals exact .plain rfl
    · exact h.others entry hother

theorem wellFormed_of_ofJson? {j : Json} (hj : j.Distinct) (h : ofJson? j = some m) :
    m.WellFormed := by
  have hread := ofMembers?_of_ofJson? h
  have hms : (Json.object j.members).Distinct := hj.members
  unfold ofMembers? at hread
  simp only [Option.bind_eq_bind, Option.bind_eq_some_iff] at hread
  obtain ⟨owners, howners, others, hothers, _, -, _, -, _, -, annotations, hannotations, _, -, _, -,
    managed, hmanaged, heq⟩ := hread
  cases heq
  obtain ⟨hnames, heach⟩ := distinct_readFields? hms (by decide) hothers
  refine ⟨?_, ?_, ?_, ?_⟩
  · rintro texts rfl
    obtain ⟨value, hvalue, hread⟩ := Fields.exists_of_optional hannotations
    cases value with
    | object ms =>
      have hdistinct := hms.of_get? hvalue
      rw [← TextMap.names_members, TextMap.members_of_ofJson? hdistinct.nodup hread]
      exact hdistinct.nodup
    | _ => cases hread
  · rintro fields rfl
    obtain ⟨value, -, hread⟩ := Fields.exists_of_optional hmanaged
    obtain ⟨_, -, rfl⟩ := Option.map_eq_some_iff.mp hread
    exact .plain rfl
  · intro entry hentry
    rcases List.mem_append.mp hentry with hother | howner
    · exact heach entry hother
    · cases owners with
      | none => cases howner
      | some owners =>
        obtain ⟨value, -, hread⟩ := Fields.exists_of_optional howners
        obtain ⟨_, -, rfl⟩ := Option.map_eq_some_iff.mp hread
        rw [List.mem_singleton.mp howner]
        exact .plain rfl
  · rw [List.map_append]
    refine hnames.append ?_
    cases owners with
    | none => exact List.nil_sublist _
    | some owners => exact List.Sublist.refl _

end Metadata

end NetworkRollout
