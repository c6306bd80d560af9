import NetworkRollout.Apply.Stamp
import NetworkRollout.Proofs.Object.Reading

/-!
# What a mark leaves

Marking a workload changes its annotations and those of its pod template. What it is, where it goes
and how it reads stays as it was, and the marks are read from it again.

* `Object.stamp_of_tier`, `stamp_of_prepuller`, `stamp_of_other`: which objects get which marks.
* `Object.WellFormed.stamp`, `Object.reads_stamp`: a marked object is as sound as it was.
* `Object.annotationIn_stamp_release`, `annotationIn_stamp_family`: the marks in what is written.
-/

namespace NetworkRollout

open Json

/-! ## Texts on a path -/

namespace Members

variable {ms : Members} {name value : String}

theorem distinct_setText (h : (Json.object ms).Distinct) (name value : String)
    (path : List String) : (Json.object (ms.setText name value path)).Distinct := by
  induction path generalizing ms with
  | nil => exact h.insert (.plain rfl)
  | cons field path ih =>
    unfold setText
    split
    case h_1 => exact h.insert (ih (.object List.nodup_nil (by rintro m ⟨⟩)))
    case h_2 inner hinner => exact h.insert (ih (h.of_get? hinner))
    case h_3 => exact h

theorem get?_setText_of_ne {field other : String} (h : other ≠ field) (name value : String)
    (path : List String) : (ms.setText name value (field :: path)).get? other = ms.get? other := by
  unfold setText
  split
  case h_1 => exact get?_insert_of_ne h _ _
  case h_2 => exact get?_insert_of_ne h _ _
  case h_3 => rfl

/-- What a path begins with stays an object, or becomes one. -/
theorem isObjectOrNull_setText {field : String} (h : Tier.isObjectOrNull (ms.getD field) = true)
    (name value : String) (path : List String) :
    Tier.isObjectOrNull ((ms.setText name value (field :: path)).getD field) = true := by
  unfold setText
  split
  case h_1 =>
    rw [getD, get?_insert_self]
    rfl
  case h_2 =>
    rw [getD, get?_insert_self]
    rfl
  case h_3 => exact h

end Members

namespace Metadata

theorem check_annotations (texts : TextMap) :
    ∀ c ∈ checks, c.1 = "annotations" → c.2 texts.toJson = true := by
  have hread : (TextMap.ofJson? texts.toJson).isSome := by
    refine TextMap.isSome_ofJson?_object.mpr fun m hm => ?_
    obtain ⟨_, -, rfl⟩ := List.mem_map.mp hm
    rfl
  simp [checks, otherFields, hread]

/-- Metadata still read when they are annotated. -/
theorem readsAs_annotate {m : Metadata} (h : ReadsAs checks m.toJson) (key value : String) :
    ReadsAs checks (m.annotate key value).toJson := by
  obtain ⟨ms, hms, heach⟩ := h.resolve_left Bool.false_ne_true
  refine Or.inr ⟨_, Metadata.toJson_eq _, fun c hc j hj => ?_⟩
  by_cases hname : c.1 = "annotations"
  · change Members.get? (m.annotate key value).toJson.members c.1 = some j at hj
    rw [hname, get?_annotations rfl] at hj
    rw [← Option.some.inj hj]
    exact Or.inr (check_annotations _ c hc hname)
  · refine heach c hc j ?_
    have hsame := get?_annotate_of_ne hname m key value
    rw [hms] at hsame
    exact hsame.symm.trans hj

end Metadata

namespace Object

variable {o : Object} {family : Family} {release : String}

/-- The type of the workloads. -/
def daemonSetType : ObjectType := ⟨Kind.daemonSet.apiVersion, Kind.daemonSet.name⟩

/-! ## Which objects are marked -/

/-- The workloads that are marked with the family. -/
def familyNames : List String := [Names.masterWorkload, Names.nodeWorkload]

/-- The workloads that are marked with the release, those that a pass decides about. -/
def workloadNames : List String := familyNames ++ [Names.prepullerWorkload]

theorem familyNames_subset : familyNames ⊆ workloadNames := by decide

theorem mem_workloadNames {name : String} : name ∈ workloadNames ↔
    name = Names.masterWorkload ∨ name = Names.nodeWorkload ∨ name = Names.prepullerWorkload := by
  simp [workloadNames, familyNames]

theorem isWorkload_of_name {name : String} (htype : o.type = some daemonSetType)
    (hname : o.metadata.name = some name) : o.isWorkload name = true := by
  unfold isWorkload group kind
  rw [htype, hname, decide_eq_true_eq.mpr rfl]
  rfl

theorem isWorkload_of_other_name {name other : String} (hname : o.metadata.name = some name)
    (hne : name ≠ other) : o.isWorkload other = false := by
  unfold isWorkload
  rw [hname]
  simp [hne]

theorem stamp_of_isWorkload {name : String} (hworkload : o.isWorkload name = true)
    (htier : name ∈ familyNames) (family : Family) (release : String) :
    o.stamp family release = (o.markFamily family).markRelease release := by
  unfold stamp
  rcases List.mem_pair.mp htier with rfl | rfl
  · rw [hworkload, Bool.true_or, if_pos rfl]
  · rw [hworkload, Bool.or_true, if_pos rfl]

theorem stamp_of_tier {name : String} (htype : o.type = some daemonSetType)
    (hname : o.metadata.name = some name) (htier : name ∈ familyNames) (family : Family)
    (release : String) :
    o.stamp family release = (o.markFamily family).markRelease release :=
  stamp_of_isWorkload (isWorkload_of_name htype hname) htier family release

theorem stamp_of_prepuller (htype : o.type = some daemonSetType)
    (hname : o.metadata.name = some Names.prepullerWorkload) (family : Family) (release : String) :
    o.stamp family release = o.markRelease release := by
  unfold stamp
  rw [isWorkload_of_other_name hname (by decide), isWorkload_of_other_name hname (by decide),
    isWorkload_of_name htype hname]
  rfl

theorem stamp_of_other (hother : ∀ name ∈ workloadNames, o.isWorkload name = false)
    (family : Family) (release : String) : o.stamp family release = o := by
  unfold stamp
  rw [hother Names.masterWorkload (by decide), hother Names.nodeWorkload (by decide),
    hother Names.prepullerWorkload (by decide)]
  rfl

/-- What an object is, and where it goes. -/
theorem stamp_identity (o : Object) (family : Family) (release : String) :
    (o.stamp family release).type = o.type ∧
      (o.stamp family release).metadata.name = o.metadata.name ∧
      (o.stamp family release).metadata.namespaceName = o.metadata.namespaceName ∧
      (o.stamp family release).metadata.generateName = o.metadata.generateName := by
  unfold stamp
  split
  case isTrue => exact ⟨rfl, rfl, rfl, rfl⟩
  case isFalse =>
    split
    case isTrue => exact ⟨rfl, rfl, rfl, rfl⟩
    case isFalse => exact ⟨rfl, rfl, rfl, rfl⟩

/-! ## What stays -/

theorem WellFormed.markFamily (h : o.WellFormed) (family : Family) :
    (o.markFamily family).WellFormed where
  metadata := h.metadata.annotate _ _
  head := by
    intro name hname
    have hne : name ≠ "spec" := by
      rintro rfl
      exact absurd hname (by decide)
    exact (Members.get?_setText_of_ne hne _ _ _).trans (h.head name hname)
  data := Members.distinct_setText h.data _ _ _

theorem WellFormed.markRelease (h : o.WellFormed) (release : String) :
    (o.markRelease release).WellFormed :=
  ⟨h.metadata.annotate _ _, h.head, h.data⟩

theorem WellFormed.stamp (h : o.WellFormed) (family : Family) (release : String) :
    (o.stamp family release).WellFormed := by
  unfold Object.stamp
  split
  case isTrue => exact (h.markFamily family).markRelease release
  case isFalse =>
    split
    case isTrue => exact h.markRelease release
    case isFalse => exact h

/-- A workload reads as a tier when its parts do. -/
theorem reads_toJson_iff (htype : o.type = some daemonSetType) :
    Tier.Reads o.toJson.members ↔ ReadsAs Metadata.checks o.metadata.toJson ∧
      ReadsAs Tier.statusChecks (o.data.getD "status") ∧
      Tier.isObjectOrNull (o.data.getD "spec") = true := by
  have hmetadata : Members.getD o.toJson.members "metadata" = o.metadata.toJson := by
    rw [Members.getD, get?_toJson_metadata htype]
    rfl
  have hstatus : Members.getD o.toJson.members "status" = o.data.getD "status" := by
    rw [Members.getD, get?_toJson_of_not_head htype (by decide)]
    rfl
  have hspec : Members.getD o.toJson.members "spec" = o.data.getD "spec" := by
    rw [Members.getD, get?_toJson_of_not_head htype (by decide)]
    rfl
  have hapiVersion : Tier.isTextOrMissing o.toJson.members "apiVersion"
      Kind.daemonSet.apiVersion = true := by
    unfold Tier.isTextOrMissing
    rw [get?_toJson_apiVersion htype]
    rfl
  have hkind : Tier.isTextOrMissing o.toJson.members "kind" Kind.daemonSet.name = true := by
    unfold Tier.isTextOrMissing
    rw [get?_toJson_kind htype]
    rfl
  constructor
  · intro h
    exact ⟨hmetadata ▸ h.metadata, hstatus ▸ h.status, hspec ▸ h.spec⟩
  · rintro ⟨hm, hs, hp⟩
    exact ⟨hmetadata ▸ hm, hstatus ▸ hs, hapiVersion, hkind, hspec ▸ hp⟩

/-- A marked workload reads as a tier if it did before. -/
theorem reads_stamp (htype : o.type = some daemonSetType) (h : Tier.Reads o.toJson.members)
    (family : Family) (release : String) :
    Tier.Reads (o.stamp family release).toJson.members := by
  obtain ⟨hmetadata, hstatus, hspec⟩ := (reads_toJson_iff htype).mp h
  refine (reads_toJson_iff ((stamp_identity o family release).1.trans htype)).mpr ?_
  unfold stamp
  split
  case isTrue =>
    refine ⟨Metadata.readsAs_annotate (Metadata.readsAs_annotate hmetadata _ _) _ _, ?_,
      Members.isObjectOrNull_setText hspec _ _ _⟩
    have hsame : (o.data.setText Names.familyKey family.marker templateAnnotations).get? "status" =
        o.data.get? "status" := Members.get?_setText_of_ne (by decide) _ _ _
    change ReadsAs Tier.statusChecks (Members.getD (o.data.setText _ _ _) "status")
    rw [Members.getD, hsame]
    exact hstatus
  case isFalse =>
    split
    case isTrue => exact ⟨Metadata.readsAs_annotate hmetadata _ _, hstatus, hspec⟩
    case isFalse => exact ⟨hmetadata, hstatus, hspec⟩

/-! ## What is marked -/

theorem annotationIn_toJson {type : ObjectType} {texts : TextMap} (htype : o.type = some type)
    (h : o.metadata.annotations = some texts) (key : String) :
    Server.annotationIn key o.toJson = (texts.get? key).map .text := by
  unfold Server.annotationIn Json.path
  simp only [List.foldl_cons, List.foldl_nil]
  have hmetadata : o.toJson.field "metadata" = o.metadata.toJson :=
    congrArg (·.getD .null) (get?_toJson_metadata htype)
  have hannotations : o.metadata.toJson.field "annotations" = texts.toJson :=
    congrArg (·.getD .null) (Metadata.get?_annotations h)
  rw [hmetadata, hannotations]
  exact TextMap.get?_members texts key

theorem annotationIn_stamp_release {name : String} (htype : o.type = some daemonSetType)
    (hname : o.metadata.name = some name) (hworkload : name ∈ workloadNames) (family : Family)
    (release : String) :
    Server.annotationIn Names.releaseKey (o.stamp family release).toJson =
      some (.text release) := by
  have hmark : ∀ p : Object, p.type = some daemonSetType →
      Server.annotationIn Names.releaseKey (p.markRelease release).toJson =
        some (.text release) := by
    intro p hp
    rw [annotationIn_toJson (o := p.markRelease release) hp rfl, TextMap.get?_insert_self]
    rfl
  rcases List.mem_append.mp hworkload with htier | hprepuller
  · rw [stamp_of_tier htype hname htier]
    exact hmark _ htype
  · rw [List.mem_singleton.mp hprepuller] at hname
    rw [stamp_of_prepuller htype hname]
    exact hmark o htype

theorem annotationIn_stamp_family {name : String} (htype : o.type = some daemonSetType)
    (hname : o.metadata.name = some name) (htier : name ∈ familyNames) (family : Family)
    (release : String) :
    Server.annotationIn Names.familyKey (o.stamp family release).toJson =
      some (.text family.marker) := by
  rw [stamp_of_tier htype hname htier, annotationIn_toJson (o := (o.markFamily family).markRelease
    release) htype rfl, TextMap.get?_insert_of_ne (by decide)]
  change (TextMap.get? (TextMap.insert _ _ _) _).map _ = _
  rw [TextMap.get?_insert_self]
  rfl

end Object

end NetworkRollout
