import NetworkRollout.Proofs.Object.Metadata
import NetworkRollout.Proofs.Server.Effects

/-!
# Objects read and written

An object is read from its members in the order of their names; which member is where does not
matter when no name is given twice. It is written with its type and metadata in front of its data.

* `Object.ReadFrom`, `Object.readFrom_of_ofJson?`: what an object is read from.
* `Object.WellFormed`: what holds of objects that were read, and is kept by what is done to them.
* `Tier.Reads`, `Tier.isSome_ofWorkload?_iff`: when a workload reads as a tier.
* `Tier.marks_of_ofWorkload?`: the marks of a tier are the annotations of its workload.
-/

namespace NetworkRollout

open Json

namespace Object

variable {ms : Members} {type : ObjectType} {o : Object}

/-! ## Reading objects -/

/-- The members that type and metadata are read from. -/
def headNames : List String := ["apiVersion", "kind", "metadata"]

/-- What an object with a type is read from. -/
structure ReadFrom (ms : Members) (type : ObjectType) (o : Object) : Prop where
  typed : o.type = some type
  apiVersion : ms.get? "apiVersion" = some (.text type.apiVersion)
  kind : ms.get? "kind" = some (.text type.kind)
  metadata : Metadata.ofJson? (ms.getD "metadata") = some o.metadata
  data : ∀ name, name ∉ headNames → o.data.get? name = ms.get? name
  head : ∀ name ∈ headNames, o.data.get? name = none
  distinct : (Json.object o.data).Distinct

/-- Members that give a type give it in two texts, and all others are left. -/
theorem splitType_some {rest : Members} (hnodup : (ms.map (·.1)).Nodup)
    (h : splitType ms = (some type, rest)) :
    ms.get? "apiVersion" = some (.text type.apiVersion) ∧
      ms.get? "kind" = some (.text type.kind) ∧
      rest = (ms.erase "apiVersion").erase "kind" := by
  unfold splitType at h
  split at h
  case h_1 => cases h
  case h_2 => cases h
  case h_3 first a second b others hfilter =>
    have hsub := List.filter_sublist (p := fun m : String × Json =>
      m.1 = "apiVersion" || m.1 = "kind") (l := ms)
    have hnames : ∀ m ∈ [(first, a), (second, b)],
        m ∈ ms ∧ (m.1 = "apiVersion" ∨ m.1 = "kind") := by
      intro m hm
      have hmem : m ∈ ms.filter fun m => m.1 = "apiVersion" || m.1 = "kind" := by
        rw [hfilter]
        exact List.mem_append_left others hm
      simpa using List.mem_filter.mp hmem
    have hne : first ≠ second := by
      rw [hfilter] at hsub
      have hdistinct := (hsub.map (·.1)).nodup hnodup
      rintro rfl
      exact (List.nodup_cons.mp hdistinct).1 List.mem_cons_self
    obtain ⟨hfirst, hfirstName⟩ := hnames (first, a) List.mem_cons_self
    obtain ⟨hsecond, hsecondName⟩ := hnames (second, b) (List.mem_cons_of_mem _ List.mem_cons_self)
    dsimp only at h hfirstName hsecondName
    split at h
    case h_1 apiVersion kind =>
      cases h
      rcases hfirstName with rfl | rfl
      · obtain rfl : second = "kind" := hsecondName.resolve_left (Ne.symm hne)
        exact ⟨Members.get?_of_mem hnodup hfirst, Members.get?_of_mem hnodup hsecond, rfl⟩
      · obtain rfl : second = "apiVersion" := hsecondName.resolve_right (Ne.symm hne)
        exact ⟨Members.get?_of_mem hnodup hsecond, Members.get?_of_mem hnodup hfirst, rfl⟩
    case h_2 => cases h
    case h_3 => cases h

theorem readFrom_of_ofJson? (hms : (Json.object ms).Distinct) (h : ofJson? (.object ms) = some o)
    (htype : o.type = some type) : o.ReadFrom ms type := by
  have hperm : (sortMembers ms).Perm ms := List.mergeSort_perm _ _
  have hsorted : (Json.object (sortMembers ms)).Distinct := hms.perm hperm
  have hget : ∀ name, (sortMembers ms).get? name = ms.get? name :=
    Members.get?_of_perm hms.names hperm
  change ofMembers? (sortMembers ms) = some o at h
  unfold ofMembers? at h
  cases hsplit : splitType (sortMembers ms) with
  | mk found rest =>
    rw [hsplit] at h
    dsimp only at h
    obtain ⟨metadata, hmetadata, heq⟩ := Option.bind_eq_some_iff.mp h
    cases heq
    obtain rfl : found = some type := htype
    obtain ⟨hapiVersion, hkind, rfl⟩ := splitType_some hsorted.names hsplit
    rw [hget] at hapiVersion hkind
    refine ⟨rfl, hapiVersion, hkind, ?_, ?_, ?_, ?_⟩
    · rw [Members.getD, hget] at hmetadata
      exact hmetadata
    · intro name hname
      simp only [headNames, List.mem_cons, List.not_mem_nil, or_false, not_or] at hname
      obtain ⟨hapiVersion, hkind, hmetadata⟩ := hname
      rw [Members.get?_erase_of_ne hmetadata, Members.get?_erase_of_ne hkind,
        Members.get?_erase_of_ne hapiVersion, hget]
    · intro name hname
      simp only [headNames, List.mem_cons, List.not_mem_nil, or_false] at hname
      rcases hname with rfl | rfl | rfl
      · rw [Members.get?_erase_of_ne (by decide), Members.get?_erase_of_ne (by decide),
          Members.get?_erase_self]
      · rw [Members.get?_erase_of_ne (by decide), Members.get?_erase_self]
      · rw [Members.get?_erase_self]
    · exact hsorted.sublist
        ((List.filter_sublist.trans List.filter_sublist).trans List.filter_sublist)

/-! ## Writing objects -/

theorem toJson_eq (htype : o.type = some type) :
    o.toJson = .object (("apiVersion", .text type.apiVersion) ::
      ("kind", .text type.kind) :: ("metadata", o.metadata.toJson) :: o.data) := by
  unfold toJson
  rw [htype]
  rfl

theorem get?_toJson_apiVersion (htype : o.type = some type) :
    Members.get? o.toJson.members "apiVersion" = some (.text type.apiVersion) := by
  rw [toJson_eq htype]
  exact Members.get?_cons_self _ _ _

theorem get?_toJson_kind (htype : o.type = some type) :
    Members.get? o.toJson.members "kind" = some (.text type.kind) := by
  rw [toJson_eq htype]
  exact (Members.get?_cons_of_ne (by decide) _ _).trans (Members.get?_cons_self _ _ _)

theorem get?_toJson_metadata (htype : o.type = some type) :
    Members.get? o.toJson.members "metadata" = some o.metadata.toJson := by
  rw [toJson_eq htype]
  exact ((Members.get?_cons_of_ne (by decide) _ _).trans
    (Members.get?_cons_of_ne (by decide) _ _)).trans (Members.get?_cons_self _ _ _)

theorem get?_toJson_of_not_head (htype : o.type = some type) {name : String}
    (hname : name ∉ headNames) : Members.get? o.toJson.members name = o.data.get? name := by
  simp only [headNames, List.mem_cons, List.not_mem_nil, or_false, not_or] at hname
  obtain ⟨hapiVersion, hkind, hmetadata⟩ := hname
  rw [toJson_eq htype]
  change Members.get? (_ :: _ :: _ :: o.data) name = _
  rw [Members.get?_cons_of_ne hapiVersion, Members.get?_cons_of_ne hkind,
    Members.get?_cons_of_ne hmetadata]

/-- What holds of objects that were read. -/
structure WellFormed (o : Object) : Prop where
  metadata : o.metadata.WellFormed
  head : ∀ name ∈ headNames, o.data.get? name = none
  data : (Json.object o.data).Distinct

theorem ReadFrom.wellFormed (h : o.ReadFrom ms type) (hms : (Json.object ms).Distinct) :
    o.WellFormed :=
  ⟨Metadata.wellFormed_of_ofJson? (hms.field "metadata") h.metadata, h.head, h.distinct⟩

theorem WellFormed.distinct (h : o.WellFormed) (htype : o.type = some type) :
    o.toJson.Distinct := by
  have hfresh : ∀ name ∈ headNames, name ∉ o.data.map (·.1) := by
    intro name hname hmem
    obtain ⟨m, hm, rfl⟩ := List.mem_map.mp hmem
    have hfound := Members.get?_of_mem h.data.names hm
    rw [h.head m.1 hname] at hfound
    cases hfound
  rw [toJson_eq htype]
  refine .object ?_ ?_
  · simp only [List.map_cons, List.nodup_cons, List.mem_cons, not_or]
    exact ⟨⟨by decide, by decide, hfresh _ (by decide)⟩, ⟨by decide, hfresh _ (by decide)⟩,
      hfresh _ (by decide), h.data.names⟩
  · simp only [List.forall_mem_cons]
    exact ⟨.plain rfl, .plain rfl, h.metadata.distinct, h.data.each⟩

end Object

/-! ## Tiers -/

namespace Tier

variable {ms : Members} {t : Tier}

/-- The fields of the status of a workload, each with the check that its value has to pass. -/
def statusChecks : List (String × (Json → Bool)) :=
  ["collisionCount", "currentNumberScheduled", "numberMisscheduled", "numberReady",
    "desiredNumberScheduled", "updatedNumberScheduled", "numberAvailable",
    "numberUnavailable"].map (fun name => (name, fun j => (i32? j).isSome)) ++
  [("observedGeneration", fun j => (i64? j).isSome)]

theorem staysRead_statusChecks : ∀ c ∈ statusChecks, StaysRead c.2 := by
  intro c hc
  rcases List.mem_append.mp hc with hcounter | hgeneration
  · obtain ⟨name, -, rfl⟩ := List.mem_map.mp hcounter
    exact staysRead_of_plain fun ms => rfl
  · rw [List.mem_singleton.mp hgeneration]
    exact staysRead_of_plain fun ms => rfl

theorem isSome_counter?_iff {status : Members} {name : String} :
    (counter? status name).isSome ↔ FieldReads status name fun j => (i32? j).isSome := by
  unfold counter?
  rw [Option.isSome_map, isSome_optional_iff]

theorem isSome_progress?_iff {generation : Int} {status : Members} :
    (progress? generation status).isSome ↔ ∀ c ∈ statusChecks, FieldReads status c.1 c.2 := by
  unfold progress? statusChecks
  rw [List.forall_mem_append, List.forall_mem_map, List.forall_mem_singleton]
  simp only [List.forall_mem_cons, ← isSome_counter?_iff, ← isSome_optional_iff]
  constructor
  · intro h
    obtain ⟨p, hp⟩ := Option.isSome_iff_exists.mp h
    simp only [Option.bind_eq_bind, Option.bind_eq_some_iff] at hp
    obtain ⟨_, hfirst, _, hdesired, _, hupdated, _, havailable, _, hunavailable, _, hobserved,
      -⟩ := hp
    have hfirst := isSome_mapM_iff.mp (Option.isSome_of_eq_some hfirst)
    simp only [List.forall_mem_cons] at hfirst
    exact ⟨⟨hfirst.1, hfirst.2.1, hfirst.2.2.1, hfirst.2.2.2.1, Option.isSome_of_eq_some hdesired,
      Option.isSome_of_eq_some hupdated, Option.isSome_of_eq_some havailable,
      Option.isSome_of_eq_some hunavailable, nofun⟩, Option.isSome_of_eq_some hobserved⟩
  · rintro ⟨⟨hcollisions, hcurrent, hmisscheduled, hready, hdesired, hupdated, havailable,
      hunavailable, -⟩, hobserved⟩
    have hfirst : (["collisionCount", "currentNumberScheduled", "numberMisscheduled",
        "numberReady"].mapM (counter? status)).isSome := by
      refine isSome_mapM_iff.mpr ?_
      simp only [List.forall_mem_cons]
      exact ⟨hcollisions, hcurrent, hmisscheduled, hready, nofun⟩
    obtain ⟨_, hfirst⟩ := Option.isSome_iff_exists.mp hfirst
    obtain ⟨_, hdesired⟩ := Option.isSome_iff_exists.mp hdesired
    obtain ⟨_, hupdated⟩ := Option.isSome_iff_exists.mp hupdated
    obtain ⟨_, havailable⟩ := Option.isSome_iff_exists.mp havailable
    obtain ⟨_, hunavailable⟩ := Option.isSome_iff_exists.mp hunavailable
    obtain ⟨_, hobserved⟩ := Option.isSome_iff_exists.mp hobserved
    simp only [hfirst, hdesired, hupdated, havailable, hunavailable, hobserved,
      Option.bind_eq_bind, Option.bind_some]
    rfl

/-- The members of a workload read as those of a tier. -/
structure Reads (ms : Members) : Prop where
  metadata : ReadsAs Metadata.checks (ms.getD "metadata")
  status : ReadsAs statusChecks (ms.getD "status")
  apiVersion : isTextOrMissing ms "apiVersion" Kind.daemonSet.apiVersion = true
  kind : isTextOrMissing ms "kind" Kind.daemonSet.name = true
  spec : isObjectOrNull (ms.getD "spec") = true

/-- The status of a workload is missing, null, or an object whose counters read. -/
theorem readsAs_status_iff (generation : Int) :
    ((Fields.optional ms "status" Json.object?).bind fun status =>
        progress? generation (status.getD [])).isSome ↔
      ReadsAs statusChecks (ms.getD "status") := by
  have hnone : (progress? generation []).isSome :=
    isSome_progress?_iff.mpr (by rintro c - j ⟨⟩)
  unfold Fields.optional Members.getD Members.get?
  cases List.lookup "status" ms with
  | none => exact iff_of_true hnone (Or.inl rfl)
  | some j =>
    cases j with
    | null => exact iff_of_true hnone (Or.inl rfl)
    | object status =>
      refine isSome_progress?_iff.trans ⟨fun h => Or.inr ⟨status, rfl, h⟩, ?_⟩
      rintro (hnull | ⟨_, heq, h⟩)
      · cases hnull
      · cases heq
        exact h
    | _ =>
      refine iff_of_false (by rintro ⟨⟩) ?_
      rintro (hnull | ⟨_, heq, -⟩)
      · cases hnull
      · cases heq

/-- What is read for a tier, in the order of the workload. -/
theorem ofWorkload?_eq_some (h : ofWorkload? (.object ms) = some t) :
    ∃ metadata, Metadata.ofJson? (ms.getD "metadata") = some metadata ∧
      t.version = metadata.annotation? Names.releaseKey ∧
      t.family = (metadata.annotation? Names.familyKey).bind Family.ofMarker? ∧ Reads ms := by
  change (Metadata.ofJson? (ms.getD "metadata")).bind _ = some t at h
  obtain ⟨metadata, hmetadata, h⟩ := Option.bind_eq_some_iff.mp h
  obtain ⟨status, hstatus, h⟩ := Option.bind_eq_some_iff.mp h
  obtain ⟨progress, hprogress, h⟩ := Option.bind_eq_some_iff.mp h
  split at h
  case isTrue hforms =>
    cases h
    simp only [Bool.and_eq_true] at hforms
    refine ⟨metadata, hmetadata, rfl, rfl,
      Metadata.isSome_ofJson?_iff.mp (Option.isSome_of_eq_some hmetadata), ?_, hforms.1.1,
      hforms.1.2, hforms.2⟩
    refine (readsAs_status_iff (metadata.generation.getD 0)).mp ?_
    rw [hstatus, Option.bind_some, hprogress]
    rfl
  case isFalse => cases h

theorem isSome_ofWorkload?_iff : (ofWorkload? (.object ms)).isSome ↔ Reads ms := by
  constructor
  · intro h
    obtain ⟨t, ht⟩ := Option.isSome_iff_exists.mp h
    obtain ⟨-, -, -, -, hreads⟩ := ofWorkload?_eq_some ht
    exact hreads
  · intro h
    obtain ⟨metadata, hmetadata⟩ :=
      Option.isSome_iff_exists.mp (Metadata.isSome_ofJson?_iff.mpr h.metadata)
    obtain ⟨progress, hcounters⟩ := Option.isSome_iff_exists.mp
      ((readsAs_status_iff (metadata.generation.getD 0)).mpr h.status)
    obtain ⟨status, hstatus, hprogress⟩ := Option.bind_eq_some_iff.mp hcounters
    unfold ofWorkload? Json.object?
    rw [Option.bind_eq_bind, Option.bind_some, hmetadata, Option.bind_eq_bind, Option.bind_some]
    unfold Json.object? at hstatus
    rw [hstatus, Option.bind_eq_bind, Option.bind_some, hprogress, Option.bind_eq_bind,
      Option.bind_some, h.apiVersion, h.kind, h.spec]
    rfl

/-- The marks of a tier are the annotations of its workload. -/
theorem marks_of_ofWorkload? {j : Json} (hj : j.Distinct) (h : ofWorkload? j = some t) :
    (∀ release, Server.annotationIn Names.releaseKey j = some (.text release) →
        t.version = some release) ∧
      ∀ marker, Server.annotationIn Names.familyKey j = some (.text marker) →
        t.family = Family.ofMarker? marker := by
  cases j with
  | object ms =>
    obtain ⟨metadata, hmetadata, hversion, hfamily, -⟩ := ofWorkload?_eq_some h
    refine ⟨fun release hrelease => ?_, fun marker hmarker => ?_⟩
    · rw [hversion]
      exact Metadata.annotation?_of_ofJson? (hj.field "metadata") hmetadata hrelease
    · rw [hfamily, Metadata.annotation?_of_ofJson? (hj.field "metadata") hmetadata hmarker]
      rfl
  | _ => cases h

end Tier

end NetworkRollout
