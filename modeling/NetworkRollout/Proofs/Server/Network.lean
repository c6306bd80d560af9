import NetworkRollout.Proofs.Object.Metadata
import NetworkRollout.Proofs.Server.Questions
import NetworkRollout.Proofs.Status.MergedStatus

/-!
# The stored network

What becomes of the network on the server. An annotation of it leaves all else that is read of it
as it is. A patch of its status leaves metadata and spec, and lays the new status over the old one.
So between the patches of its status the network is only edited: its status stays, and its
generation does not fall. That holds even when the network itself is applied, on a server that
merges; it may not read then, but its status and its generation are still what they were.

* `Server.network?`: the network as a pass reads it.
* `NetworkObject.ofJson?_annotated`: what an annotation leaves.
* `Server.statusOf?`, `Server.generationOf`: what is told by a network that may not read.
* `Server.Edits`, `Server.Edits.of_did`: what keeps the status and the generation.
* `Server.statusOf?_statusPatch`, `Server.network?_patchStatus`: what a patch of the status leaves.
-/

namespace NetworkRollout

open Json

/-! ## Annotations -/

/-- The annotations read again after a text is put among them. -/
theorem TextMap.isSome_ofJson?_merge {j : Json} (key value : String)
    (h : j = .null ∨ (TextMap.ofJson? j).isSome) :
    (TextMap.ofJson? (j.merge (.object [(key, .text value)]))).isSome := by
  change (TextMap.ofJson? (.object (j.members.insert key (.text value)))).isSome
  refine TextMap.isSome_ofJson?_object.mpr fun m hm => ?_
  rcases Members.mem_insert hm with rfl | hm
  · rfl
  · rcases h with rfl | h
    · cases hm
    · cases j with
      | object ms => exact TextMap.isSome_ofJson?_object.mp h m hm
      | _ => cases h

namespace Metadata

/-- An annotation leaves all other metadata. -/
theorem ofJson?_annotated {j : Json} {m : Metadata} (h : ofJson? j = some m) (key value : String) :
    ∃ annotations, ofJson? (j.merge (.object [("annotations", .object [(key, .text value)])])) =
      some { m with annotations } := by
  have hread := ofMembers?_of_ofJson? h
  change ∃ annotations, ofMembers? (mergeMembers j.members _) = _
  -- no member but the annotations is touched
  have hother : ∀ name, name ≠ "annotations" →
      Members.get? (mergeMembers j.members [("annotations", .object [(key, .text value)])]) name =
        Members.get? j.members name := by
    intro name hne
    refine get?_mergeMembers_of_none ?_
    rw [Members.get?_cons_of_ne hne]
    rfl
  have hoptional : ∀ {α : Type} (name : String) (read : Json → Option α), name ≠ "annotations" →
      Fields.optional (mergeMembers j.members [("annotations", .object [(key, .text value)])])
        name read = Fields.optional j.members name read :=
    fun name _ hne => Fields.optional_congr (hother name hne)
  have hothers : readFields? otherFields
      (mergeMembers j.members [("annotations", .object [(key, .text value)])]) =
        readFields? otherFields j.members := by
    refine readFields?_congr fun f hf => hother f.1 ?_
    revert f
    decide
  unfold ofMembers? at hread ⊢
  simp only [Option.bind_eq_bind, Option.bind_eq_some_iff] at hread
  obtain ⟨owners, howners, others, hfields, name, hname, namespaceName, hnamespace, generateName,
    hgenerate, annotations, hannotations, generation, hgeneration, version, hversion, managed,
    hmanaged, heq⟩ := hread
  have hstored : j.field "annotations" = .null ∨
      (TextMap.ofJson? (j.field "annotations")).isSome := by
    unfold Fields.optional at hannotations
    change (List.lookup "annotations" j.members).getD .null = .null ∨
      (TextMap.ofJson? ((List.lookup "annotations" j.members).getD .null)).isSome
    split at hannotations
    case h_1 hnone => exact Or.inl (by rw [hnone]; rfl)
    case h_2 hnull => exact Or.inl (by rw [hnull]; rfl)
    case h_3 a _ hsome =>
      obtain ⟨texts, htexts, -⟩ := Option.map_eq_some_iff.mp hannotations
      rw [hsome, Option.getD_some, htexts]
      exact Or.inr rfl
  obtain ⟨texts, htexts⟩ :=
    Option.isSome_iff_exists.mp (TextMap.isSome_ofJson?_merge key value hstored)
  have hmerged : Fields.optional
      (mergeMembers j.members [("annotations", .object [(key, .text value)])])
      "annotations" TextMap.ofJson? = some (some texts) := by
    have hlookup : List.lookup "annotations"
        (mergeMembers j.members [("annotations", .object [(key, .text value)])]) = _ :=
      lookup_mergeMembers (by simp) List.lookup_cons_self rfl
    unfold Fields.optional
    rw [hlookup]
    change (TextMap.ofJson? (merge (j.field "annotations") _)).map some = _
    rw [htexts]
    rfl
  refine ⟨some texts, ?_⟩
  simp only [hoptional "name" text? (by decide), hoptional "namespace" text? (by decide),
    hoptional "generateName" text? (by decide), hoptional "generation" i64? (by decide),
    hoptional "resourceVersion" text? (by decide),
    hoptional "managedFields" (readRecords? managedFieldFields) (by decide),
    hoptional "ownerReferences" (readRecords? ownerFields) (by decide), hothers, hmerged,
    howners, hfields, hname, hnamespace, hgenerate, hgeneration, hversion, hmanaged,
    Option.bind_eq_bind, Option.bind_some]
  cases heq
  rfl

end Metadata

/-- A generation that reads is a number of 64 bits. -/
theorem Metadata.generation_inRange {j : Json} {m : Metadata} (h : Metadata.ofJson? j = some m) :
    i64? (.int (m.generation.getD 0)) = some (m.generation.getD 0) := by
  have hread := generation_of_ofMembers? (ofMembers?_of_ofJson? h)
  cases hgeneration : m.generation with
  | none => rfl
  | some n =>
    rw [hgeneration] at hread
    obtain ⟨value, -, hn⟩ := Fields.exists_of_optional hread
    exact RolloutStatus.i64?_int hn

/-- So is the generation of a status that reads. -/
theorem RolloutStatus.inRange_of_optional {ms : Members} {status : Option RolloutStatus}
    (h : Fields.optional ms "status" RolloutStatus.ofJson? = some status) :
    i64? (.int (status.getD {}).observedGeneration) =
      some (status.getD {}).observedGeneration := by
  cases status with
  | none => rfl
  | some s =>
    obtain ⟨value, -, hs⟩ := Fields.exists_of_optional h
    exact inRange_of_ofJson? hs

namespace NetworkObject

/-- Both generations of a network are numbers of 64 bits. -/
structure InRange (n : NetworkObject) : Prop where
  generation : i64? (.int n.generation) = some n.generation
  observedGeneration : i64? (.int (n.status.getD {}).observedGeneration) =
    some (n.status.getD {}).observedGeneration

theorem inRange_of_ofJson? {j : Json} {n : NetworkObject} (h : ofJson? j = some n) :
    n.InRange := by
  obtain ⟨fs, -, h⟩ := Option.bind_eq_some_iff.mp h
  simp only [Option.bind_eq_bind, Option.bind_eq_some_iff] at h
  obtain ⟨metadata, hmetadata, _, -, status, hstatus, heq⟩ := h
  cases heq
  obtain ⟨j, -, hread⟩ := Option.bind_eq_some_iff.mp hmetadata
  exact ⟨Metadata.generation_inRange hread, RolloutStatus.inRange_of_optional hstatus⟩

/-- An annotation leaves spec and status, and all other metadata. -/
theorem ofJson?_annotated {body : Members} {n : NetworkObject}
    (h : ofJson? (.object body) = some n) (key value : String) :
    ∃ annotations, ofJson? ((Json.object body).merge (Server.annotationPatch key value)) =
      some { n with metadata := { n.metadata with annotations } } := by
  obtain ⟨hrepeats, hmetadata, hspec, hstatus⟩ := ofJson?_object_iff.mp h
  obtain ⟨j, hj, hread⟩ := Option.bind_eq_some_iff.mp hmetadata
  obtain ⟨annotations, hannotated⟩ := Metadata.ofJson?_annotated hread key value
  refine ⟨annotations, ?_⟩
  change ofJson? (.object (mergeMembers body
    [("metadata", .object [("annotations", .object [(key, .text value)])])])) = _
  have hother : ∀ name, name ≠ "metadata" →
      List.lookup name (mergeMembers body
        [("metadata", .object [("annotations", .object [(key, .text value)])])]) =
          List.lookup name body := by
    intro name hne
    refine get?_mergeMembers_of_none ?_
    rw [Members.get?_cons_of_ne hne]
    rfl
  refine ofJson?_object_iff.mpr ⟨repeats_mergeMembers hrepeats _, ?_, ?_, ?_⟩
  · have hstored : body.getD "metadata" = j := congrArg (·.getD .null) hj
    have hlookup : List.lookup "metadata" (mergeMembers body
        [("metadata", .object [("annotations", .object [(key, .text value)])])]) = _ :=
      lookup_mergeMembers (by simp) List.lookup_cons_self rfl
    rw [hstored] at hlookup
    unfold Fields.required
    rw [hlookup]
    exact hannotated
  · unfold Fields.required at hspec ⊢
    rw [hother "spec" (by decide)]
    exact hspec
  · rw [Fields.optional_congr (hother "status" (by decide))]
    exact hstatus

/-- A new status is laid over the stored one, or over none at all if that is written by position. -/
theorem exists_reads {ms : Members} {status : Option RolloutStatus}
    (h : Fields.optional ms "status" RolloutStatus.ofJson? = some status) :
    ∃ old : RolloutStatus, (old = status.getD {} ∨ old = {}) ∧
      old.Reads (ms.getD "status").members := by
  cases hplain : (ms.getD "status").array? with
  | none => exact ⟨_, Or.inl rfl, reads_of_optional hplain h⟩
  | some items =>
    -- what is written by position has no members that could stay
    refine ⟨{}, Or.inr rfl, ?_⟩
    cases hstatus : ms.getD "status" with
    | array _ => exact RolloutStatus.reads_nil
    | _ =>
      rw [hstatus] at hplain
      cases hplain

/-- A patch of the status leaves metadata and spec. -/
theorem ofJson?_statusPatch {body : Members} {n : NetworkObject} {new : RolloutStatus}
    (h : ofJson? (.object body) = some n)
    (hgeneration : i64? (.int new.observedGeneration) = some new.observedGeneration) :
    ∃ old, (old = n.status.getD {} ∨ old = {}) ∧
      ofJson? ((Json.object body).merge (Reconcile.statusPatch new)) =
        some { n with status := some (new.laidOver old) } := by
  obtain ⟨old, hold, hreads⟩ := exists_reads (ofJson?_object_iff.mp h).2.2.2
  exact ⟨old, hold, ofJson?_withStatus_of_reads h hreads hgeneration⟩

end NetworkObject

namespace Server

variable {s s' s'' : Server} {name : String} {n : NetworkObject}

/-! ## The network on the server -/

/-- The network as a pass reads it. -/
def network? (s : Server) (name : String) : Option NetworkObject :=
  match s.find? .network "" name with
  | some (.object body) => NetworkObject.ofJson? (.object body)
  | _ => none

theorem network?_of_find? {body : Members} (h : s.find? .network "" name = some (.object body)) :
    s.network? name = NetworkObject.ofJson? (.object body) := by
  unfold network?
  rw [h]

theorem network?_eq_some (h : s.network? name = some n) :
    ∃ body, s.find? .network "" name = some (.object body) ∧
      NetworkObject.ofJson? (.object body) = some n := by
  unfold network? at h
  split at h
  case h_1 body hfind => exact ⟨body, hfind, h⟩
  case h_2 => cases h

theorem network?_congr (h : s'.find? .network "" name = s.find? .network "" name) :
    s'.network? name = s.network? name := by
  unfold network?
  rw [h]

/-! ## What a stored network tells -/

/-- The status of a stored network as it reads; its defaults when there is none. -/
def statusOf? (body : Json) : Option RolloutStatus :=
  (Fields.optional body.members "status" RolloutStatus.ofJson?).map (·.getD {})

/-- A status that reads tells of a generation that is a number of 64 bits. -/
theorem inRange_of_statusOf? {body : Json} {status : RolloutStatus}
    (h : statusOf? body = some status) :
    i64? (.int status.observedGeneration) = some status.observedGeneration := by
  obtain ⟨stored, hstored, rfl⟩ := Option.map_eq_some_iff.mp h
  exact RolloutStatus.inRange_of_optional hstored

/-- The generation of a stored network; zero when there is none. -/
def generationOf (body : Json) : Int :=
  (Fields.optional (body.field "metadata").members "generation" i64?).join.getD 0

/-- A network that reads is read with the status and the generation that it tells. -/
theorem tells_of_ofJson? {body : Members} (h : NetworkObject.ofJson? (.object body) = some n) :
    statusOf? (.object body) = some (n.status.getD {}) ∧
      generationOf (.object body) = n.generation := by
  obtain ⟨-, hmetadata, -, hstatus⟩ := NetworkObject.ofJson?_object_iff.mp h
  refine ⟨?_, ?_⟩
  · change (Fields.optional body "status" RolloutStatus.ofJson?).map (·.getD {}) = _
    rw [hstatus]
    rfl
  · obtain ⟨j, hj, hread⟩ := Option.bind_eq_some_iff.mp hmetadata
    have hfield : (Json.object body).field "metadata" = j := congrArg (·.getD .null) hj
    have hgeneration :=
      Metadata.generation_of_ofMembers? (Metadata.ofMembers?_of_ofJson? hread)
    unfold generationOf NetworkObject.generation
    rw [hfield, hgeneration]
    rfl

theorem generationOf_merge_status (status body : Json) :
    generationOf (body.merge (.object [("status", status)])) = generationOf body := by
  unfold generationOf
  rw [field_merge_of_ne (by decide)]

/-- The same status as before, if it reads, and a generation that is not lower. -/
structure StandsIn (body body' : Json) : Prop where
  status : ∀ status, statusOf? body = some status → statusOf? body' = some status
  generation : generationOf body ≤ generationOf body'

namespace StandsIn

variable {body body' body'' : Json}

theorem refl (body : Json) : StandsIn body body := ⟨fun _ h => h, Int.le_refl _⟩

theorem trans (hab : StandsIn body body') (hbc : StandsIn body' body'') : StandsIn body body'' :=
  ⟨fun status h => hbc.status status (hab.status status h), hab.generation.trans hbc.generation⟩

theorem of_get? (hstatus : Members.get? body'.members "status" = Members.get? body.members "status")
    (hgeneration : Members.get? (body'.field "metadata").members "generation" =
      Members.get? (body.field "metadata").members "generation") : StandsIn body body' := by
  refine ⟨fun status h => ?_, ?_⟩
  · unfold statusOf? at h ⊢
    rw [Fields.optional_congr hstatus]
    exact h
  · unfold generationOf
    rw [Fields.optional_congr hgeneration]

/-- An annotation. -/
theorem annotated (body : Json) (key value : String) :
    StandsIn body (body.merge (annotationPatch key value)) := by
  refine of_get? (get?_merge_of_ne (by decide) body) ?_
  unfold annotationPatch
  rw [field_merge_self rfl]
  exact get?_merge_of_ne (by decide) _

/-- Applied to a server that merges, whatever is sent. -/
theorem applied (body object : Json) : StandsIn body (Storing.merges.settle (some body) object) :=
  of_get? (Storing.get?_merges_status (some body) object)
    (Storing.get?_merges_ownMetadata (by decide) (some body) object)

end StandsIn

/-- What happens to the network between the patches of its status: it stays there with its status,
and its generation does not fall. Objects are stored as before. -/
structure Edits (name : String) (s s' : Server) : Prop where
  storing : s'.serving.storing = s.serving.storing
  network : ∀ body, s.find? .network "" name = some body →
    ∃ body', s'.find? .network "" name = some body' ∧ StandsIn body body'

namespace Edits

theorem refl (name : String) (s : Server) : Edits name s s :=
  ⟨rfl, fun body h => ⟨body, h, .refl body⟩⟩

theorem trans (hab : Edits name s s') (hbc : Edits name s' s'') : Edits name s s'' := by
  refine ⟨hbc.storing.trans hab.storing, fun body hbody => ?_⟩
  obtain ⟨body', hbody', hstands⟩ := hab.network body hbody
  obtain ⟨body'', hbody'', hstands'⟩ := hbc.network body' hbody'
  exact ⟨body'', hbody'', hstands.trans hstands'⟩

end Edits

/-- An effect that may come between the patches of the status: an annotation of the network, its
application where that is merged, or an effect on something else. -/
def Effect.IsEdit (storing : Storing) (name : String) (effect : Effect) : Prop :=
  effect.target ≠ some (.network, "", name) ∨ (∃ key value, effect = .annotate name key value) ∨
    storing = .merges ∧ ∃ object, effect = .apply .network "" name object

theorem Effect.IsEdit.standsIn {storing : Storing} {effect : Effect} {objects : List StoredObject}
    {body : Json} (h : Effect.IsEdit storing name effect)
    (hfind : Server.find? { objects } .network "" name = some body) :
    ∃ body', Server.find? { objects := effect.on storing objects } .network "" name =
      some body' ∧ StandsIn body body' := by
  rcases h with hother | ⟨key, value, rfl⟩ | ⟨rfl, object, rfl⟩
  · exact ⟨body, (Effect.find?_on hother).trans hfind, .refl body⟩
  · exact ⟨_, find?_mergeInto_self hfind _, .annotated body key value⟩
  · refine ⟨_, Effect.find?_on_apply _ _ _ _ _ _, ?_⟩
    rw [hfind]
    exact .applied body object

theorem Edits.of_did {effects : List Effect} (h : Did s s' effects)
    (heach : ∀ effect ∈ effects, Effect.IsEdit s.serving.storing name effect) :
    Edits name s s' := by
  refine ⟨congrArg Serving.storing h.serving, fun body hbody => ?_⟩
  refine h.keeps (motive := fun t =>
    ∃ body', t.find? .network "" name = some body' ∧ StandsIn body body') ?_ ?_ ?_
  · rintro a b hobjects ⟨body', hbody', hstands⟩
    exact ⟨body', (find?_congr hobjects.symm).trans hbody', hstands⟩
  · exact ⟨body, hbody, .refl body⟩
  · rintro effect hmem objects ⟨body', hbody', hstands⟩
    obtain ⟨body'', hbody'', hnext⟩ := (heach effect hmem).standsIn hbody'
    exact ⟨body'', hbody'', hstands.trans hnext⟩

/-! ## Patches of the status -/

/-- A patch of a status that reads. -/
theorem statusOf?_statusPatch {body : Json} {status new : RolloutStatus}
    (h : statusOf? body = some status)
    (hgeneration : i64? (.int new.observedGeneration) = some new.observedGeneration) :
    ∃ old, (old = status ∨ old = {}) ∧
      statusOf? (body.merge (Reconcile.statusPatch new)) = some (new.laidOver old) := by
  obtain ⟨stored, hstored, rfl⟩ := Option.map_eq_some_iff.mp h
  obtain ⟨old, hold, hreads⟩ := NetworkObject.exists_reads hstored
  refine ⟨old, hold, ?_⟩
  exact congrArg (Option.map fun read => read.getD {})
    (NetworkObject.optional_status_merge hreads hgeneration)

/-- A patch of the status of a network that is there fails by a fault and leaves all as it is, or
it is merged into the network. -/
theorem patchStatus_cases {body : Json} (hfind : s.find? .network "" name = some body)
    (patch : Json) (faults : Faults) :
    let patched := s.patchStatus faults .network name (.object [("status", patch)])
    (∃ e, patched.1 = .error e ∧ Did s patched.2 []) ∨
      patched.1 = .ok (body.merge (.object [("status", patch)])) ∧
        Did s patched.2 [.report name patch] ∧
        patched.2.find? .network "" name = some (body.merge (.object [("status", patch)])) := by
  intro patched
  rcases merge_cases (.report name patch) (fun _ _ => rfl) (Prod.eta patched).symm with
    ⟨e, -, herror, hdid⟩ | ⟨-, hanswer, hdid⟩
  · exact Or.inl ⟨e, herror, hdid⟩
  · refine Or.inr ⟨hanswer body hfind, hdid, ?_⟩
    exact (find?_congr hdid.objects).trans
      (find?_mergeInto_self (s := { objects := s.objects }) hfind _)

/-- A patch of the status of a network that reads is good, and then the new status is laid over the
old one; or it fails, and the network is as before. -/
theorem network?_patchStatus {new : RolloutStatus} (hn : s.network? name = some n)
    (hgeneration : i64? (.int new.observedGeneration) = some new.observedGeneration)
    (faults : Faults) :
    let patched := s.patchStatus faults .network name (Reconcile.statusPatch new)
    (∃ answer, patched.1 = .ok answer) ∧ (∃ old, (old = n.status.getD {} ∨ old = {}) ∧
        patched.2.network? name = some { n with status := some (new.laidOver old) }) ∨
      (∃ e, patched.1 = .error e) ∧ patched.2.network? name = some n := by
  intro patched
  obtain ⟨body, hfind, hread⟩ := network?_eq_some hn
  rcases patchStatus_cases hfind new.toJson faults with
    ⟨e, herror, hdid⟩ | ⟨hok, -, hstored⟩
  · exact Or.inr ⟨⟨e, herror⟩, (network?_congr (find?_congr hdid.objects)).trans hn⟩
  · obtain ⟨old, hold, hpatched⟩ := NetworkObject.ofJson?_statusPatch hread hgeneration
    refine Or.inl ⟨⟨_, hok⟩, old, hold, ?_⟩
    rw [← hpatched]
    exact network?_of_find? hstored

end Server

end NetworkRollout
