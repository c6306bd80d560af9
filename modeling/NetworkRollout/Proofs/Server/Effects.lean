import NetworkRollout.Server.Cluster
import NetworkRollout.Proofs.Server.Storing

/-!
# Effects on the server

A request that succeeds has one effect: it annotates the network, replaces its status, applies an
object or publishes an event. An effect concerns at most one object, and none is ever removed. So
what is known of an object survives all effects that do not concern it.

* `Server.find?_store_self`, `find?_store_of_ne`: look-ups after an object is stored.
* `Server.distinct_find?`: what is found gives no name twice.
* `Effect`, `Effect.on`, `Effect.write`: an effect, the objects after it, and how it is logged.
* `Server.Did`: the effects that lead from one server to another.
* `Server.Did.find?_eq`, `Did.annotation_eq`: what effects leave alone.
-/

namespace NetworkRollout

variable {kind : Kind} {namespaceName name : String}

namespace StoredObject

variable {o : StoredObject} {objects : List StoredObject}

theorem isAt_iff : o.isAt kind namespaceName name = true ↔
    (o.kind, o.namespaceName, o.name) = (kind, namespaceName, name) := by
  simp [isAt, and_assoc]

theorem isAt_self (o : StoredObject) : o.isAt o.kind o.namespaceName o.name = true :=
  isAt_iff.mpr rfl

theorem isAt_of_ne (h : (o.kind, o.namespaceName, o.name) ≠ (kind, namespaceName, name)) :
    o.isAt kind namespaceName name = false :=
  Bool.eq_false_iff.mpr fun hat => h (isAt_iff.mp hat)

/-- The first object in the place of `o` becomes `o` itself. -/
theorem find?_replace_self (h : objects.any (·.isAt o.kind o.namespaceName o.name) = true) :
    (objects.map fun p => if p.isAt o.kind o.namespaceName o.name then o else p).find?
      (·.isAt o.kind o.namespaceName o.name) = some o := by
  induction objects with
  | nil => cases h
  | cons q rest ih =>
    rw [List.map_cons, List.find?_cons]
    cases hq : q.isAt o.kind o.namespaceName o.name with
    | true => rw [if_pos rfl, isAt_self]
    | false =>
      rw [List.any_cons, hq, Bool.false_or] at h
      rw [if_neg Bool.false_ne_true, hq]
      exact ih h

theorem find?_replace_of_ne
    (h : (o.kind, o.namespaceName, o.name) ≠ (kind, namespaceName, name)) :
    (objects.map fun p => if p.isAt o.kind o.namespaceName o.name then o else p).find?
      (·.isAt kind namespaceName name) = objects.find? (·.isAt kind namespaceName name) := by
  induction objects with
  | nil => rfl
  | cons q rest ih =>
    rw [List.map_cons, List.find?_cons, List.find?_cons]
    cases hq : q.isAt o.kind o.namespaceName o.name with
    | true =>
      -- what is replaced is elsewhere, too
      have hother : q.isAt kind namespaceName name = false :=
        isAt_of_ne fun hat => h ((isAt_iff.mp hq).symm.trans hat)
      rw [if_pos rfl, isAt_of_ne h, hother]
      exact ih
    | false =>
      rw [if_neg Bool.false_ne_true]
      cases q.isAt kind namespaceName name with
      | true => rfl
      | false => exact ih

end StoredObject

namespace Server

variable {s : Server} {o : StoredObject}

/-! ## Look-ups -/

/-- Only the stored objects count in a look-up. -/
theorem find?_congr {t : Server} (h : s.objects = t.objects) :
    s.find? kind namespaceName name = t.find? kind namespaceName name := by
  unfold find?
  rw [h]

theorem distinct_find? {body : Json} (h : s.find? kind namespaceName name = some body) :
    body.Distinct := by
  obtain ⟨o, -, rfl⟩ := Option.map_eq_some_iff.mp h
  exact Json.distinct_dedup o.body

theorem find?_store_self (s : Server) (o : StoredObject) :
    (s.store o).find? o.kind o.namespaceName o.name = some o.content := by
  unfold find? store
  by_cases hany : s.objects.any (·.isAt o.kind o.namespaceName o.name) = true
  · rw [if_pos hany]
    dsimp only
    rw [StoredObject.find?_replace_self hany]
    rfl
  · rw [if_neg hany]
    dsimp only
    have hnone : s.objects.find? (·.isAt o.kind o.namespaceName o.name) = none :=
      List.find?_eq_none.mpr fun p hp hat => hany (List.any_eq_true.mpr ⟨p, hp, hat⟩)
    rw [List.find?_append, hnone, Option.none_or, List.find?_cons, o.isAt_self]
    rfl

/-- What gives no name twice is found as it was stored. -/
theorem find?_store_of_distinct (s : Server) {body : Json} (h : body.Distinct) :
    (s.store ⟨kind, namespaceName, name, body⟩).find? kind namespaceName name = some body :=
  (find?_store_self s ⟨kind, namespaceName, name, body⟩).trans (congrArg some h.dedup_eq)

theorem find?_store_of_ne
    (h : (o.kind, o.namespaceName, o.name) ≠ (kind, namespaceName, name)) :
    (s.store o).find? kind namespaceName name = s.find? kind namespaceName name := by
  unfold find? store
  split
  case isTrue =>
    dsimp only
    rw [StoredObject.find?_replace_of_ne h]
  case isFalse =>
    dsimp only
    rw [List.find?_append, List.find?_cons, StoredObject.isAt_of_ne h, List.find?_nil,
      Option.or_none]

/-- Storing an object removes none. -/
theorem isSome_find?_store (h : (s.find? kind namespaceName name).isSome) :
    ((s.store o).find? kind namespaceName name).isSome := by
  by_cases hat : (o.kind, o.namespaceName, o.name) = (kind, namespaceName, name)
  · injection hat with hkind hat
    injection hat with hnamespace hname
    rw [← hkind, ← hnamespace, ← hname, find?_store_self]
    rfl
  · rw [find?_store_of_ne hat]
    exact h

theorem objects_store_congr {t : Server} (h : s.objects = t.objects) (o : StoredObject) :
    (s.store o).objects = (t.store o).objects := by
  unfold store
  rw [h]
  split <;> rfl

theorem writes_store (s : Server) (o : StoredObject) : (s.store o).writes = s.writes := by
  unfold store
  split <;> rfl

theorem serving_store (s : Server) (o : StoredObject) : (s.store o).serving = s.serving := by
  unfold store
  split <;> rfl

theorem requests_store (s : Server) (o : StoredObject) : (s.store o).requests = s.requests := by
  unfold store
  split <;> rfl

/-- A merge stores the merged object if there is one to merge into. -/
theorem mergeInto_eq (kind : Kind) (name : String) (patch : Json) (s : Server) :
    (mergeInto kind name patch s).2 =
      match s.find? kind "" name with
      | some body => s.store ⟨kind, "", name, body.merge patch⟩
      | none => s := by
  unfold mergeInto
  cases s.find? kind "" name <;> rfl

theorem mergeInto_fst (kind : Kind) (name : String) (patch : Json) (s : Server) :
    (mergeInto kind name patch s).1 =
      match s.find? kind "" name with
      | some body => .ok (body.merge patch)
      | none => .error .notFound := by
  unfold mergeInto
  cases s.find? kind "" name <;> rfl

theorem objects_mergeInto_congr {t : Server} (h : s.objects = t.objects) (kind : Kind)
    (name : String) (patch : Json) :
    (mergeInto kind name patch s).2.objects = (mergeInto kind name patch t).2.objects := by
  rw [mergeInto_eq, mergeInto_eq, find?_congr h]
  cases t.find? kind "" name with
  | none => exact h
  | some body => exact objects_store_congr h _

theorem writes_mergeInto (kind : Kind) (name : String) (patch : Json) (s : Server) :
    (mergeInto kind name patch s).2.writes = s.writes := by
  rw [mergeInto_eq]
  cases s.find? kind "" name with
  | none => rfl
  | some body => exact writes_store s _

theorem serving_mergeInto (kind : Kind) (name : String) (patch : Json) (s : Server) :
    (mergeInto kind name patch s).2.serving = s.serving := by
  rw [mergeInto_eq]
  cases s.find? kind "" name with
  | none => rfl
  | some body => exact serving_store s _

theorem requests_mergeInto (kind : Kind) (name : String) (patch : Json) (s : Server) :
    (mergeInto kind name patch s).2.requests = s.requests := by
  rw [mergeInto_eq]
  cases s.find? kind "" name with
  | none => rfl
  | some body => exact requests_store s _

theorem find?_mergeInto_self {body : Json} (h : s.find? kind "" name = some body) (patch : Json) :
    (mergeInto kind name patch s).2.find? kind "" name = some (body.merge patch) := by
  rw [mergeInto_eq, h]
  exact find?_store_of_distinct s ((distinct_find? h).merge patch)

/-- What a merge does not change about a body stays known of the stored object. -/
theorem bind_find?_mergeInto {α : Type} {known : Json → Option α} {patch : Json}
    (h : ∀ body : Json, known (body.merge patch) = known body) :
    ((mergeInto kind name patch s).2.find? kind "" name).bind known =
      (s.find? kind "" name).bind known := by
  cases hfind : s.find? kind "" name with
  | none => rw [mergeInto_eq, hfind, hfind]
  | some body =>
    rw [find?_mergeInto_self hfind]
    exact h body

theorem find?_mergeInto_of_ne {kind' : Kind} {name' : String} (patch : Json)
    (h : (kind', "", name') ≠ (kind, namespaceName, name)) :
    (mergeInto kind' name' patch s).2.find? kind namespaceName name =
      s.find? kind namespaceName name := by
  rw [mergeInto_eq]
  cases s.find? kind' "" name' with
  | none => rfl
  | some body => exact find?_store_of_ne h

theorem isSome_find?_mergeInto {kind' : Kind} {name' : String} {patch : Json}
    (h : (s.find? kind namespaceName name).isSome) :
    ((mergeInto kind' name' patch s).2.find? kind namespaceName name).isSome := by
  rw [mergeInto_eq]
  cases s.find? kind' "" name' with
  | none => exact h
  | some body => exact isSome_find?_store h

/-! ## Annotations of the network -/

/-- An annotation in the body of an object. -/
def annotationIn (key : String) (body : Json) : Option Json :=
  Members.get? (body.path ["metadata", "annotations"]).members key

/-- What stands under a key among the annotations of the network. -/
def annotation (s : Server) (network key : String) : Option Json :=
  (s.find? .network "" network).bind (annotationIn key)

theorem annotation_congr {t : Server} {network key : String} (h : s.objects = t.objects) :
    s.annotation network key = t.annotation network key := by
  unfold annotation
  rw [find?_congr h]

theorem annotationIn_merge_annotationPatch_self (key value : String) (body : Json) :
    annotationIn key (body.merge (annotationPatch key value)) = some (.text value) := by
  unfold annotationIn annotationPatch Json.path
  simp only [List.foldl_cons, List.foldl_nil]
  rw [Json.field_merge_self rfl, Json.field_merge_self rfl, Json.get?_merge_self rfl]
  rfl

theorem annotationIn_merge_annotationPatch_of_ne {key other : String} (h : other ≠ key)
    (value : String) (body : Json) :
    annotationIn other (body.merge (annotationPatch key value)) = annotationIn other body := by
  unfold annotationIn annotationPatch Json.path
  simp only [List.foldl_cons, List.foldl_nil]
  rw [Json.field_merge_self rfl, Json.field_merge_self rfl, Json.get?_merge_of_ne h]

theorem annotationIn_merge_status (status : Json) (key : String) (body : Json) :
    annotationIn key (body.merge (.object [("status", status)])) = annotationIn key body := by
  unfold annotationIn Json.path
  simp only [List.foldl_cons, List.foldl_nil]
  rw [Json.field_merge_of_ne (by decide)]

end Server

/-! ## Effects -/

/-- What a successful request does. -/
inductive Effect where
  | annotate (network key value : String)
  | report (network : String) (status : Json)
  | apply (kind : Kind) (namespaceName name : String) (object : Json)
  | publish (event : Event)

namespace Effect

/-- The kind, namespace and name of the object that an effect changes or creates. -/
def target : Effect → Option (Kind × String × String)
  | annotate network _ _ => some (.network, "", network)
  | report network _ => some (.network, "", network)
  | apply kind namespaceName name _ => some (kind, namespaceName, name)
  | publish _ => none

/-- Whether an effect may change an annotation of the network. Applying the network itself does when
it gives that annotation, or when it takes the place of the stored one. -/
def Touches (storing : Storing) (network key : String) : Effect → Prop
  | annotate other k _ => other = network ∧ k = key
  | report _ _ => False
  | apply kind namespaceName name object => (kind, namespaceName, name) = (.network, "", network) ∧
    (storing = .merges → ¬ Storing.LeavesAnnotation key object)
  | publish _ => False

/-- The entry of an effect in the log of writes. -/
def write : Effect → Write
  | annotate network key value =>
    .patch Kind.network.plural network (Server.annotationPatch key value)
  | report network status =>
    .patchStatus Kind.network.plural network (.object [("status", status)])
  | apply kind namespaceName name object => .apply kind.plural namespaceName name object
  | publish event => .event event

/-- The objects after an effect. -/
def on (storing : Storing) (objects : List StoredObject) : Effect → List StoredObject
  | annotate network key value =>
    (Server.mergeInto .network network (Server.annotationPatch key value) { objects }).2.objects
  | report network status =>
    (Server.mergeInto .network network (.object [("status", status)]) { objects }).2.objects
  | apply kind namespaceName name object =>
    let s : Server := { objects }
    let body := storing.settle (s.find? kind namespaceName name) object
    (s.store ⟨kind, namespaceName, name, body⟩).objects
  | publish _ => objects

variable {storing : Storing} {objects : List StoredObject} {effect : Effect} {network key : String}

theorem find?_on (h : effect.target ≠ some (kind, namespaceName, name)) :
    Server.find? { objects := on storing objects effect } kind namespaceName name =
      Server.find? { objects } kind namespaceName name := by
  cases effect with
  | annotate network k value =>
    exact Server.find?_mergeInto_of_ne _ fun hat => h (congrArg some hat)
  | report network status =>
    exact Server.find?_mergeInto_of_ne _ fun hat => h (congrArg some hat)
  | apply kind' namespaceName' name' object =>
    exact Server.find?_store_of_ne fun hat => h (congrArg some hat)
  | publish event => rfl

theorem isSome_find?_on (h : (Server.find? { objects } kind namespaceName name).isSome) :
    (Server.find? { objects := on storing objects effect } kind namespaceName name).isSome := by
  cases effect with
  | annotate network k value => exact Server.isSome_find?_mergeInto h
  | report network status => exact Server.isSome_find?_mergeInto h
  | apply kind' namespaceName' name' object => exact Server.isSome_find?_store h
  | publish event => exact h

/-- An applied object is settled with the stored one. -/
theorem find?_on_apply (storing : Storing) (objects : List StoredObject) (kind : Kind)
    (namespaceName name : String) (object : Json) :
    Server.find? { objects := on storing objects (.apply kind namespaceName name object) } kind
        namespaceName name =
      some (storing.settle (Server.find? { objects } kind namespaceName name) object) := by
  refine (Server.find?_congr rfl).trans (Server.find?_store_of_distinct { objects } ?_)
  exact storing.distinct_settle (fun _ hstored => Server.distinct_find? hstored) object

/-- An annotation that the network is not applied with stays when it is merged. -/
theorem annotation_on_apply {object : Json} (h : Storing.LeavesAnnotation key object) :
    Server.annotation { objects := on .merges objects (.apply .network "" network object) } network
        key = Server.annotation { objects } network key := by
  unfold Server.annotation
  rw [find?_on_apply]
  refine (Storing.get?_merges_annotation h _).trans ?_
  cases Server.find? { objects } .network "" network <;> rfl

theorem annotation_on (h : ¬ effect.Touches storing network key) :
    Server.annotation { objects := on storing objects effect } network key =
      Server.annotation { objects } network key := by
  unfold Server.annotation
  by_cases htarget : effect.target = some (.network, "", network)
  · cases effect with
    | annotate other k value =>
      cases htarget
      have hne : key ≠ k := fun hk => h ⟨rfl, hk.symm⟩
      exact Server.bind_find?_mergeInto fun body =>
        Server.annotationIn_merge_annotationPatch_of_ne hne value body
    | report other status =>
      cases htarget
      exact Server.bind_find?_mergeInto fun body =>
        Server.annotationIn_merge_status status key body
    | apply kind' namespaceName' name' object =>
      cases htarget
      -- only a server that merges leaves any annotation
      obtain ⟨rfl, hleaves⟩ : storing = .merges ∧ Storing.LeavesAnnotation key object := by
        by_contra hno
        exact h ⟨rfl, fun hmerges hleaves => hno ⟨hmerges, hleaves⟩⟩
      exact annotation_on_apply hleaves
    | publish event => cases htarget
  · rw [find?_on htarget]

end Effect

/-! ## What leads from one server to another -/

namespace Server

variable {s s' s'' : Server} {effects : List Effect} {network key : String}

/-- The second server is the first one after the effects, in their order; the requests that had
them may not be the only ones. -/
structure Did (s s' : Server) (effects : List Effect) : Prop where
  objects : s'.objects = effects.foldl (Effect.on s.serving.storing) s.objects
  writes : s'.writes = s.writes ++ effects.map Effect.write
  serving : s'.serving = s.serving

namespace Did

theorem refl (s : Server) : Did s s [] := ⟨rfl, (List.append_nil _).symm, rfl⟩

theorem trans {later : List Effect} (h : Did s s' effects) (hlater : Did s' s'' later) :
    Did s s'' (effects ++ later) where
  objects := by rw [hlater.objects, h.objects, h.serving, List.foldl_append]
  writes := by rw [hlater.writes, h.writes, List.map_append, List.append_assoc]
  serving := hlater.serving.trans h.serving

/-- The server between the first effect and the others. -/
theorem split {effect : Effect} (h : Did s s' (effect :: effects)) :
    ∃ next, Did s next [effect] ∧ Did next s' effects := by
  refine ⟨{ s with
    objects := effect.on s.serving.storing s.objects, writes := s.writes ++ [effect.write] },
    ⟨rfl, rfl, rfl⟩, h.objects, ?_, h.serving⟩
  rw [h.writes, List.map_cons, List.append_assoc]
  rfl

/-- What holds of the objects and is kept by each effect holds afterwards. -/
theorem keeps {motive : Server → Prop} (h : Did s s' effects)
    (hcongr : ∀ a b : Server, a.objects = b.objects → motive a → motive b) (hstart : motive s)
    (hkeep : ∀ effect ∈ effects, ∀ objects, motive { objects } →
      motive { objects := effect.on s.serving.storing objects }) : motive s' := by
  refine hcongr { objects := effects.foldl (Effect.on s.serving.storing) s.objects } s'
    h.objects.symm ?_
  refine List.foldlRecOn (motive := fun objects => motive { objects }) effects _
    (hcongr s _ rfl hstart) ?_
  intro objects hobjects effect hmem
  exact hkeep effect hmem objects hobjects

theorem find?_eq (h : Did s s' effects)
    (hother : ∀ effect ∈ effects, effect.target ≠ some (kind, namespaceName, name)) :
    s'.find? kind namespaceName name = s.find? kind namespaceName name := by
  refine h.keeps (motive := fun t =>
    t.find? kind namespaceName name = s.find? kind namespaceName name) ?_ rfl ?_
  · exact fun a b hobjects ha => (find?_congr hobjects.symm).trans ha
  · exact fun effect hmem objects hkept => (Effect.find?_on (hother effect hmem)).trans hkept

theorem isSome_find? (h : Did s s' effects)
    (hsome : (s.find? kind namespaceName name).isSome) :
    (s'.find? kind namespaceName name).isSome := by
  refine h.keeps (motive := fun t => (t.find? kind namespaceName name).isSome) ?_ hsome ?_
  · exact fun a b hobjects ha => (find?_congr hobjects) ▸ ha
  · exact fun effect _ objects hkept => Effect.isSome_find?_on hkept

theorem annotation_eq (h : Did s s' effects)
    (hother : ∀ effect ∈ effects, ¬ effect.Touches s.serving.storing network key) :
    s'.annotation network key = s.annotation network key := by
  refine h.keeps (motive := fun t => t.annotation network key = s.annotation network key) ?_ rfl ?_
  · exact fun a b hobjects ha => (annotation_congr hobjects.symm).trans ha
  · exact fun effect hmem objects hkept => (Effect.annotation_on (hother effect hmem)).trans hkept

/-- An annotation is merged into the network. -/
theorem find?_annotate {value : String} {body : Json}
    (h : Did s s' [.annotate network key value])
    (hfind : s.find? .network "" network = some body) :
    s'.find? .network "" network = some (body.merge (annotationPatch key value)) := by
  exact (find?_congr h.objects).trans (find?_mergeInto_self (s := { objects := s.objects }) hfind _)

/-- An object is settled with the stored one when it is applied. -/
theorem find?_apply {object : Json} (h : Did s s' [.apply kind namespaceName name object]) :
    s'.find? kind namespaceName name =
      some (s.serving.storing.settle (s.find? kind namespaceName name) object) :=
  (find?_congr h.objects).trans (Effect.find?_on_apply _ _ _ _ _ _)

/-- An annotation of a network that exists. -/
theorem annotation_annotate {value : String} (h : Did s s' [.annotate network key value])
    (hsome : (s.find? .network "" network).isSome) :
    s'.annotation network key = some (.text value) := by
  obtain ⟨body, hbody⟩ := Option.isSome_iff_exists.mp hsome
  unfold annotation
  rw [h.find?_annotate hbody]
  exact annotationIn_merge_annotationPatch_self key value body

end Did

end Server

end NetworkRollout
