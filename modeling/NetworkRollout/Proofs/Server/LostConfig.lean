import NetworkRollout.Proofs.Server.Faults
import NetworkRollout.Proofs.Server.Questions

/-!
# A config map that is not there

Two servers that differ by one config map at most, in two runs: the first one cannot read it, and
in the other it does not exist. Every other request is answered alike, and leaves the servers as
different as they were.

* `Server.without`, `Server.SameWithout`: servers that differ by a config map.
* `Server.Tracks`, `Server.Lacks`: relations that requests keep.
* `Server.Tracks.shadowed_serve`: a request beside the other; then the questions of a pass.
* `Server.shadowed_optional`: reading the config map itself.
-/

namespace NetworkRollout

variable {α β ε : Type}

/-! ## Servers without a config map -/

/-- A config map that is there in one run only. -/
structure LostConfig where
  namespaceName : String
  name : String

/-- The faults but for those of reading the config map. -/
def Faults.without (faults : Faults) (c : LostConfig) : Faults :=
  fun i r => if r = .readConfig c.name then none else faults i r

theorem Faults.without_of_ne {faults : Faults} {c : LostConfig} {r : Request}
    (h : r ≠ .readConfig c.name) (i : Nat) : faults.without c i r = faults i r := if_neg h

namespace StoredObject

variable {c : LostConfig} {o : StoredObject}

/-- Whether this is the config map. -/
def isLost (c : LostConfig) (o : StoredObject) : Bool :=
  o.isAt .configMap c.namespaceName c.name

theorem isLost_congr {p : StoredObject} (h : p.isAt o.kind o.namespaceName o.name = true) :
    p.isLost c = o.isLost c := by
  have hplace := isAt_iff.mp h
  rw [Bool.eq_iff_iff, isLost, isLost, isAt_iff, isAt_iff, hplace]

theorem isLost_of_plural (h : o.kind.plural ≠ Kind.configMap.plural) : o.isLost c = false :=
  isAt_of_ne fun hat => h (congrArg (·.1.plural) hat)

/-- Objects without the config map. -/
def without (objects : List StoredObject) (c : LostConfig) : List StoredObject :=
  objects.filter (!·.isLost c)

/-- What is looked for in other places does not depend on the config map. -/
theorem filter_without {p : StoredObject → Bool} (h : ∀ o, p o = true → o.isLost c = false)
    (objects : List StoredObject) : (without objects c).filter p = objects.filter p := by
  unfold without
  rw [List.filter_filter]
  refine List.filter_congr fun o _ => ?_
  cases hp : p o with
  | false => rfl
  | true => rw [h o hp]; rfl

/-- Puts an object into its place. -/
def put (o : StoredObject) (objects : List StoredObject) : List StoredObject :=
  if objects.any (·.isAt o.kind o.namespaceName o.name) then
    objects.map fun p => if p.isAt o.kind o.namespaceName o.name then o else p
  else objects ++ [o]

theorem without_replaced (c : LostConfig) (o : StoredObject) (objects : List StoredObject) :
    without (objects.map fun p => if p.isAt o.kind o.namespaceName o.name then o else p) c =
      (without objects c).map fun p => if p.isAt o.kind o.namespaceName o.name then o else p := by
  unfold without
  rw [List.filter_map]
  refine congrArg _ (List.filter_congr fun p _ => ?_)
  simp only [Function.comp]
  split
  case isTrue hat => rw [isLost_congr hat]
  case isFalse => rfl

/-- Putting another object into its place, and losing the config map. -/
theorem without_put_of_not_lost (h : o.isLost c = false) (objects : List StoredObject) :
    without (put o objects) c = put o (without objects c) := by
  have hany : (without objects c).any (·.isAt o.kind o.namespaceName o.name) =
      objects.any (·.isAt o.kind o.namespaceName o.name) := by
    rw [Bool.eq_iff_iff, List.any_eq_true, List.any_eq_true]
    constructor
    · rintro ⟨p, hp, hat⟩
      exact ⟨p, (List.mem_filter.mp hp).1, hat⟩
    · rintro ⟨p, hp, hat⟩
      exact ⟨p, List.mem_filter.mpr ⟨hp, by rw [isLost_congr hat, h]; rfl⟩, hat⟩
  unfold put
  rw [hany]
  split
  case isTrue => exact without_replaced c o objects
  case isFalse =>
    unfold without
    rw [List.filter_append, List.filter_cons_of_pos (by rw [h]; rfl), List.filter_nil]

/-- Putting the config map into its place, and losing it. -/
theorem without_put_of_lost (h : o.isLost c = true) (objects : List StoredObject) :
    without (put o objects) c = without objects c := by
  unfold put
  split
  case isTrue =>
    rw [without_replaced]
    refine (List.map_congr_left fun p hp => ?_).trans (List.map_id _)
    have hkept := (List.mem_filter.mp hp).2
    rw [if_neg]
    · rfl
    · intro hat
      rw [isLost_congr hat, h] at hkept
      cases hkept
  case isFalse =>
    unfold without
    rw [List.filter_append, List.filter_cons_of_neg (by rw [h]; decide), List.filter_nil,
      List.append_nil]

/-- Objects that agree but for the config map agree so after one is put into its place. -/
theorem without_put_congr {objects objects' : List StoredObject}
    (h : without objects c = without objects' c) (o : StoredObject) :
    without (put o objects) c = without (put o objects') c := by
  cases ho : o.isLost c with
  | true => rw [without_put_of_lost ho, without_put_of_lost ho, h]
  | false => rw [without_put_of_not_lost ho, without_put_of_not_lost ho, h]

end StoredObject

namespace Server

variable {s t : Server} {c : LostConfig} {o : StoredObject}

/-- The server without the config map. -/
def without (s : Server) (c : LostConfig) : Server :=
  s.remove .configMap c.namespaceName c.name

/-- The servers differ by the config map at most. -/
structure SameWithout (c : LostConfig) (s t : Server) : Prop where
  objects : StoredObject.without s.objects c = StoredObject.without t.objects c
  writes : s.writes = t.writes
  requests : s.requests = t.requests
  serving : s.serving = t.serving

theorem store_eq (s : Server) (o : StoredObject) :
    s.store o = { s with objects := o.put s.objects } := by
  unfold store StoredObject.put
  split <;> rfl

theorem SameWithout.filter_eq (h : SameWithout c s t) {p : StoredObject → Bool}
    (hlost : ∀ o, p o = true → o.isLost c = false) : t.objects.filter p = s.objects.filter p := by
  rw [← StoredObject.filter_without hlost s.objects, ← StoredObject.filter_without hlost t.objects,
    h.objects]

/-- What is stored elsewhere is found in both. -/
theorem SameWithout.find?_eq (h : SameWithout c s t) {kind : Kind} {namespaceName name : String}
    (hother : (kind, namespaceName, name) ≠ (.configMap, c.namespaceName, c.name)) :
    t.find? kind namespaceName name = s.find? kind namespaceName name := by
  unfold find?
  rw [← List.head?_filter, ← List.head?_filter, h.filter_eq]
  intro o hat
  refine StoredObject.isAt_of_ne fun hlost => hother ?_
  exact (StoredObject.isAt_iff.mp hat).symm.trans hlost

/-- Two runs on servers that differ by the config map at most, with the changes that a request can
make to them. -/
structure Tracks (c : LostConfig) (R : Server → Server → Prop) : Prop where
  exists_rel : ∀ s, ∃ t, R s t
  same : ∀ {s t}, R s t → SameWithout c s t
  received : ∀ {s t}, R s t → ∀ r,
    R { s with requests := s.requests ++ [r] } { t with requests := t.requests ++ [r] }
  logged : ∀ {s t}, R s t → ∀ w, R (s.log w) (t.log w)
  stored : ∀ {s t}, R s t → ∀ o : StoredObject, o.isLost c = false → R (s.store o) (t.store o)

theorem SameWithout.stored (h : SameWithout c s t) (o : StoredObject) :
    SameWithout c (s.store o) (t.store o) := by
  rw [store_eq, store_eq]
  exact ⟨StoredObject.without_put_congr h.objects o, h.writes, h.requests, h.serving⟩

theorem tracks_sameWithout (c : LostConfig) : Tracks c (SameWithout c) where
  exists_rel s := ⟨s, rfl, rfl, rfl, rfl⟩
  same := id
  received h r := ⟨h.objects, h.writes, congrArg (· ++ [r]) h.requests, h.serving⟩
  logged h w := ⟨h.objects, congrArg (· ++ [w]) h.writes, h.requests, h.serving⟩
  stored h o _ := h.stored o

/-- The second server is the first one without the config map. -/
structure Lacks (c : LostConfig) (s t : Server) : Prop where
  same : SameWithout c s t
  missing : t.find? .configMap c.namespaceName c.name = none

theorem lacks_without (s : Server) (c : LostConfig) : Lacks c s (s.without c) := by
  refine ⟨⟨?_, rfl, rfl, rfl⟩, ?_⟩
  · unfold StoredObject.without without remove
    simp only [List.filter_filter, StoredObject.isLost, Bool.and_self]
  · unfold find?
    rw [Option.map_eq_none_iff, List.find?_eq_none]
    intro o ho hat
    have hkept := (List.mem_filter.mp ho).2
    rw [hat] at hkept
    cases hkept

theorem tracks_lacks (c : LostConfig) : Tracks c (Lacks c) where
  exists_rel s := ⟨s.without c, lacks_without s c⟩
  same := Lacks.same
  received h r := ⟨(tracks_sameWithout c).received h.same r, h.missing⟩
  logged h w := ⟨(tracks_sameWithout c).logged h.same w, h.missing⟩
  stored h o ho := by
    refine ⟨h.same.stored o, ?_⟩
    rw [find?_store_of_ne]
    · exact h.missing
    · intro hat
      rw [StoredObject.isLost, StoredObject.isAt_iff.mpr hat] at ho
      cases ho

end Server

/-! ## Requests beside each other -/

namespace Server

theorem tells_failed (what : String) (e : ApiError) : (failed what e).Tells := rfl

theorem tells_unreadable (what : String) : (unreadable what).Tells := rfl

namespace Tracks

variable {c : LostConfig} {R : Server → Server → Prop} {s t : Server} (faults : Faults)

/-- The two runs on servers that are tracked. -/
def shadowing (h : Tracks c R) : Shadowing Server where
  faults := faults
  lost := .readConfig c.name
  log := requests
  Rel := R
  exists_rel := h.exists_rel

variable {faults} in
/-- Another request than that for the config map is answered in both runs alike. -/
theorem same_of_other {Tells : ε → Prop} (h : Tracks c R) {p p' : Except ε α × Server}
    (hp : Shadowed (h.shadowing faults) Tells s p p') {r : Request}
    (hlog : p.2.requests = s.requests ++ [r]) (hr : r ≠ .readConfig c.name) :
    p'.1 = p.1 ∧ R p.2 p'.2 := by
  refine hp.same ?_
  change faults.Denies _ s.requests p.2.requests
  rw [hlog]
  exact Faults.denies_append_singleton hr

/-- A request beside the other. -/
theorem shadowed_serve (h : Tracks c R) (hst : R s t) {r : Request} {answer : Call α}
    (hr : r ≠ .readConfig c.name) (hrequests : ∀ s, (answer s).2.requests = s.requests)
    (hanswer : ∀ s t, R s t → (answer t).1 = (answer s).1 ∧ R (answer s).2 (answer t).2) :
    Shadowed (h.shadowing faults) ApiError.Tells s (serve faults r answer s)
      (serve (faults.without c) r answer t) := by
  have hlog : (serve faults r answer s).2.requests = s.requests ++ [r] :=
    requests_serve hrequests r s
  refine ⟨?_, ?_, ?_⟩
  · change s.requests <+: (serve faults r answer s).2.requests
    rw [hlog]
    exact List.prefix_append _ _
  · intro hhit
    change faults.Hit s.requests (serve faults r answer s).2.requests at hhit
    rw [hlog, Faults.hit_append_singleton] at hhit
    obtain ⟨e, hfault, hcode, -⟩ := hhit
    refine ⟨e, ?_, hcode⟩
    unfold serve
    dsimp only
    rw [hfault]
  · intro _
    unfold serve
    rw [(h.same hst).requests, Faults.without_of_ne hr]
    dsimp only
    cases faults t.requests.length r with
    | some e => exact ⟨rfl, (h.same hst).requests ▸ h.received hst r⟩
    | none => exact hanswer _ _ ((h.same hst).requests ▸ h.received hst r)

/-- An object that is not the config map is read in the same way. -/
theorem shadowed_get (h : Tracks c R) (hst : R s t) (kind : Kind) (namespaceName name : String)
    (hother : kind.plural ≠ Kind.configMap.plural ∨ name ≠ c.name) :
    Shadowed (h.shadowing faults) ApiError.Tells s (get faults kind namespaceName name s)
      (get (faults.without c) kind namespaceName name t) := by
  have hrequest : (⟨.get, kind.plural, name⟩ : Request) ≠ .readConfig c.name := by
    intro heq
    injection heq with _ hplural hname
    exact hother.elim (absurd hplural) (absurd hname)
  have hplace : (kind, namespaceName, name) ≠ (.configMap, c.namespaceName, c.name) := by
    intro heq
    injection heq with hkind heq
    injection heq with _ hname
    exact hother.elim (absurd (congrArg Kind.plural hkind)) (absurd hname)
  refine h.shadowed_serve faults hst hrequest ?_ ?_
  · intro s
    cases s.find? kind namespaceName name <;> rfl
  · intro s t hst
    rw [(h.same hst).find?_eq hplace]
    cases s.find? kind namespaceName name with
    | none => exact ⟨rfl, hst⟩
    | some body => exact ⟨rfl, hst⟩

theorem shadowed_readIfExists (h : Tracks c R) (hst : R s t) (kind : Kind)
    (namespaceName name what : String) (read : Json → Option α)
    (hother : kind.plural ≠ Kind.configMap.plural ∨ name ≠ c.name) :
    Shadowed (h.shadowing faults) Failure.Tells s
      (readIfExists faults kind namespaceName name what read s)
      (readIfExists (faults.without c) kind namespaceName name what read t) := by
  rw [readIfExists_eq, readIfExists_eq]
  exact (h.shadowed_get faults hst kind namespaceName name hother).map (readAnswer what read)
    fun e he => ⟨failed what e, if_neg he, tells_failed what e⟩

theorem shadowed_infrastructure (h : Tracks c R) (hst : R s t) :
    Shadowed (h.shadowing faults) Failure.Tells s (infrastructure faults s)
      (infrastructure (faults.without c) t) := by
  have hread := h.shadowed_readIfExists faults hst .infrastructure "" "cluster"
    "Failed to get Infrastructure" (fun body => some (Infrastructure.ofObject body))
    (Or.inl (by decide))
  exact hread.map (Except.map fun found => found.getD {}) fun e he => ⟨e, rfl, he⟩

theorem shadowed_configMap (h : Tracks c R) (hst : R s t) (namespaceName : String) {name : String}
    (hother : name ≠ c.name) :
    Shadowed (h.shadowing faults) Failure.Tells s (configMap faults namespaceName name s)
      (configMap (faults.without c) namespaceName name t) :=
  h.shadowed_readIfExists faults hst _ _ _ _ _ (Or.inr hother)

theorem shadowed_workload (h : Tracks c R) (hst : R s t) (namespaceName name : String) :
    Shadowed (h.shadowing faults) Failure.Tells s (workload faults namespaceName name s)
      (workload (faults.without c) namespaceName name t) :=
  h.shadowed_readIfExists faults hst _ _ _ _ _ (Or.inl (by decide))

theorem shadowed_controlPlaneNodes (h : Tracks c R) (hst : R s t) :
    Shadowed (h.shadowing faults) Failure.Tells s (controlPlaneNodes faults s)
      (controlPlaneNodes (faults.without c) t) := by
  have hlist : Shadowed (h.shadowing faults) ApiError.Tells s
      (list faults .node Names.controlPlaneLabel s)
      (list (faults.without c) .node Names.controlPlaneLabel t) := by
    refine h.shadowed_serve faults hst (fun heq => ?_) (fun s => rfl) fun s t hst => ⟨?_, hst⟩
    · injection heq with hverb
      cases hverb
    dsimp only
    rw [(h.same hst).filter_eq]
    intro o ho
    refine StoredObject.isLost_of_plural fun hplural => ?_
    simp only [Bool.and_eq_true, decide_eq_true_eq] at ho
    rw [ho.1] at hplural
    exact absurd hplural (by decide)
  rw [controlPlaneNodes_eq, controlPlaneNodes_eq]
  exact hlist.map nodesAnswer fun e _ => ⟨_, rfl, rfl⟩

/-- The nodes are listed in both runs alike. -/
theorem controlPlaneNodes_same (h : Tracks c R) (hst : R s t) :
    (controlPlaneNodes (faults.without c) t).1 = (controlPlaneNodes faults s).1 ∧
      R (controlPlaneNodes faults s).2 (controlPlaneNodes (faults.without c) t).2 := by
  have hlog : (controlPlaneNodes faults s).2.requests =
      s.requests ++ [⟨.list, Kind.node.plural, ""⟩] := by
    rw [controlPlaneNodes_eq]
    exact requests_serve (fun _ => rfl) _ s
  exact h.same_of_other (h.shadowed_controlPlaneNodes faults hst) hlog (by rintro ⟨⟩)

theorem shadowed_recorded (h : Tracks c R) (hst : R s t) (network key : String) :
    Shadowed (h.shadowing faults) Failure.Tells s (recorded faults network key s)
      (recorded (faults.without c) network key t) := by
  rw [recorded_eq, recorded_eq]
  exact (h.shadowed_get faults hst .network "" network (Or.inl (by decide))).map
    (annotationAnswer network key) fun e _ => ⟨_, rfl, rfl⟩

/-- A merge into the network beside the other. -/
theorem shadowed_merge (h : Tracks c R) (hst : R s t) {r : Request} (hr : r ≠ .readConfig c.name)
    (w : Write) (network : String) (patch : Json) :
    Shadowed (h.shadowing faults) ApiError.Tells s
      (serve faults r (fun s => mergeInto .network network patch (s.log w)) s)
      (serve (faults.without c) r (fun s => mergeInto .network network patch (s.log w)) t) := by
  have hplural : Kind.network.plural ≠ Kind.configMap.plural := by decide
  refine h.shadowed_serve faults hst hr (fun s => requests_mergeInto _ _ _ _) fun s t hst => ?_
  have hlogged := h.logged hst w
  have hfound : (t.log w).find? .network "" network = (s.log w).find? .network "" network :=
    (h.same hlogged).find?_eq fun heq => hplural (congrArg (·.1.plural) heq)
  rw [mergeInto_fst, mergeInto_fst, mergeInto_eq, mergeInto_eq, hfound]
  cases (s.log w).find? .network "" network with
  | none => exact ⟨rfl, hlogged⟩
  | some body => exact ⟨rfl, h.stored hlogged _ (StoredObject.isLost_of_plural hplural)⟩

theorem shadowed_record (h : Tracks c R) (hst : R s t) (network key value : String) :
    Shadowed (h.shadowing faults) Failure.Tells s (record faults network key value s)
      (record (faults.without c) network key value t) := by
  rw [record_eq, record_eq]
  exact (h.shadowed_merge faults hst (by rintro ⟨⟩) _ network _).map (networkAnswer _ _)
    fun e _ => ⟨_, rfl, tells_failed _ e⟩

/-- The status is reported in both runs alike. -/
theorem reportStatus_same (h : Tracks c R) (hst : R s t) (network : String) (body : Json) :
    (reportStatus (faults.without c) network body t).1 = (reportStatus faults network body s).1 ∧
      R (reportStatus faults network body s).2
        (reportStatus (faults.without c) network body t).2 := by
  have hlog := requests_reportStatus faults network body s
  rw [reportStatus_eq] at hlog
  obtain ⟨hanswer, hserver⟩ := h.same_of_other
    (h.shadowed_merge faults hst (by rintro ⟨⟩) _ network body) hlog (by rintro ⟨⟩)
  rw [reportStatus_eq, reportStatus_eq]
  exact ⟨congrArg (networkAnswer _ _) hanswer, hserver⟩

/-- An event is published in both runs alike. -/
theorem publish_same (h : Tracks c R) (hst : R s t) (event : Event) :
    R (publish faults event s).2 (publish (faults.without c) event t).2 := by
  have hr : (⟨.create, "events", ""⟩ : Request) ≠ .readConfig c.name := by rintro ⟨⟩
  exact (h.same_of_other (h.shadowed_serve faults hst hr (fun _ => rfl)
    fun s t hst => ⟨rfl, h.logged hst _⟩) (requests_publish event s) hr).2

end Tracks

/-! ## Reading the config map -/

section Optional

variable {faults : Faults} {s t : Server} {c : LostConfig} {namespaceName name : String}

theorem requests_configMap (faults : Faults) (namespaceName name : String) (s : Server) :
    (configMap faults namespaceName name s).2.requests = s.requests ++ [.readConfig name] := by
  unfold configMap
  rw [readIfExists_eq]
  exact requests_get .configMap namespaceName name s

/-- A read that fails gives no data. -/
theorem configMap_of_fault {e : ApiError}
    (h : faults s.requests.length (.readConfig name) = some e) :
    (∀ data, (configMap faults namespaceName name s).1 ≠ .ok (some data)) ∧
      (configMap faults namespaceName name s).2 =
        { s with requests := s.requests ++ [.readConfig name] } := by
  have hget : get faults .configMap namespaceName name s =
      (.error e, { s with requests := s.requests ++ [.readConfig name] }) := by
    change faults s.requests.length ⟨.get, Kind.configMap.plural, name⟩ = some e at h
    simp only [get, serve, h]
    rfl
  unfold configMap
  rw [readIfExists_eq, hget]
  refine ⟨?_, rfl⟩
  rintro data hdata
  dsimp only [readAnswer] at hdata
  split at hdata <;> cases hdata

/-- What does not exist gives no data, and does not fail. -/
theorem configMap_of_missing (h : faults s.requests.length (.readConfig name) = none)
    (hmissing : s.find? .configMap namespaceName name = none) :
    configMap faults namespaceName name s =
      (.ok none, { s with requests := s.requests ++ [.readConfig name] }) := by
  have hget : get faults .configMap namespaceName name s =
      (.error .notFound, { s with requests := s.requests ++ [.readConfig name] }) := by
    change faults s.requests.length ⟨.get, Kind.configMap.plural, name⟩ = none at h
    have hfind (log : List Request) :
        find? { s with requests := log } .configMap namespaceName name = none := hmissing
    simp only [get, serve, h, hfind]
    rfl
  unfold configMap
  rw [readIfExists_eq, hget]
  rfl

/-- What a pass makes of a config map that it can do without: the data decide, and a failure counts
as none. -/
theorem shadowed_optional (hst : Lacks c s t) (hname : name ∈ optionalConfigs)
    {g : Except Failure (Option TextMap) → β} (hg : ∀ e, g (.error e) = g (.ok none)) :
    Shadowed ((tracks_lacks c).shadowing faults) Failure.Tells s
      (.ok (g (configMap faults c.namespaceName name s).1),
        (configMap faults c.namespaceName name s).2)
      (.ok (g (configMap (faults.without c) c.namespaceName name t).1),
        (configMap (faults.without c) c.namespaceName name t).2) := by
  refine ⟨?_, ?_, ?_⟩
  · change s.requests <+: (configMap faults c.namespaceName name s).2.requests
    rw [requests_configMap]
    exact List.prefix_append _ _
  · intro hhit
    change faults.Hit s.requests (configMap faults c.namespaceName name s).2.requests at hhit
    rw [requests_configMap, Faults.hit_append_singleton] at hhit
    obtain ⟨e, -, -, hneeded⟩ := hhit
    exact absurd (Or.inl ⟨name, hname, rfl⟩) hneeded
  · intro hdenies
    by_cases hlost : name = c.name
    · -- the first read fails, and the other one finds nothing
      subst hlost
      change faults.Denies (.readConfig c.name) s.requests
        (configMap faults c.namespaceName c.name s).2.requests at hdenies
      rw [requests_configMap] at hdenies
      obtain ⟨e, he⟩ := Option.isSome_iff_exists.mp
        (hdenies s.requests.length (Nat.le_refl _) (by simp))
      obtain ⟨hnodata, hstate⟩ := configMap_of_fault he
      rw [hstate, configMap_of_missing (if_pos rfl) hst.missing]
      refine ⟨?_, (tracks_lacks c).received hst _⟩
      cases hanswer : (configMap faults c.namespaceName c.name s).1 with
      | error e => rw [hg]
      | ok data =>
        cases data with
        | none => rfl
        | some data => exact absurd hanswer (hnodata data)
    · obtain ⟨hanswer, hrel⟩ :=
        ((tracks_lacks c).shadowed_configMap faults hst c.namespaceName hlost).same hdenies
      exact ⟨by rw [hanswer], hrel⟩

end Optional

end Server

end NetworkRollout
