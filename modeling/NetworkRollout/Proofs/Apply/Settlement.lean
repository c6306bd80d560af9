import NetworkRollout.Proofs.Apply.InOrder
import NetworkRollout.Proofs.Apply.Stamp

/-!
# What becomes of applied workloads

A server that is sent an object may put it in the place of the stored one, or merge it into that.
Both ways agree about the workloads of a pass: a workload that is sent reads again with the marks
that it was sent with.

* `Object.bears`: which objects may go to a workload.
* `Server.find?_of_none`, `find?_of_one`: the stored workload after a run of applications.
* `Storing.reads_settle`: a workload that is sent reads as a tier, with its annotations.
-/

namespace NetworkRollout

/-! ## Objects for a workload -/

namespace Object

variable {o : Object} {ns : Namespaces} {name : String}

/-- An object is a daemon set of the group of apps. A version may start with a slash. -/
def isDaemonSet (o : Object) : Bool :=
  o.kind = "DaemonSet" && (o.group = "apps" || o.group = "/apps")

/-- An object is a daemon set that goes by the name. -/
def bears (name : String) (o : Object) : Bool := o.isDaemonSet && o.anyName = name

theorem bears_of_name (htype : o.type = some daemonSetType) (hname : o.metadata.name = some name) :
    o.bears name = true := by
  unfold bears isDaemonSet kind group anyName
  rw [htype, hname]
  simp only [Option.map_some, Option.getD_some, Option.some_or, decide_true, Bool.and_true]
  rfl

theorem bears_of_isWorkload (h : o.isWorkload name = true) : o.bears name = true := by
  simp only [isWorkload, Bool.and_eq_true, decide_eq_true_eq] at h
  obtain ⟨⟨hgroup, hkind⟩, hname⟩ := h
  unfold bears isDaemonSet anyName
  rw [hgroup, hkind, hname]
  simp

theorem anyName_of_bears (h : o.bears name = true) : o.anyName = name := by
  simp only [bears, Bool.and_eq_true, decide_eq_true_eq] at h
  exact h.2

/-- What the server takes for a daemon set says that it is one. -/
theorem isDaemonSet_of_kind? {serving : Serving} {type : ObjectType} (htype : o.type = some type)
    (h : serving.kind? type.apiVersion type.kind = some .daemonSet) : o.isDaemonSet = true := by
  obtain ⟨hversion, hname⟩ := Serving.eq_of_kind? h
  have hapiVersion : type.apiVersion = "apps/v1" ∨ type.apiVersion = "/apps/v1" := by
    unfold Kind.plainVersion at hversion
    split at hversion
    case h_1 rest hrest =>
      refine Or.inr (String.toList_injective (hrest.trans ?_))
      rw [← String.toList_ofList (l := rest), ← hversion]
      rfl
    case h_2 => exact Or.inl hversion.symm
  obtain ⟨apiVersion, kind⟩ := type
  unfold isDaemonSet Object.kind group
  rw [htype]
  cases hname
  rcases hapiVersion with rfl | rfl <;> rfl

/-- What goes to a workload bears its name. -/
theorem AppliedAs.bears {serving : Serving} {effect : Effect} (h : o.AppliedAs serving ns effect)
    (htarget : effect.target = some (.daemonSet, ns.datapath, name)) : o.bears name = true := by
  obtain ⟨type, kind, htype, hkind, rfl⟩ := h
  injection htarget with htarget
  injection htarget with hkindEq htarget
  injection htarget with _ hname
  rw [hkindEq] at hkind
  unfold Object.bears
  rw [isDaemonSet_of_kind? htype hkind, hname, decide_eq_true_eq.mpr rfl]
  rfl

/-- A workload goes to its place. -/
theorem AppliedAs.eq_apply {serving : Serving} {effect : Effect}
    (h : o.AppliedAs serving ns effect) (htype : o.type = some daemonSetType)
    (hnamespace : o.metadata.namespaceName = some ns.datapath)
    (hname : o.metadata.name = some name) :
    effect = .apply .daemonSet ns.datapath name o.toJson := by
  obtain ⟨type, kind, hfound, hkind, rfl⟩ := h
  cases htype.symm.trans hfound
  obtain rfl : Kind.daemonSet = kind := Option.some.inj (serving.daemonSets.symm.trans hkind)
  have hplace : Server.applyNamespace ns .daemonSet o = ns.datapath := by
    unfold Server.applyNamespace
    rw [hnamespace]
    rfl
  have hany : o.anyName = name := anyName_of_bears (bears_of_name htype hname)
  rw [← hplace, ← hany]

end Object

namespace Server

variable {s s' : Server} {ns : Namespaces} {sent : List Effect} {planned : List Object}
  {x : Object} {name : String}

/-- The workload stays when none of the applied objects bears its name. -/
theorem find?_of_none {serving : Serving} (hdid : Did s s' sent)
    (heach : List.Forall₂ (Object.AppliedAs serving ns) planned sent)
    (hnone : planned.filter (·.bears name) = []) :
    s'.find? .daemonSet ns.datapath name = s.find? .daemonSet ns.datapath name := by
  refine hdid.find?_eq fun effect hmem htarget => ?_
  obtain ⟨o, ho, happlied⟩ := exists_appliedAs heach effect hmem
  exact List.filter_eq_nil_iff.mp hnone o ho (happlied.bears htarget)

/-- The workload is settled once when one of the applied objects bears its name. The induction is on
the objects, and what is stored changes with each that is applied. -/
theorem find?_of_one {serving : Serving} (hdid : Did s s' sent)
    (heach : List.Forall₂ (Object.AppliedAs serving ns) planned sent)
    (hone : planned.filter (·.bears name) = [x]) (htype : x.type = some Object.daemonSetType)
    (hnamespace : x.metadata.namespaceName = some ns.datapath)
    (hname : x.metadata.name = some name) :
    s'.find? .daemonSet ns.datapath name =
      some (s.serving.storing.settle (s.find? .daemonSet ns.datapath name) x.toJson) := by
  induction heach generalizing s with
  | nil => cases hone
  | @cons o effect planned sent hfirst hrest ih =>
    obtain ⟨next, hnext, hlater⟩ := hdid.split
    by_cases ho : o.bears name = true
    · rw [List.filter_cons_of_pos ho] at hone
      obtain ⟨rfl, hnone⟩ := List.cons_eq_cons.mp hone
      rw [find?_of_none hlater hrest hnone]
      rw [hfirst.eq_apply htype hnamespace hname] at hnext
      exact hnext.find?_apply
    · rw [List.filter_cons_of_neg ho] at hone
      have hkept : next.find? .daemonSet ns.datapath name =
          s.find? .daemonSet ns.datapath name :=
        hnext.find?_eq <| List.forall_mem_singleton.mpr fun htarget => ho (hfirst.bears htarget)
      rw [ih hlater hone, hkept, hnext.serving]

end Server

/-! ## Workloads that are sent -/

namespace Json

variable {a b value : Json} {ms sent : Members} {name : String}
  {checks : List (String × (Json → Bool))}

/-- An annotation of what is sent is found afterwards. -/
theorem annotationIn_layOver (hb : b.Distinct) {key text : String}
    (h : Server.annotationIn key b = some (.text text)) :
    Server.annotationIn key (a.layOver b) = some (.text text) := by
  unfold Server.annotationIn Json.path at h ⊢
  simp only [List.foldl_cons, List.foldl_nil] at h ⊢
  have hannotations : ((b.field "metadata").field "annotations").members ≠ [] := by
    intro hnil
    rw [hnil] at h
    cases h
  have hmetadata : (b.field "metadata").members ≠ [] := by
    intro hnil
    refine hannotations ?_
    change (Members.getD (b.field "metadata").members "annotations").members = []
    rw [hnil]
    rfl
  rw [field_layOver hb hmetadata, field_layOver (hb.field _) hannotations,
    get?_layOver ((hb.field _).field _) h]
  rfl

theorem ReadsAs.getD_layMembers (hstays : ∀ c ∈ checks, StaysRead c.2)
    (hdistinct : (Json.object sent).Distinct) (hms : ReadsAs checks (ms.getD name))
    (hsent : ReadsAs checks (sent.getD name)) :
    ReadsAs checks ((layMembers ms sent).getD name) := by
  unfold Members.getD at hsent ⊢
  cases hvalue : sent.get? name with
  | none =>
    rw [get?_layMembers_of_none hvalue]
    exact hms
  | some value =>
    rw [hvalue] at hsent
    rw [get?_layMembers_of_some hdistinct.names hvalue]
    exact hms.layOver hstays hsent (hdistinct.of_get? hvalue)

end Json

namespace Tier

variable {ms sent : Members} {status : Json}

theorem isTextOrMissing_layMembers {name expected : String}
    (hdistinct : (Json.object sent).Distinct) (hms : isTextOrMissing ms name expected = true)
    (hsent : isTextOrMissing sent name expected = true) :
    isTextOrMissing (Json.layMembers ms sent) name expected = true := by
  unfold isTextOrMissing at hsent ⊢
  cases hvalue : sent.get? name with
  | none =>
    rw [Json.get?_layMembers_of_none hvalue]
    exact hms
  | some value =>
    rw [hvalue] at hsent
    rw [Json.get?_layMembers_of_some hdistinct.names hvalue]
    cases value with
    | text t => exact hsent
    | _ => cases hsent

theorem isObjectOrNull_layMembers {name : String} (hdistinct : (Json.object sent).Distinct)
    (hms : isObjectOrNull (ms.getD name) = true) (hsent : isObjectOrNull (sent.getD name) = true) :
    isObjectOrNull ((Json.layMembers ms sent).getD name) = true := by
  unfold Members.getD at hsent ⊢
  cases hvalue : sent.get? name with
  | none =>
    rw [Json.get?_layMembers_of_none hvalue]
    exact hms
  | some value =>
    rw [hvalue] at hsent
    rw [Json.get?_layMembers_of_some hdistinct.names hvalue]
    cases value with
    | null => rfl
    | object inner => rfl
    | _ => cases hsent

/-- A workload that reads as a tier still does when such a one is laid over it. -/
theorem Reads.layMembers (hdistinct : (Json.object sent).Distinct) (hms : Reads ms)
    (hsent : Reads sent) : Reads (Json.layMembers ms sent) where
  metadata := hms.metadata.getD_layMembers Metadata.staysRead_checks hdistinct hsent.metadata
  status := hms.status.getD_layMembers staysRead_statusChecks hdistinct hsent.status
  apiVersion := isTextOrMissing_layMembers hdistinct hms.apiVersion hsent.apiVersion
  kind := isTextOrMissing_layMembers hdistinct hms.kind hsent.kind
  spec := isObjectOrNull_layMembers hdistinct hms.spec hsent.spec

/-- A workload that reads as a tier still does with another status. -/
theorem Reads.withStatus (h : Reads ms) (hstatus : Json.ReadsAs statusChecks status) :
    Reads (ms.insert "status" status) := by
  have hother : ∀ name, name ≠ "status" → (ms.insert "status" status).get? name = ms.get? name :=
    fun name hne => Members.get?_insert_of_ne hne _ _
  refine ⟨?_, ?_, ?_, ?_, ?_⟩
  · rw [Members.getD, hother _ (by decide)]
    exact h.metadata
  · rw [Members.getD, Members.get?_insert_self]
    exact hstatus
  · unfold isTextOrMissing
    rw [hother _ (by decide)]
    exact h.apiVersion
  · unfold isTextOrMissing
    rw [hother _ (by decide)]
    exact h.kind
  · rw [Members.getD, hother _ (by decide)]
    exact h.spec

end Tier

namespace Storing

variable {sent : Members}

/-! ### What is merged of a workload -/

theorem readsAs_mergeableMetadata {j : Json} (h : Json.ReadsAs Metadata.checks j) :
    Json.ReadsAs Metadata.checks (mergeableMetadata j) := by
  refine Or.inr ⟨_, rfl, fun c hc value hvalue => ?_⟩
  change Members.get? (mergeableMetadata j).members c.1 = some value at hvalue
  by_cases hown : c.1 ∈ ownMetadata
  · rw [get?_mergeableMetadata_of_own hown] at hvalue
    cases hvalue
  · rw [get?_mergeableMetadata hown] at hvalue
    rcases h with hnull | ⟨ms, rfl, hreads⟩
    · cases j with
      | null => cases hvalue
      | _ => cases hnull
    · exact hreads c hc value hvalue

/-- What is merged of a workload reads as the workload does. -/
theorem reads_mergeable (h : Tier.Reads sent) : Tier.Reads (mergeable (.object sent)).members := by
  have hother : ∀ name, name ≠ "status" → name ≠ "metadata" →
      Members.get? (mergeable (.object sent)).members name = sent.get? name :=
    fun name hstatus hmetadata => get?_mergeable_of_ne hstatus hmetadata _
  refine ⟨?_, ?_, ?_, ?_, ?_⟩
  · have hread := h.metadata
    unfold Members.getD at hread ⊢
    rw [get?_mergeable_metadata]
    change Json.ReadsAs _ ((Option.map mergeableMetadata (sent.get? "metadata")).getD .null)
    cases hmetadata : sent.get? "metadata" with
    | none => exact Or.inl rfl
    | some metadata =>
      rw [hmetadata] at hread
      exact readsAs_mergeableMetadata hread
  · rw [Members.getD, get?_mergeable_status]
    exact Or.inl rfl
  · unfold Tier.isTextOrMissing
    rw [hother _ (by decide) (by decide)]
    exact h.apiVersion
  · unfold Tier.isTextOrMissing
    rw [hother _ (by decide) (by decide)]
    exact h.kind
  · rw [Members.getD, hother _ (by decide) (by decide)]
    exact h.spec

theorem annotationIn_mergeable (key : String) (object : Json) :
    Server.annotationIn key (mergeable object) = Server.annotationIn key object := by
  have hannotations : ((mergeable object).field "metadata").field "annotations" =
      (object.field "metadata").field "annotations" := by
    unfold Json.field Members.getD
    rw [get?_mergeable_metadata]
    cases Members.get? object.members "metadata" with
    | none => rfl
    | some metadata =>
      have hkept : "annotations" ∉ ownMetadata := by decide
      exact congrArg (·.getD .null) (get?_mergeableMetadata hkept metadata)
  unfold Server.annotationIn Json.path
  simp only [List.foldl_cons, List.foldl_nil]
  rw [hannotations]

/-! ### What is stored of a workload -/

theorem reads_merges {stored : Option Json}
    (hstored : ∀ j, stored = some j → ∃ ms, j = .object ms ∧ Tier.Reads ms)
    (hsent : Tier.Reads sent) (hdistinct : (Json.object sent).Distinct) :
    ∃ after, merges.settle stored (.object sent) = .object after ∧ Tier.Reads after ∧
      ∀ key text, Server.annotationIn key (.object sent) = some (.text text) →
        Server.annotationIn key (.object after) = some (.text text) := by
  have hbefore : Tier.Reads (stored.getD .null).members := by
    cases hold : stored with
    | none => exact Tier.isSome_ofWorkload?_iff.mp rfl
    | some j =>
      obtain ⟨ms, rfl, hread⟩ := hstored j hold
      exact hread
  have hmerged : (mergeable (.object sent)).Distinct := distinct_mergeable hdistinct
  obtain ⟨new, hnew⟩ : ∃ new, mergeable (.object sent) = .object new := by
    unfold mergeable
    dsimp only
    split <;> exact ⟨_, rfl⟩
  have hsettled : merges.settle stored (.object sent) =
      (stored.getD .null).layOver (.object new) := by
    rw [← hnew]
    unfold settle
    rw [hdistinct.dedup_eq]
  have hreads := reads_mergeable hsent
  rw [hnew] at hmerged hreads
  refine ⟨_, hsettled, hbefore.layMembers hmerged hreads, fun key text htext => ?_⟩
  refine Json.annotationIn_layOver (a := stored.getD .null) hmerged ?_
  rw [← hnew, annotationIn_mergeable]
  exact htext

theorem reads_replaces {stored : Option Json}
    (hstored : ∀ j, stored = some j → ∃ ms, j = .object ms ∧ Tier.Reads ms)
    (hsent : Tier.Reads sent) (hdistinct : (Json.object sent).Distinct) :
    ∃ after, replaces.settle stored (.object sent) = .object after ∧ Tier.Reads after ∧
      ∀ key text, Server.annotationIn key (.object sent) = some (.text text) →
        Server.annotationIn key (.object after) = some (.text text) := by
  unfold settle
  rw [hdistinct.dedup_eq]
  change ∃ after, replaced stored (.object sent) = _ ∧ _
  unfold replaced
  split
  case h_1 status hstatus _ =>
    obtain ⟨j, hj, hstatus⟩ := Option.bind_eq_some_iff.mp hstatus
    obtain ⟨ms, rfl, hread⟩ := hstored j hj
    have hreads : Json.ReadsAs Tier.statusChecks status := by
      have hlookup : Members.getD ms "status" = status := congrArg (·.getD .null) hstatus
      rw [← hlookup]
      exact hread.status
    refine ⟨Members.insert "status" status sent, rfl, hsent.withStatus hreads,
      fun key text h => ?_⟩
    have hmetadata : (Json.object (Members.insert "status" status sent)).field "metadata" =
        (Json.object sent).field "metadata" :=
      congrArg (·.getD .null) (Members.get?_insert_of_ne (by decide) _ _)
    unfold Server.annotationIn Json.path at h ⊢
    simp only [List.foldl_cons, List.foldl_nil] at h ⊢
    rw [hmetadata]
    exact h
  case h_2 => exact ⟨sent, rfl, hsent, fun _ _ h => h⟩

/-- A workload that is sent reads as a tier, with the annotations that it was sent with. -/
theorem reads_settle (storing : Storing) {stored : Option Json}
    (hstored : ∀ j, stored = some j → (Tier.ofWorkload? j).isSome)
    (hsent : Tier.Reads sent) (hdistinct : (Json.object sent).Distinct) :
    ∃ after, storing.settle stored (.object sent) = .object after ∧ Tier.Reads after ∧
      ∀ key text, Server.annotationIn key (.object sent) = some (.text text) →
        Server.annotationIn key (.object after) = some (.text text) := by
  have hobject : ∀ j, stored = some j → ∃ ms, j = .object ms ∧ Tier.Reads ms := by
    intro j hj
    have hread := hstored j hj
    cases j with
    | object ms => exact ⟨ms, rfl, Tier.isSome_ofWorkload?_iff.mp hread⟩
    | _ => cases hread
  cases storing with
  | replaces => exact reads_replaces hobject hsent hdistinct
  | merges => exact reads_merges hobject hsent hdistinct

end Storing

end NetworkRollout
