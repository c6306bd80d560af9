import NetworkRollout.Proofs.Apply.HoldBack
import NetworkRollout.Proofs.Apply.LiveCopy

/-!
# What is applied is what was decided

When the rendered objects are marked, planned and applied, the workloads of the tiers come out as
the decision says. A tier that it updates is read back on the release and with the family, one that
it holds back is as before, the pre-puller is on the release or as before, and all other objects are
sent as they were rendered.

* `Object.RenderedAs`: a workload is rendered once.
* `Object.filter_plan_master`, `filter_plan_node`, `filter_plan_prepuller`, `filter_plan_others`:
  plans, workload by workload.
* `Server.Refines`: the decision, as it comes out on the server.
* `Server.refines_of_applyAll`: a run of applications that succeeds refines the decision.
* `bindingServing`: a server that merges, and has a kind more.
-/

namespace NetworkRollout

/-! ## Which objects are workloads -/

namespace Object

variable {o r : Object} {name other : String} {family : Family} {release : String}

/-- An object is the workload of a name. -/
structure IsOf (name : String) (o : Object) : Prop where
  typed : o.type = some daemonSetType
  named : o.metadata.name = some name

theorem IsOf.bears (h : o.IsOf name) : o.bears name = true := bears_of_name h.typed h.named

theorem IsOf.stamp (h : o.IsOf name) (family : Family) (release : String) :
    (o.stamp family release).IsOf name :=
  ⟨(stamp_identity o family release).1.trans h.typed,
    (stamp_identity o family release).2.1.trans h.named⟩

theorem sameIdentity_bears (hr : r.IsOf name) (h : o.sameIdentity r = true) :
    o.bears name = true := by
  simp only [sameIdentity, Bool.and_eq_true, decide_eq_true_eq] at h
  obtain ⟨⟨⟨hgroup, hkind⟩, -⟩, hname⟩ := h
  refine bears_of_isWorkload ?_
  have hworkload := isWorkload_of_name hr.typed hr.named
  unfold isWorkload at hworkload ⊢
  rw [hgroup, hkind, hname]
  exact hworkload

theorem IsOf.sameIdentity (ho : o.IsOf name) (hr : r.IsOf name)
    (hnamespace : o.metadata.namespaceName = r.metadata.namespaceName) :
    o.sameIdentity r = true := by
  unfold Object.sameIdentity group kind
  rw [ho.typed, hr.typed, ho.named, hr.named, hnamespace]
  simp

theorem bears_of_ne (h : o.bears name = true) (hne : name ≠ other) : o.bears other = false := by
  unfold bears
  rw [anyName_of_bears h, decide_eq_false hne, Bool.and_false]

/-- An object is none of the workloads that a pass decides about. -/
def isOther (o : Object) : Bool := workloadNames.all fun name => !o.bears name

theorem isOther_of_bears (h : o.bears name = true) (hname : name ∈ workloadNames) :
    o.isOther = false := by
  refine List.all_eq_false.mpr ⟨name, hname, ?_⟩
  rw [h]
  exact Bool.false_ne_true

theorem not_isWorkload_of_isOther (h : o.isOther = true) (hname : name ∈ workloadNames) :
    o.isWorkload name = false := by
  refine Bool.eq_false_iff.mpr fun hworkload => ?_
  rw [isOther_of_bears (bears_of_isWorkload hworkload) hname] at h
  cases h

/-! ## Marks -/

/-- A mark changes nothing about the name that an object bears. -/
theorem bears_stamp (name : String) (o : Object) (family : Family) (release : String) :
    (o.stamp family release).bears name = o.bears name := by
  obtain ⟨htype, hname, -, hgenerate⟩ := stamp_identity o family release
  unfold bears isDaemonSet kind group anyName
  rw [htype, hname, hgenerate]

theorem filter_stamp (name : String) (family : Family) (release : String) (os : List Object) :
    (os.map (stamp family release)).filter (·.bears name) =
      (os.filter (·.bears name)).map (stamp family release) := by
  rw [List.filter_map]
  exact congrArg (List.map _) (List.filter_congr fun o _ => bears_stamp name o family release)

theorem filter_stamp_others (family : Family) (release : String) (os : List Object) :
    (os.map (stamp family release)).filter isOther = os.filter isOther := by
  have hother : ∀ o : Object, (o.stamp family release).isOther = o.isOther := by
    intro o
    unfold isOther
    exact congrArg workloadNames.all (funext fun name => by rw [bears_stamp])
  have hsame : os.filter (isOther ∘ stamp family release) = os.filter isOther :=
    List.filter_congr fun o _ => hother o
  rw [List.filter_map, hsame]
  refine (List.map_congr_left fun o ho => ?_).trans (List.map_id _)
  exact stamp_of_other (fun name hname =>
    not_isWorkload_of_isOther (List.mem_filter.mp ho).2 hname) family release

end Object

/-! ## Plans, workload by workload -/

/-- Live objects are those of their tiers. -/
structure LiveTiers.AreOf (live : LiveTiers) : Prop where
  master : ∀ m, live.master = some m → m.IsOf Names.masterWorkload
  node : ∀ n, live.node = some n → n.IsOf Names.nodeWorkload

namespace Object

variable {decision : Decision} {live : LiveTiers} {os : List Object} {name : String}

theorem filter_withoutPrepuller {p : Object → Bool}
    (hp : ∀ o : Object, p o = true → o.isWorkload Names.prepullerWorkload = false)
    (os : List Object) :
    (os.filter (!·.isWorkload Names.prepullerWorkload)).filter p = os.filter p := by
  rw [List.filter_filter]
  refine List.filter_congr fun o _ => ?_
  cases ho : p o with
  | false => rfl
  | true => rw [hp o ho]; rfl

/-- What is looked at in a plan, if the pre-puller is not. -/
theorem filter_plan_of_not_prepuller {p : Object → Bool}
    (hp : ∀ o : Object, p o = true → o.isWorkload Names.prepullerWorkload = false)
    (os : List Object) :
    (plan os decision live).filter p = (holdBack decision.updateNode live.node
      (holdBack decision.updateMaster live.master os)).filter p := by
  unfold plan
  dsimp only
  split
  case isTrue => rfl
  case isFalse => exact filter_withoutPrepuller hp _

theorem not_prepuller_of_bears {o : Object} (h : o.bears name = true)
    (hne : name ≠ Names.prepullerWorkload) : o.isWorkload Names.prepullerWorkload = false := by
  refine Bool.eq_false_iff.mpr fun hworkload => ?_
  rw [bears_of_ne (bears_of_isWorkload hworkload) (Ne.symm hne)] at h
  cases h

theorem holdBack_true (liveTier : Option Object) (os : List Object) :
    holdBack true liveTier os = os := rfl

theorem filter_plan_master (hlive : live.AreOf) (decision : Decision) (os : List Object) :
    (plan os decision live).filter (·.bears Names.masterWorkload) =
      holdBack decision.updateMaster live.master (os.filter (·.bears Names.masterWorkload)) := by
  rw [filter_plan_of_not_prepuller fun o ho => not_prepuller_of_bears ho (by decide),
    filter_holdBack_of_not fun r hr o ho =>
      bears_of_ne (sameIdentity_bears (hlive.node r hr) ho) (by decide),
    filter_holdBack fun r hr o ho => sameIdentity_bears (hlive.master r hr) ho]

theorem filter_plan_node (hlive : live.AreOf) (decision : Decision) (os : List Object) :
    (plan os decision live).filter (·.bears Names.nodeWorkload) =
      holdBack decision.updateNode live.node (os.filter (·.bears Names.nodeWorkload)) := by
  rw [filter_plan_of_not_prepuller fun o ho => not_prepuller_of_bears ho (by decide),
    filter_holdBack fun r hr o ho => sameIdentity_bears (hlive.node r hr) ho,
    filter_holdBack_of_not fun r hr o ho =>
      bears_of_ne (sameIdentity_bears (hlive.master r hr) ho) (by decide)]

theorem filter_plan_prepuller (hlive : live.AreOf) (decision : Decision) (os : List Object) :
    (plan os decision live).filter (·.bears Names.prepullerWorkload) =
      if decision.renderPrepull then os.filter (·.bears Names.prepullerWorkload)
      else (os.filter (·.bears Names.prepullerWorkload)).filter
        (!·.isWorkload Names.prepullerWorkload) := by
  have hheld : (holdBack decision.updateNode live.node
      (holdBack decision.updateMaster live.master os)).filter (·.bears Names.prepullerWorkload) =
        os.filter (·.bears Names.prepullerWorkload) := by
    rw [filter_holdBack_of_not fun r hr o ho =>
        bears_of_ne (sameIdentity_bears (hlive.node r hr) ho) (by decide),
      filter_holdBack_of_not fun r hr o ho =>
        bears_of_ne (sameIdentity_bears (hlive.master r hr) ho) (by decide)]
  unfold plan
  dsimp only
  split
  case isTrue => exact hheld
  case isFalse => rw [List.filter_comm, hheld]

/-- What is no workload of a pass is in the plan as it was, and in its order. -/
theorem filter_plan_others (hlive : live.AreOf) (decision : Decision) (os : List Object) :
    (plan os decision live).filter isOther = os.filter isOther := by
  rw [filter_plan_of_not_prepuller fun o ho => not_isWorkload_of_isOther ho (by decide),
    filter_holdBack_of_not fun r hr o ho =>
      isOther_of_bears (sameIdentity_bears (hlive.node r hr) ho) (by decide),
    filter_holdBack_of_not fun r hr o ho =>
      isOther_of_bears (sameIdentity_bears (hlive.master r hr) ho) (by decide)]

/-! ## What is rendered -/

/-- A workload is rendered once, in the namespace of the datapath, it was read from a value that
gives no name twice, and it reads as a tier. -/
structure RenderedAs (ns : Namespaces) (name : String) (rendered : List Object) (x : Object) :
    Prop where
  once : rendered.filter (·.bears name) = [x]
  isOf : x.IsOf name
  namespaceName : x.metadata.namespaceName = some ns.datapath
  read : ∃ j, j.Distinct ∧ ofJson? j = some x
  tier : (Tier.ofWorkload? x.toJson).isSome

namespace RenderedAs

variable {ns : Namespaces} {rendered : List Object} {x : Object}

theorem wellFormed (h : RenderedAs ns name rendered x) : x.WellFormed := by
  obtain ⟨j, hj, hread⟩ := h.read
  cases j with
  | object ms => exact (readFrom_of_ofJson? hj hread h.isOf.typed).wellFormed hj
  | _ => cases hread

theorem stamped (h : RenderedAs ns name rendered x) (family : Family) (release : String) :
    (rendered.map (stamp family release)).filter (·.bears name) = [x.stamp family release] := by
  rw [filter_stamp, h.once]
  rfl

theorem stamped_namespaceName (h : RenderedAs ns name rendered x) (family : Family)
    (release : String) :
    (x.stamp family release).metadata.namespaceName = some ns.datapath :=
  (stamp_identity x family release).2.2.1.trans h.namespaceName

end RenderedAs

end Object

/-! ## The decision on the server -/

/-- The tiers that a decision updates. -/
inductive Decision.Updates (decision : Decision) : String → Prop
  | master (h : decision.updateMaster = true) : Updates decision Names.masterWorkload
  | node (h : decision.updateNode = true) : Updates decision Names.nodeWorkload

/-- The tiers that a decision holds back. -/
inductive Decision.HoldsBack (decision : Decision) : String → Prop
  | master (h : decision.updateMaster = false) : HoldsBack decision Names.masterWorkload
  | node (h : decision.updateNode = false) : HoldsBack decision Names.nodeWorkload

theorem Decision.Updates.mem {decision : Decision} {name : String} (h : decision.Updates name) :
    name ∈ Object.familyNames := by
  cases h <;> decide

theorem Decision.HoldsBack.mem {decision : Decision} {name : String}
    (h : decision.HoldsBack name) : name ∈ Object.familyNames := by
  cases h <;> decide

theorem Object.filter_plan_updated {decision : Decision} {live : LiveTiers} {name : String}
    (hlive : live.AreOf) (h : decision.Updates name) (os : List Object) :
    (plan os decision live).filter (·.bears name) = os.filter (·.bears name) := by
  cases h with
  | master h => rw [filter_plan_master hlive, h, holdBack_true]
  | node h => rw [filter_plan_node hlive, h, holdBack_true]

namespace Server

variable {faults : Faults} {ns : Namespaces} {s start s' : Server} {decision : Decision}
  {live : LiveTiers} {rendered planned : List Object} {sent : List Effect} {name : String}
  {family : Family} {release : String}

/-- The stored workload of a name. -/
def workload? (s : Server) (ns : Namespaces) (name : String) : Option Json :=
  s.find? .daemonSet ns.datapath name

/-- The state of a tier as it is read of the stored workload. -/
def tier? (s : Server) (ns : Namespaces) (name : String) : Option Tier :=
  (s.workload? ns name).bind Tier.ofWorkload?

/-- A decision as it comes out on a server: what is stored before and after, and the effects of what
was sent. -/
structure Refines (ns : Namespaces) (family : Family) (release : String) (decision : Decision)
    (rendered : List Object) (s s' : Server) (sent : List Effect) : Prop where
  updated : ∀ name, decision.Updates name →
    ∃ tier, s'.tier? ns name = some tier ∧ tier.version = some release ∧
      tier.family = some family
  heldBack : ∀ name, decision.HoldsBack name → ∀ before, s.workload? ns name = some before →
    ∃ after, s'.workload? ns name = some after ∧ before.SameButBookkeeping after
  prepulled : decision.renderPrepull = true →
    ∃ tier, s'.tier? ns Names.prepullerWorkload = some tier ∧ tier.version = some release
  notPrepulled : decision.renderPrepull = false →
    s'.workload? ns Names.prepullerWorkload = s.workload? ns Names.prepullerWorkload
  /-- All other objects are sent as they are rendered, each once and in their order. -/
  others : ∃ planned, List.Forall₂ (Object.AppliedAs s.serving ns) planned sent ∧
    planned.filter Object.isOther = rendered.filter Object.isOther

/-- The live objects are those of their tiers when the server keeps its workloads. -/
theorem areOf_of_liveOf
    (hkept : ∀ name ∈ Object.workloadNames, ∀ body, s.workload? ns name = some body →
      Object.KeptAs ns name body)
    (hmaster : LiveOf s ns decision.updateMaster Names.masterWorkload live.master)
    (hnode : LiveOf s ns decision.updateNode Names.nodeWorkload live.node) : live.AreOf := by
  refine ⟨fun m hm => ?_, fun n hn => ?_⟩
  · obtain ⟨-, body, o, hbody, hread, rfl⟩ := hmaster.of_live m hm
    obtain ⟨htype, -, hname, -⟩ :=
      (hkept _ (by decide) body hbody).copyOf (distinct_find? hbody) hread
    exact ⟨htype, hname⟩
  · obtain ⟨-, body, o, hbody, hread, rfl⟩ := hnode.of_live n hn
    obtain ⟨htype, -, hname, -⟩ :=
      (hkept _ (by decide) body hbody).copyOf (distinct_find? hbody) hread
    exact ⟨htype, hname⟩

/-- A marked workload that is sent is read back with its marks. -/
theorem tier?_of_stamped {serving : Serving} {x : Object} (hdid : Did s s' sent)
    (heach : List.Forall₂ (Object.AppliedAs serving ns) planned sent)
    (hkept : ∀ body, s.workload? ns name = some body → Object.KeptAs ns name body)
    (hx : Object.RenderedAs ns name rendered x) (hname : name ∈ Object.workloadNames)
    (hone : planned.filter (·.bears name) = [x.stamp family release]) :
    ∃ tier, s'.tier? ns name = some tier ∧ tier.version = some release ∧
      (name ∈ Object.familyNames → tier.family = some family) := by
  have hisOf := hx.isOf.stamp family release
  have hstored := find?_of_one hdid heach hone hisOf.typed
    (hx.stamped_namespaceName family release) hisOf.named
  have hreads := Object.reads_stamp hx.isOf.typed (Tier.isSome_ofWorkload?_iff.mp hx.tier) family
    release
  have hsent := (hx.wellFormed.stamp family release).distinct hisOf.typed
  obtain ⟨after, hafter, hreads, hmarks⟩ := s.serving.storing.reads_settle
    (fun j hj => (hkept j hj).tier) hreads hsent
  have hsettled : s.serving.storing.settle (s.find? .daemonSet ns.datapath name)
      (x.stamp family release).toJson = .object after := hafter
  rw [hsettled] at hstored
  obtain ⟨tier, htier⟩ := Option.isSome_iff_exists.mp (Tier.isSome_ofWorkload?_iff.mpr hreads)
  obtain ⟨hversion, hfamily⟩ := Tier.marks_of_ofWorkload? (distinct_find? hstored) htier
  refine ⟨tier, ?_, hversion release (hmarks _ _
    (Object.annotationIn_stamp_release hx.isOf.typed hx.isOf.named hname family release)),
    fun htier => ?_⟩
  · unfold tier? workload?
    rw [hstored]
    exact htier
  · rw [hfamily _ (hmarks _ _
      (Object.annotationIn_stamp_family hx.isOf.typed hx.isOf.named htier family release))]
    exact family.ofMarker?_marker

/-- The workload of a tier that is held back is the live one, if there is one. -/
theorem filter_plan_heldBack (hare : live.AreOf)
    (hmaster : LiveOf s ns decision.updateMaster Names.masterWorkload live.master)
    (hnode : LiveOf s ns decision.updateNode Names.nodeWorkload live.node)
    (h : decision.HoldsBack name) (os : List Object) :
    ∃ liveTier, LiveOf s ns false name liveTier ∧
      (Object.plan os decision live).filter (·.bears name) =
        Object.holdBack false liveTier (os.filter (·.bears name)) := by
  cases h with
  | master h =>
    rw [Object.filter_plan_master hare, h]
    exact ⟨live.master, h ▸ hmaster, rfl⟩
  | node h =>
    rw [Object.filter_plan_node hare, h]
    exact ⟨live.node, h ▸ hnode, rfl⟩

/-- A workload that is held back is sent as it was read, and is as before. -/
theorem workload?_of_heldBack {serving : Serving} {x : Object} {liveTier : Option Object}
    (hdid : Did s s' sent) (heach : List.Forall₂ (Object.AppliedAs serving ns) planned sent)
    (hkept : ∀ body, s.workload? ns name = some body → Object.KeptAs ns name body)
    (hx : x.IsOf name) (hplace : x.metadata.namespaceName = some ns.datapath)
    (hlive : LiveOf s ns false name liveTier)
    (hone : planned.filter (·.bears name) = Object.holdBack false liveTier [x]) {before : Json}
    (hbefore : s.workload? ns name = some before) :
    ∃ after, s'.workload? ns name = some after ∧ before.SameButBookkeeping after := by
  obtain ⟨o, hread, rfl⟩ := hlive.of_stored rfl before hbefore
  obtain ⟨htype, hnamespace, hname, ms, metadata, rfl, hcopy⟩ :=
    (hkept _ hbefore).copyOf (distinct_find? hbefore) hread
  have hsame : x.sameIdentity o.forReapply = true :=
    hx.sameIdentity ⟨htype, hname⟩ (hplace.trans hnamespace.symm)
  rw [Object.holdBack, Object.replaceIn, if_pos hsame] at hone
  have hstored := find?_of_one hdid heach hone htype hnamespace hname
  have hbody : s.find? .daemonSet ns.datapath name = some (.object ms) := hbefore
  rw [hbody] at hstored
  exact ⟨_, hstored, s.serving.storing.settle_copy hcopy⟩

end Server

/-! ## An upgrade whose master is held back -/

/-- The members of a rendered workload. -/
def renderedMembers (name : String) : Members :=
  [("apiVersion", .text "apps/v1"), ("kind", .text "DaemonSet"),
    ("metadata", .object [("name", .text name), ("namespace", .text "openshift-ovn-kubernetes")]),
    ("spec", .object [("selector", .object []), ("template", .object [])])]

def renderedWorkload (name : String) : Object :=
  { type := some Object.daemonSetType
    metadata := { name := some name, namespaceName := some "openshift-ovn-kubernetes" }
    data := [("spec", .object [("selector", .object []), ("template", .object [])])] }

/-- The binding of a role in the whole cluster. -/
def Kind.clusterRoleBinding : Kind :=
  ⟨"rbac.authorization.k8s.io/v1", "ClusterRoleBinding", "clusterrolebindings", false⟩

/-- A server that merges, and has cluster role bindings, too. -/
def bindingServing : Serving where
  kinds := .clusterRoleBinding :: Kind.all
  storing := .merges

/-- A config map, the binding of a role, and the workloads of the tiers. -/
def renderedObjects : List Object :=
  { type := some ⟨"v1", "ConfigMap"⟩, metadata := { name := some "ovnkube-config" } } ::
    { type := some ⟨"rbac.authorization.k8s.io/v1", "ClusterRoleBinding"⟩
      metadata := { name := some "ovnkube-node" } } ::
    Object.workloadNames.map renderedWorkload

theorem distinct_renderedMembers (name : String) :
    (Json.object (renderedMembers name)).Distinct := by
  have hnames : ["apiVersion", "kind", "metadata", "spec"].Nodup := by decide
  have hmetadata : ["name", "namespace"].Nodup := by decide
  refine .object hnames ?_
  unfold renderedMembers
  simp only [List.forall_mem_cons]
  refine ⟨.plain rfl, .plain rfl, .object hmetadata ?_, .object (by decide) ?_, nofun⟩
  · simp only [List.forall_mem_cons]
    exact ⟨.plain rfl, .plain rfl, nofun⟩
  · simp only [List.forall_mem_cons]
    exact ⟨.object List.nodup_nil nofun, .object List.nodup_nil nofun, nofun⟩

theorem ofJson?_renderedMembers (name : String) :
    Object.ofJson? (.object (renderedMembers name)) = some (renderedWorkload name) := by
  have hsorted : Object.sortMembers (renderedMembers name) = renderedMembers name :=
    List.mergeSort_of_pairwise (by simp [renderedMembers])
  unfold Object.ofJson?
  dsimp only
  rw [hsorted]
  rfl

theorem renderedObjects_renderedAs {name : String} (hname : name ∈ Object.workloadNames) :
    Object.RenderedAs {} name renderedObjects (renderedWorkload name) := by
  refine ⟨?_, ⟨rfl, rfl⟩, rfl,
    ⟨_, distinct_renderedMembers name, ofJson?_renderedMembers name⟩, ?_⟩
  · rcases Object.mem_workloadNames.mp hname with rfl | rfl | rfl <;> rfl
  · rfl

theorem oldServer_keptAs (serving : Serving) {name : String} (hname : name ∈ Object.workloadNames)
    (body : Json) (h : (Object.oldServer serving).workload? {} name = some body) :
    Object.KeptAs {} name body := by
  rcases Object.mem_workloadNames.mp hname with rfl | rfl | rfl
  · cases h
    refine ⟨rfl, _, Object.ofJson?_oldMaster, rfl, rfl, rfl, ?_⟩
    exact @List.perm_append_comm _ [("name", _), ("namespace", _)] [("annotations", _)]
  · cases h
  · cases h

end NetworkRollout
