import NetworkRollout.Proofs.Apply.Applier

/-!
# Holding tiers back

A tier that is held back is to keep its workload: the plan puts the live object in the place of the
rendered one. The place is found by identity, that is by group, kind, written namespace and name.
A request is less particular: an object without a namespace goes to the namespace of the datapath,
an object without a name goes by the name that names are generated from, and every object of the
plan is sent, however many go to one workload.

* `LiveTiers.HeldBack`: the live object that was read for a tier that is held back.
* `Object.named_plan`: under the name of such a tier, a plan only replaces by the live object.
* `Object.plan_onlySends_iff`: the live object is all that the workload gets exactly when, the first
  of its identity apart, no other rendered object is sent there.
* `Object.not_plan_only_live`: a rendered object may get past its live object.
-/

namespace NetworkRollout

/-- The live object of a tier that is held back, with the name of its workload. -/
inductive LiveTiers.HeldBack (live : LiveTiers) : String → Object → Prop
  | master {m : Object} : live.master = some m → live.HeldBack Names.masterWorkload m
  | node {n : Object} : live.node = some n → live.HeldBack Names.nodeWorkload n

/-! ## Plans -/

namespace Object

variable {r o : Object} {name other : String}

/-- What a replacement makes of objects: itself, and all but the first of its identity. -/
theorem mem_replaceIn {os : List Object} :
    o ∈ r.replaceIn os ↔ o = r ∨ o ∈ os.eraseP (·.sameIdentity r) := by
  induction os with
  | nil => simp [replaceIn]
  | cons p os ih =>
    unfold replaceIn
    cases hp : p.sameIdentity r with
    | true => simp [hp]
    | false =>
      simp only [Bool.false_eq_true, if_false, List.mem_cons, ih, List.eraseP_cons, hp,
        cond_false]
      exact or_left_comm

theorem anyName_of_name (h : o.metadata.name = some name) : o.anyName = name := by
  unfold anyName
  rw [h]
  rfl

theorem anyName_of_sameIdentity (hr : r.metadata.name = some name)
    (h : o.sameIdentity r = true) : o.anyName = name := by
  simp only [sameIdentity, Bool.and_eq_true, decide_eq_true_eq] at h
  exact anyName_of_name (h.2.trans hr)

@[simp] theorem sameIdentity_self (o : Object) : o.sameIdentity o = true := by
  simp [sameIdentity]

/-- Where no object of its identity is looked at, a replacement is not noticed. -/
theorem filter_replaceIn_of_not {p : Object → Bool}
    (hsame : ∀ o : Object, o.sameIdentity r = true → p o = false) (os : List Object) :
    (r.replaceIn os).filter p = os.filter p := by
  have hr : ¬ p r = true := by
    rw [hsame r (sameIdentity_self r)]
    exact Bool.false_ne_true
  induction os with
  | nil => exact List.filter_cons_of_neg hr
  | cons q os ih =>
    unfold replaceIn
    split
    case isTrue hq =>
      have hq' : ¬ p q = true := by
        rw [hsame q hq]
        exact Bool.false_ne_true
      rw [List.filter_cons_of_neg hr, List.filter_cons_of_neg hq']
    case isFalse => rw [List.filter_cons, List.filter_cons, ih]

/-- Where all objects of its identity are looked at, a replacement does what it does among all. -/
theorem filter_replaceIn {p : Object → Bool}
    (hsame : ∀ o : Object, o.sameIdentity r = true → p o = true) (os : List Object) :
    (r.replaceIn os).filter p = r.replaceIn (os.filter p) := by
  have hr : p r = true := hsame r (sameIdentity_self r)
  induction os with
  | nil => exact List.filter_cons_of_pos hr
  | cons q os ih =>
    by_cases hq : q.sameIdentity r = true
    · rw [List.filter_cons_of_pos (hsame q hq), replaceIn, if_pos hq, List.filter_cons_of_pos hr,
        replaceIn, if_pos hq]
    · rw [replaceIn, if_neg hq]
      by_cases hp : p q = true
      · rw [List.filter_cons_of_pos hp, List.filter_cons_of_pos hp, ih, replaceIn, if_neg hq]
      · rw [List.filter_cons_of_neg hp, List.filter_cons_of_neg hp, ih]

theorem filter_holdBack_of_not {p : Object → Bool} {update : Bool} {live : Option Object}
    (hsame : ∀ r, live = some r → ∀ o : Object, o.sameIdentity r = true → p o = false)
    (os : List Object) : (holdBack update live os).filter p = os.filter p := by
  unfold holdBack
  split
  case h_1 r => exact filter_replaceIn_of_not (hsame r rfl) os
  case h_2 => rfl

theorem filter_holdBack {p : Object → Bool} {update : Bool} {live : Option Object}
    (hsame : ∀ r, live = some r → ∀ o : Object, o.sameIdentity r = true → p o = true)
    (os : List Object) :
    (holdBack update live os).filter p = holdBack update live (os.filter p) := by
  unfold holdBack
  split
  case h_1 r => exact filter_replaceIn (hsame r rfl) os
  case h_2 => rfl

/-- The objects that are sent under a name. -/
def named (name : String) (os : List Object) : List Object := os.filter (·.anyName = name)

theorem mem_named {os : List Object} : o ∈ named name os ↔ o ∈ os ∧ o.anyName = name := by
  simp [named]

/-- Among the objects under its own name a replacement does what it does among all. -/
theorem named_replaceIn (hr : r.metadata.name = some name) (os : List Object) :
    named name (r.replaceIn os) = r.replaceIn (named name os) :=
  filter_replaceIn (fun _ ho => decide_eq_true (anyName_of_sameIdentity hr ho)) os

/-- A replacement of another name is not noticed under a name. -/
theorem named_holdBack_of_ne {update : Bool} {live : Option Object}
    (hlive : ∀ r, live = some r → r.metadata.name = some other) (hne : other ≠ name)
    (os : List Object) : named name (holdBack update live os) = named name os := by
  refine filter_holdBack_of_not (fun r hr o ho => decide_eq_false ?_) os
  rw [anyName_of_sameIdentity (hlive r hr) ho]
  exact hne

/-- Leaving out the pre-puller is not noticed under another name. -/
theorem named_withoutPrepuller (hne : name ≠ Names.prepullerWorkload) (os : List Object) :
    named name (os.filter (!·.isWorkload Names.prepullerWorkload)) = named name os := by
  unfold named
  rw [List.filter_filter]
  refine List.filter_congr ?_
  intro o _
  by_cases ho : o.anyName = name
  · have hkept : o.isWorkload Names.prepullerWorkload = false := by
      refine Bool.eq_false_iff.mpr ?_
      intro h
      simp only [isWorkload, Bool.and_eq_true, decide_eq_true_eq] at h
      exact hne (ho.symm.trans (anyName_of_name h.2))
    simp [hkept]
  · simp [ho]

/-- Under the name of a tier that is held back, a plan only replaces by the live object. -/
theorem named_plan {faults : Faults} {ns : Namespaces} {decision : Decision} {s s' : Server}
    {live : LiveTiers} {m : Object} (hs : s.NamesObjects)
    (hlive : s.liveTiers faults ns decision = (.ok live, s')) (hm : live.HeldBack name m)
    (os : List Object) :
    named name (plan os decision live) = named name (m.replaceIn os) := by
  obtain ⟨hmaster, hnode⟩ := Server.liveTiers_names hs hlive
  have hheld : named name (plan os decision live) = named name
      (holdBack decision.updateNode live.node
        (holdBack decision.updateMaster live.master os)) := by
    unfold plan
    dsimp only
    split
    · rfl
    · refine named_withoutPrepuller ?_ _
      cases hm <;> decide
  rw [hheld]
  cases hm with
  | master h =>
    -- the node is put in after the master, under another name
    obtain ⟨hupdate, -⟩ := hmaster m h
    rw [named_holdBack_of_ne (fun n hn => (hnode n hn).2) (by decide), hupdate, h, holdBack]
  | node h =>
    -- the master was put in before, so its replacement is met under the node's
    obtain ⟨hupdate, hname⟩ := hnode m h
    rw [hupdate, h, holdBack, named_replaceIn hname, named_replaceIn hname,
      named_holdBack_of_ne (fun r hr => (hmaster r hr).2) (by decide)]

/-! ## What a workload gets -/

/-- Whatever is sent to the workload of a name is one and the same object. -/
def OnlySends (daemonSet : ObjectType → Prop) (ns : Namespaces) (name : String) (m : Object)
    (os : List Object) : Prop :=
  ∀ o ∈ os, o.SentTo daemonSet ns name → o = m

theorem onlySends_congr {daemonSet : ObjectType → Prop} {ns : Namespaces} {m : Object}
    {os os' : List Object} (h : named name os = named name os') :
    OnlySends daemonSet ns name m os ↔ OnlySends daemonSet ns name m os' := by
  have key : ∀ {os os' : List Object}, named name os = named name os' →
      OnlySends daemonSet ns name m os → OnlySends daemonSet ns name m os' := by
    intro os os' h hos o ho hsent
    have hmem : o ∈ named name os := by
      rw [h]
      exact mem_named.mpr ⟨ho, hsent.2.2⟩
    exact hos o (mem_named.mp hmem).1 hsent
  exact ⟨key h, key h.symm⟩

theorem onlySends_replaceIn {daemonSet : ObjectType → Prop} {ns : Namespaces} {m : Object}
    {os : List Object} :
    OnlySends daemonSet ns name m (m.replaceIn os) ↔
      OnlySends daemonSet ns name m (os.eraseP (·.sameIdentity m)) := by
  constructor
  · intro h o ho
    exact h o (mem_replaceIn.mpr (Or.inr ho))
  · intro h o ho hsent
    rcases mem_replaceIn.mp ho with rfl | ho
    · rfl
    · exact h o ho hsent

/-- **What the workload of a tier that is held back gets.** It gets nothing but the live object
exactly when the rendered objects, without the first of the live object's identity, send nothing
else there. Whichever objects are applied before the first failure, only the live object is then
written. -/
theorem plan_onlySends_iff {faults : Faults} {ns : Namespaces} {decision : Decision}
    {s s' : Server} {live : LiveTiers} {m : Object} (hs : s.NamesObjects)
    (hlive : s.liveTiers faults ns decision = (.ok live, s')) (hm : live.HeldBack name m)
    (os : List Object) :
    (∀ daemonSet, OnlySends daemonSet ns name m (plan os decision live) ↔
        OnlySends daemonSet ns name m (os.eraseP (·.sameIdentity m))) ∧
      (OnlySends (Server.Discovers · .daemonSet) ns name m (os.eraseP (·.sameIdentity m)) →
        ∀ faults t answer t',
          Server.applyAll faults ns (plan os decision live) t = (answer, t') →
          ∀ body, Server.workloadWrite ns name body ∈ t'.writes →
            Server.workloadWrite ns name body ∈ t.writes ∨ body = m.toJson) := by
  have hiff : ∀ daemonSet, OnlySends daemonSet ns name m (plan os decision live) ↔
      OnlySends daemonSet ns name m (os.eraseP (·.sameIdentity m)) := by
    intro daemonSet
    rw [onlySends_congr (named_plan hs hlive hm os), onlySends_replaceIn]
  refine ⟨hiff, ?_⟩
  intro honly faults t answer t' hrun body hbody
  rcases Server.applyAll_written hrun hbody with hold | ⟨o, ho, hsent, rfl⟩
  · exact Or.inl hold
  · rw [(hiff _).mpr honly o ho hsent]
    exact Or.inr rfl

/-! ## A rendered object without a namespace -/

/-- The members of the master's workload on 4.10.0. -/
def oldMasterMembers : Members :=
  [("apiVersion", .text "apps/v1"), ("kind", .text "DaemonSet"),
    ("metadata", .object
      [("annotations", .object [(Names.releaseKey, .text "4.10.0")]),
        ("name", .text Names.masterWorkload), ("namespace", .text "openshift-ovn-kubernetes")]),
    ("spec", .object [("selector", .object []), ("template", .object [])])]

/-- The master's workload on a release, as it is written with or without a namespace. -/
def masterOn (release : String) (namespaceName : Option String) : Object :=
  { type := some ⟨"apps/v1", "DaemonSet"⟩
    metadata :=
      { name := some Names.masterWorkload, namespaceName
        annotations := some [(Names.releaseKey, release)] }
    data := [("spec", .object [("selector", .object []), ("template", .object [])])] }

/-- The live master. -/
def oldMaster : Object := masterOn "4.10.0" (some "openshift-ovn-kubernetes")

/-- A server that holds the master on 4.10.0. -/
def oldServer (serving : Serving) : Server :=
  { objects :=
      [⟨.daemonSet, "openshift-ovn-kubernetes", Names.masterWorkload, .object oldMasterMembers⟩]
    serving }

theorem ofJson?_oldMaster : ofJson? (.object oldMasterMembers) = some oldMaster := by
  have hsorted : sortMembers oldMasterMembers = oldMasterMembers :=
    List.mergeSort_of_pairwise (by decide)
  unfold ofJson?
  dsimp only
  rw [hsorted]
  rfl

theorem oldServer_namesObjects (serving : Serving) : (oldServer serving).NamesObjects := by
  intro stored hstored o ho
  rw [List.mem_singleton.mp hstored] at ho ⊢
  change ofJson? (.object oldMasterMembers) = some o at ho
  rw [ofJson?_oldMaster] at ho
  cases ho
  rfl

/-- The server once its master was asked for. -/
def askedServer (serving : Serving) : Server :=
  { oldServer serving with requests := [⟨.get, Kind.daemonSet.plural, Names.masterWorkload⟩] }

/-- A decision that holds the master back. -/
def holdMaster : Decision := { updateNode := true }

theorem oldServer_liveTiers (serving : Serving) :
    (oldServer serving).liveTiers (fun _ _ => none) {} holdMaster =
      (.ok { master := some oldMaster }, askedServer serving) := by
  have hget : (oldServer serving).getIfExists (fun _ _ => none) .daemonSet
      "openshift-ovn-kubernetes" Names.masterWorkload =
        (.ok (some (.object oldMasterMembers)), askedServer serving) := rfl
  have hread : (oldServer serving).readIfExists (fun _ _ => none) .daemonSet
      "openshift-ovn-kubernetes" Names.masterWorkload
      ("Failed to get DaemonSet " ++ Names.masterWorkload) ofJson? =
        (.ok (some oldMaster), askedServer serving) := by
    unfold Server.readIfExists
    rw [hget]
    dsimp only
    rw [ofJson?_oldMaster]
  have htier : (oldServer serving).liveTier (fun _ _ => none) {} false Names.masterWorkload =
      (.ok (some oldMaster), askedServer serving) := by
    unfold Server.liveTier
    rw [if_neg Bool.false_ne_true]
    dsimp only
    rw [hread]
    rfl
  unfold Server.liveTiers holdMaster
  dsimp only
  rw [htier]
  rfl

/-- The rendered master is replaced by the live one when it is written with its namespace. -/
theorem oldMaster_held :
    ((oldServer .usual).NamesObjects ∧
      (oldServer .usual).liveTiers (fun _ _ => none) {} holdMaster =
        (.ok { master := some oldMaster }, askedServer .usual) ∧
      LiveTiers.HeldBack { master := some oldMaster } Names.masterWorkload oldMaster) ∧
      OnlySends (Server.Discovers · .daemonSet) {} Names.masterWorkload oldMaster
        (plan [masterOn "4.11.0" (some "openshift-ovn-kubernetes")] holdMaster
          { master := some oldMaster }) ∧
      ∀ faults t answer t', Server.applyAll faults {}
          (plan [masterOn "4.11.0" (some "openshift-ovn-kubernetes")] holdMaster
            { master := some oldMaster }) t = (answer, t') →
        ∀ body, Server.workloadWrite {} Names.masterWorkload body ∈ t'.writes →
          Server.workloadWrite {} Names.masterWorkload body ∈ t.writes ∨
            body = oldMaster.toJson := by
  have hheld : LiveTiers.HeldBack { master := some oldMaster } Names.masterWorkload oldMaster :=
    .master rfl
  obtain ⟨hiff, hwritten⟩ := plan_onlySends_iff (oldServer_namesObjects .usual)
    (oldServer_liveTiers .usual) hheld [masterOn "4.11.0" (some "openshift-ovn-kubernetes")]
  have honly : OnlySends (Server.Discovers · .daemonSet) {} Names.masterWorkload oldMaster
      ([masterOn "4.11.0" (some "openshift-ovn-kubernetes")].eraseP
        (·.sameIdentity oldMaster)) := by
    have hnone : [masterOn "4.11.0" (some "openshift-ovn-kubernetes")].eraseP
        (·.sameIdentity oldMaster) = [] := by decide
    rw [hnone]
    intro o ho
    cases ho
  exact ⟨⟨oldServer_namesObjects .usual, oldServer_liveTiers .usual, hheld⟩, (hiff _).mpr honly,
    hwritten honly⟩

/-- A rendered master without a namespace gets past the live one: its identity is another, and it
is sent to the same workload. -/
theorem not_plan_only_live :
    ¬ ∀ faults ns decision s s' live name m os, Server.NamesObjects s →
      s.liveTiers faults ns decision = (.ok live, s') → live.HeldBack name m →
      OnlySends (Server.Discovers · .daemonSet) ns name m (plan os decision live) := by
  intro h
  have honly := h (fun _ _ => none) {} holdMaster (oldServer .usual) _ _ _ _
    [masterOn "4.11.0" none] (oldServer_namesObjects .usual) (oldServer_liveTiers .usual)
    (.master rfl)
  have hplan : plan [masterOn "4.11.0" none] holdMaster { master := some oldMaster } =
      [masterOn "4.11.0" none, oldMaster] := rfl
  have hsent : (masterOn "4.11.0" none).SentTo (Server.Discovers · .daemonSet) {}
      Names.masterWorkload := by
    refine ⟨⟨_, rfl, fun _ _ => none, {}, _, rfl⟩, rfl, rfl⟩
  rw [hplan] at honly
  have hlive : masterOn "4.11.0" none = oldMaster := honly _ List.mem_cons_self hsent
  have hnamespace := congrArg (·.metadata.namespaceName) hlive
  cases hnamespace

end Object

end NetworkRollout
