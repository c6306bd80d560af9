import NetworkRollout.Proofs.Apply.Settlement

/-!
# Live objects sent again

A tier that is held back is sent as it was read, without what the server keeps about it. So sending
it changes nothing of the stored workload but that, whether the server replaces what it holds or
merges what it is sent into that.

* `Object.KeptAs`: how a server keeps a workload.
* `Storing.settle_copy`: a copy of a workload changes nothing.
* `Server.LiveOf`, `Server.liveOf_of_liveTiers`: what is read of the tiers that are held back.
-/

namespace NetworkRollout

/-- Two objects have the same fields, but for what the server keeps about them. -/
structure Json.SameButBookkeeping (before after : Json) : Prop where
  fields : ∀ name, name ≠ "metadata" →
    Members.get? after.members name = Members.get? before.members name
  metadata : ∀ name, name ∉ Metadata.bookkeeping →
    Members.get? (after.field "metadata").members name =
      Members.get? (before.field "metadata").members name

theorem Json.SameButBookkeeping.refl (j : Json) : j.SameButBookkeeping j :=
  ⟨fun _ _ => rfl, fun _ _ => rfl⟩

theorem Metadata.exists_members_of_name {j : Json} {m : Metadata} {name : String}
    (h : ofJson? j = some m) (hname : m.name = some name) : ∃ ms, j = .object ms := by
  cases j with
  | null =>
    cases h
    cases hname
  | object ms => exact ⟨ms, rfl⟩
  | _ => cases h

namespace Object

/-- How a server keeps a workload: it says what it is and where it is, its metadata are written as
they read, and it reads as a tier. -/
structure KeptAs (ns : Namespaces) (name : String) (body : Json) : Prop where
  tier : (Tier.ofWorkload? body).isSome
  object : ∃ o, ofJson? body = some o ∧ o.type = some daemonSetType ∧
    o.metadata.namespaceName = some ns.datapath ∧ o.metadata.name = some name ∧
    o.metadata.toJson.members.Perm (body.field "metadata").members

/-- What a workload is read from, and what its copy is written with. -/
structure CopyOf (ms metadata : Members) (o : Object) : Prop where
  distinct : (Json.object ms).Distinct
  read : o.ReadFrom ms daemonSetType
  stored : ms.get? "metadata" = some (.object metadata)
  written : o.metadata.toJson.members.Perm metadata

theorem KeptAs.copyOf {ns : Namespaces} {name : String} {body : Json} {o : Object}
    (h : KeptAs ns name body) (hdistinct : body.Distinct) (hread : ofJson? body = some o) :
    o.type = some daemonSetType ∧ o.metadata.namespaceName = some ns.datapath ∧
      o.metadata.name = some name ∧ ∃ ms metadata, body = .object ms ∧ CopyOf ms metadata o := by
  obtain ⟨_, hread', htype, hnamespace, hname, hperm⟩ := h.object
  cases hread.symm.trans hread'
  cases body with
  | object ms =>
    have hfrom := readFrom_of_ofJson? hdistinct hread htype
    obtain ⟨metadata, hmetadata⟩ := Metadata.exists_members_of_name hfrom.metadata hname
    have hstored : Members.get? ms "metadata" = some (.object metadata) := by
      unfold Members.getD at hmetadata
      cases hvalue : Members.get? ms "metadata" with
      | none =>
        rw [hvalue] at hmetadata
        cases hmetadata
      | some value =>
        rw [hvalue] at hmetadata
        exact congrArg some hmetadata
    have hfield : (Json.object ms).field "metadata" = .object metadata := hmetadata
    rw [hfield] at hperm
    exact ⟨htype, hnamespace, hname, ms, metadata, rfl, hdistinct, hfrom, hstored, hperm⟩
  | _ => cases hread

namespace CopyOf

variable {ms metadata : Members} {o : Object} {name : String}

theorem metadata_distinct (h : CopyOf ms metadata o) : (Json.object metadata).Distinct :=
  h.distinct.of_get? h.stored

theorem typed (h : CopyOf ms metadata o) : o.forReapply.type = some daemonSetType := h.read.typed

/-- The fields of a copy are those of the stored object, but for the status. -/
theorem get?_data (h : CopyOf ms metadata o) (hname : name ∉ headNames)
    (hstatus : name ≠ "status") :
    o.forReapply.data.get? name = ms.get? name :=
  (Members.get?_erase_of_ne hstatus _).trans (h.read.data name hname)

theorem get?_status (h : CopyOf ms metadata o) :
    Members.get? o.forReapply.toJson.members "status" = none := by
  rw [get?_toJson_of_not_head h.typed (by decide)]
  exact Members.get?_erase_self _ _

/-- Metadata that are sent again lack what the server keeps about them. -/
theorem get?_metadata (h : CopyOf ms metadata o) (hname : name ∉ Metadata.bookkeeping) :
    Members.get? o.forReapply.metadata.toJson.members name = Members.get? metadata name := by
  change Members.get? o.metadata.withoutBookkeeping.toJson.members name = _
  rw [Metadata.get?_withoutBookkeeping hname]
  exact Members.get?_of_perm h.metadata_distinct.names h.written name

/-- A copy gives no name twice. -/
theorem distinct_toJson (h : CopyOf ms metadata o) : o.forReapply.toJson.Distinct := by
  obtain ⟨⟨hannotations, -, hothers, hnames⟩, hhead, hdata⟩ := h.read.wellFormed h.distinct
  have hcopy : o.forReapply.WellFormed :=
    { metadata := ⟨hannotations, nofun, hothers, hnames⟩
      head := fun name hname => by
        have hne : name ≠ "status" := by
          rintro rfl
          revert hname
          decide
        exact (Members.get?_erase_of_ne hne _).trans (hhead name hname)
      data := hdata.erase "status" }
  exact hcopy.distinct h.typed

/-- All metadata that are merged of a copy are stored, so merging them changes nothing. -/
theorem layOver_metadata (h : CopyOf ms metadata o) :
    (Json.object metadata).layOver (Storing.mergeableMetadata o.forReapply.metadata.toJson) =
      .object metadata := by
  refine congrArg Json.object (Json.layMembers_of_part fun m hm => ?_)
  have hsent : m ∈ o.metadata.withoutBookkeeping.toJson.members := List.mem_of_mem_filter hm
  have hstored : m ∈ metadata :=
    h.written.subset (o.metadata.members_withoutBookkeeping_sublist.subset hsent)
  exact ⟨m.2, Members.get?_of_mem h.metadata_distinct.names hstored,
    Json.layOver_self (h.metadata_distinct.each m hstored)⟩

/-- Merging a copy into what is stored changes nothing at all. -/
theorem layOver_eq (h : CopyOf ms metadata o) :
    (Json.object ms).layOver (Storing.mergeable o.forReapply.toJson) = .object ms := by
  refine Json.layOver_of_part (Storing.distinct_mergeable h.distinct_toJson)
    (Storing.isObject_mergeable _) fun name value hvalue => ?_
  -- what is no metadata is sent as it is stored
  have hplain : ms.get? name = some value →
      ∃ stored, Members.get? ms name = some stored ∧ stored.layOver value = stored :=
    fun hstored => ⟨value, hstored, Json.layOver_self (h.distinct.of_get? hstored)⟩
  by_cases hstatus : name = "status"
  · rw [hstatus, Storing.get?_mergeable_status] at hvalue
    cases hvalue
  by_cases hmetadata : name = "metadata"
  · rw [hmetadata, Storing.get?_mergeable_metadata, get?_toJson_metadata h.typed] at hvalue
    cases hvalue
    rw [hmetadata]
    exact ⟨_, h.stored, h.layOver_metadata⟩
  · rw [Storing.get?_mergeable_of_ne hstatus hmetadata] at hvalue
    by_cases hhead : name ∈ headNames
    · simp only [headNames, List.mem_cons, List.not_mem_nil, or_false] at hhead
      rcases hhead with rfl | rfl | rfl
      · rw [get?_toJson_apiVersion h.typed] at hvalue
        exact hplain (h.read.apiVersion.trans hvalue)
      · rw [get?_toJson_kind h.typed] at hvalue
        exact hplain (h.read.kind.trans hvalue)
      · exact absurd rfl hmetadata
    · rw [get?_toJson_of_not_head h.typed hhead, h.get?_data hhead hstatus] at hvalue
      exact hplain hvalue

/-- The fields of a copy with the status that is stored. -/
theorem same_of_status (h : CopyOf ms metadata o) {after : Members}
    (hstatus : after.get? "status" = ms.get? "status")
    (hother : ∀ name, name ≠ "status" →
      after.get? name = Members.get? o.forReapply.toJson.members name) :
    (Json.object ms).SameButBookkeeping (.object after) where
  fields name hname := by
    change after.get? name = ms.get? name
    by_cases hstatusName : name = "status"
    · rw [hstatusName, hstatus]
    · rw [hother name hstatusName]
      by_cases hhead : name ∈ headNames
      · simp only [headNames, List.mem_cons, List.not_mem_nil, or_false] at hhead
        rcases hhead with rfl | rfl | rfl
        · rw [get?_toJson_apiVersion h.typed, h.read.apiVersion]
        · rw [get?_toJson_kind h.typed, h.read.kind]
        · exact absurd rfl hname
      · rw [get?_toJson_of_not_head h.typed hhead]
        exact h.get?_data hhead hstatusName
  metadata name hname := by
    have hafter : (Json.object after).field "metadata" = o.forReapply.metadata.toJson :=
      congrArg (·.getD .null) ((hother _ (by decide)).trans (get?_toJson_metadata h.typed))
    have hbefore : (Json.object ms).field "metadata" = .object metadata :=
      congrArg (·.getD .null) h.stored
    rw [hafter, hbefore]
    exact h.get?_metadata hname

end CopyOf

end Object

/-- Sending a workload again changes nothing but what the server keeps about it. -/
theorem Storing.settle_copy (storing : Storing) {ms metadata : Members} {o : Object}
    (h : Object.CopyOf ms metadata o) :
    (Json.object ms).SameButBookkeeping
      (storing.settle (some (.object ms)) o.forReapply.toJson) := by
  unfold settle
  rw [h.distinct_toJson.dedup_eq]
  cases storing with
  | replaces =>
    change (Json.object ms).SameButBookkeeping (replaced (some (.object ms)) _)
    have hbind : (some (Json.object ms)).bind (Members.get? ·.members "status") =
        ms.get? "status" := rfl
    unfold replaced
    rw [h.get?_status, hbind]
    cases hstatus : ms.get? "status" with
    | none => exact h.same_of_status (h.get?_status.trans hstatus.symm) fun _ _ => rfl
    | some status =>
      exact h.same_of_status ((Members.get?_insert_self _ _ _).trans hstatus.symm)
        fun _ hne => Members.get?_insert_of_ne hne _ _
  | merges =>
    change (Json.object ms).SameButBookkeeping ((Json.object ms).layOver (mergeable _))
    rw [h.layOver_eq]
    exact .refl _

/-! ## What is read of tiers -/

/-- No fault tells that something does not exist. -/
def Faults.Honest (faults : Faults) : Prop :=
  ∀ n request e, faults n request = some e → e.code ≠ ApiError.notFoundCode

namespace Server

variable {faults : Faults} {ns : Namespaces} {s s' : Server} {update : Bool} {name : String}
  {live : Option Object}

/-- The live object of a tier that is held back is a copy of the stored workload, and there is one
if there is a stored workload. -/
structure LiveOf (s : Server) (ns : Namespaces) (update : Bool) (name : String)
    (live : Option Object) : Prop where
  of_live : ∀ m, live = some m → update = false ∧
    ∃ body o, s.find? .daemonSet ns.datapath name = some body ∧ Object.ofJson? body = some o ∧
      m = o.forReapply
  of_stored : update = false → ∀ body, s.find? .daemonSet ns.datapath name = some body →
    ∃ o, Object.ofJson? body = some o ∧ live = some o.forReapply

/-- What does not exist is told apart from what cannot be read. -/
theorem getIfExists_ok (hfaults : faults.Honest) {kind : Kind} {namespaceName : String}
    {found : Option Json}
    (h : getIfExists faults kind namespaceName name s = (.ok found, s')) :
    found = s.find? kind namespaceName name := by
  unfold getIfExists get serve at h
  dsimp only at h
  cases hfault : faults s.requests.length ⟨.get, kind.plural, name⟩ with
  | some e =>
    rw [hfault] at h
    dsimp only at h
    rw [if_neg (hfaults _ _ e hfault)] at h
    cases h
  | none =>
    rw [hfault] at h
    dsimp only at h
    have hsame : find? { s with requests := s.requests ++ [⟨.get, kind.plural, name⟩] } kind
        namespaceName name = s.find? kind namespaceName name := find?_congr rfl
    rw [hsame] at h
    cases hfound : s.find? kind namespaceName name with
    | some body =>
      rw [hfound] at h
      cases h
      rfl
    | none =>
      rw [hfound] at h
      cases h
      rfl

theorem liveOf_of_liveTier (hfaults : faults.Honest)
    (h : liveTier faults ns update name s = (.ok live, s')) : LiveOf s ns update name live := by
  unfold liveTier at h
  cases update with
  | true =>
    cases h
    exact ⟨by rintro m ⟨⟩, by rintro ⟨⟩⟩
  | false =>
    rw [if_neg Bool.false_ne_true] at h
    dsimp only at h
    unfold readIfExists at h
    cases hget : getIfExists faults .daemonSet ns.datapath name s with
    | mk found middle =>
      rw [hget] at h
      cases found with
      | error e => cases h
      | ok found =>
        have hfound := getIfExists_ok hfaults hget
        cases found with
        | none =>
          cases h
          refine ⟨by rintro m ⟨⟩, fun _ body hbody => ?_⟩
          rw [hbody] at hfound
          cases hfound
        | some body =>
          dsimp only at h
          cases hread : Object.ofJson? body with
          | none =>
            rw [hread] at h
            cases h
          | some o =>
            rw [hread] at h
            cases h
            refine ⟨?_, fun _ other hother => ?_⟩
            · rintro m ⟨⟩
              exact ⟨rfl, body, o, hfound.symm, hread, rfl⟩
            · cases hfound.trans hother
              exact ⟨o, hread, rfl⟩

theorem liveOf_of_liveTiers (hfaults : faults.Honest) {decision : Decision} {live : LiveTiers}
    (h : liveTiers faults ns decision s = (.ok live, s')) :
    LiveOf s ns decision.updateMaster Names.masterWorkload live.master ∧
      LiveOf s ns decision.updateNode Names.nodeWorkload live.node := by
  unfold liveTiers at h
  have hdid := did_liveTier faults ns decision.updateMaster Names.masterWorkload s
  cases hmaster : liveTier faults ns decision.updateMaster Names.masterWorkload s with
  | mk master middle =>
    rw [hmaster] at h hdid
    cases master with
    | error e => cases h
    | ok master =>
      dsimp only at h
      cases hnode : liveTier faults ns decision.updateNode Names.nodeWorkload middle with
      | mk node after =>
        rw [hnode] at h
        cases node with
        | error e => cases h
        | ok node =>
          cases h
          -- the master was only read, so the node is read of the same objects
          have hsame : middle.find? .daemonSet ns.datapath Names.nodeWorkload =
              s.find? .daemonSet ns.datapath Names.nodeWorkload := find?_congr hdid.objects
          obtain ⟨hlive, hstored⟩ := liveOf_of_liveTier hfaults hnode
          rw [hsame] at hlive hstored
          exact ⟨liveOf_of_liveTier hfaults hmaster, hlive, hstored⟩

end Server

end NetworkRollout
