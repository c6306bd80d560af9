import NetworkRollout.Reconcile.Pass
import NetworkRollout.Proofs.Spec.RoundTrip
import NetworkRollout.Proofs.Status.RoundTrip

/-!
# The status after a merge

A pass sends the status that it has built as a merge patch. Fields that are left out of the patch
keep the value that is stored, so the stored status is the one that was built only as far as
nothing was emptied that the patch leaves out. The message is written as null when there is none
and never survives; the collectors and the addresses are left out, and survive.

* `RolloutStatus.Reads`: what a status is read from, field by field.
* `RolloutStatus.laidOver`: a status with the fields that its patch leaves out taken from another.
* `RolloutStatus.Reads.merge`: what is read after a merge.
* `RolloutStatus.DerivedFrom`: the statuses that a pass builds from a stored one.
* `NetworkObject.status_merged`: when the stored status is the one that was built.
-/

namespace NetworkRollout

open Json

namespace RolloutStatus

/-! ## Reading -/

/-- The members give no field twice, and each field is read from them. -/
structure Reads (ms : Members) (s : RolloutStatus) : Prop where
  repeats : repeats fieldNames ms = false
  observedGeneration :
    Fields.withDefault ms "observedGeneration" 0 i64? = some s.observedGeneration
  addresses : Fields.withDefault ms "masterAddresses" [] (listOf? text?) = some s.addresses
  initiator : Fields.optional ms "initiator" text? = some s.initiator
  decision : Fields.optional ms "decision" Decision.ofJson? = some s.decision
  nodeMode :
    Fields.optional ms "nodeMode" (fun j => j.word?.bind NodeMode.ofName?) = some s.nodeMode
  gatewayMode : Fields.optional ms "gatewayMode" (fun j => j.word?.bind GatewayMode.ofName?) =
    some s.gatewayMode
  ipfixCollectors : Fields.optional ms "ipfixCollectors" text? = some s.ipfixCollectors
  message : Fields.optional ms "message" text? = some s.message
  reconciledAt : Fields.optional ms "lastReconciledAt" Moment.ofJson? = some s.reconciledAt
  conditions :
    Fields.withDefault ms "conditions" [] (listOf? Condition.ofJson?) = some s.conditions

theorem ofJson?_object_iff {ms : Members} {s : RolloutStatus} :
    ofJson? (.object ms) = some s ↔ s.Reads ms := by
  constructor
  · intro h
    obtain ⟨fs, hfs, h⟩ := Option.bind_eq_some_iff.mp h
    have hrepeats : repeats fieldNames ms = false := repeats_members_of_fields? hfs
    rw [fields?_object hrepeats] at hfs
    cases hfs
    simp only [Option.bind_eq_bind, Option.bind_eq_some_iff] at h
    obtain ⟨_, h₁, _, h₂, _, h₃, _, h₄, _, h₅, _, h₆, _, h₇, _, h₈, _, h₉, _, h₁₀, heq⟩ := h
    cases heq
    exact ⟨hrepeats, h₁, h₂, h₃, h₄, h₅, h₆, h₇, h₈, h₉, h₁₀⟩
  · rintro ⟨hrepeats, h₁, h₂, h₃, h₄, h₅, h₆, h₇, h₈, h₉, h₁₀⟩
    refine bind_fields?_object hrepeats ?_
    simp only [h₁, h₂, h₃, h₄, h₅, h₆, h₇, h₈, h₉, h₁₀, Option.bind_eq_bind, Option.bind_some]
    rfl

/-- A status without members has its defaults. -/
theorem reads_nil : Reads [] {} :=
  ⟨rfl, rfl, rfl, rfl, rfl, rfl, rfl, rfl, rfl, rfl, rfl⟩

/-- A status that reads is written in an object, or in an array. -/
theorem eq_object_of_ofJson? {j : Json} {s : RolloutStatus} (hj : j.array? = none)
    (h : ofJson? j = some s) : j = .object j.members := by
  cases j with
  | object ms => rfl
  | array items => cases hj
  | _ => cases h

/-- What reads as a number of 64 bits is one. -/
theorem i64?_int {j : Json} {n : Int} (h : i64? j = some n) : i64? (.int n) = some n := by
  cases j with
  | int m =>
    have hm : m = n := by
      unfold i64? at h
      dsimp only at h
      split at h
      · exact Option.some.inj h
      · cases h
    rw [← hm] at h ⊢
    exact h
  | _ => cases h

theorem inRange_of_withDefault {fs : Fields} {name : String} {n : Int}
    (h : Fields.withDefault fs name 0 i64? = some n) : i64? (.int n) = some n := by
  unfold Fields.withDefault at h
  split at h
  case h_1 =>
    cases h
    rfl
  case h_2 j _ => exact i64?_int h

theorem generation_inRange {ms : Members} {s : RolloutStatus} (h : s.Reads ms) :
    i64? (.int s.observedGeneration) = some s.observedGeneration :=
  inRange_of_withDefault h.observedGeneration

/-- The generation of any status that reads is a number of 64 bits, however it is written. -/
theorem inRange_of_ofJson? {j : Json} {s : RolloutStatus} (h : ofJson? j = some s) :
    i64? (.int s.observedGeneration) = some s.observedGeneration := by
  obtain ⟨fs, -, h⟩ := Option.bind_eq_some_iff.mp h
  obtain ⟨generation, hread, h⟩ := Option.bind_eq_some_iff.mp h
  simp only [Option.bind_eq_bind, Option.bind_eq_some_iff] at h
  obtain ⟨_, -, _, -, _, -, _, -, _, -, _, -, _, -, _, -, _, -, heq⟩ := h
  cases heq
  exact inRange_of_withDefault hread

/-! ## What a status is written with -/

@[simp] theorem named_whenAny {α : Type} {name : String} (write : α → Json) (items : List α) :
    Named name (whenAny name write items) := by
  intro p hp
  unfold whenAny at hp
  split at hp
  · cases hp
  · cases hp
    rfl

@[simp] theorem notNamed_whenAny {α : Type} {name other : String} (h : other ≠ name)
    (write : α → Json) (items : List α) : NotNamed name (whenAny other write items) := by
  intro p hp
  rw [named_whenAny write items p hp]
  exact h

@[simp] theorem lookup_whenAny {α : Type} {name : String} (write : α → Json) (items : List α)
    {ms : List (Option (String × Json))} (hms : ∀ m ∈ ms, NotNamed name m) :
    List.lookup name (written (whenAny name write items :: ms)) =
      if items = [] then none else some (ofList write items) := by
  cases items with
  | nil =>
    change List.lookup name (written ms) = none
    exact lookup_eq_none hms
  | cons a items => exact lookup_always _

/-- The members that a status is written with, those that are left out among them. -/
def memberList (s : RolloutStatus) : List (Option (String × Json)) :=
  [always "observedGeneration" (.int s.observedGeneration),
    whenAny "masterAddresses" Json.text s.addresses,
    whenSome "initiator" Json.text s.initiator,
    whenSome "decision" Decision.toJson s.decision,
    whenSome "nodeMode" (fun m => .text m.name) s.nodeMode,
    whenSome "gatewayMode" (fun m => .text m.name) s.gatewayMode,
    whenSome "ipfixCollectors" Json.text s.ipfixCollectors,
    always "message" ((s.message.map Json.text).getD .null),
    whenSome "lastReconciledAt" Moment.toJson s.reconciledAt,
    whenAny "conditions" Condition.toJson s.conditions]

theorem nodup_memberList (s : RolloutStatus) : ((written s.memberList).map (·.1)).Nodup := by
  have hfollows : Follows fieldNames s.memberList := by simp [fieldNames, memberList]
  exact hfollows.names_sublist.nodup (by simp [fieldNames])

/-! ## Merging -/

/-- A status with the fields that are left out of its patch taken from the status before. -/
def laidOver (new old : RolloutStatus) : RolloutStatus :=
  { new with
    addresses := if new.addresses = [] then old.addresses else new.addresses
    initiator := new.initiator.or old.initiator
    decision := new.decision.or old.decision
    nodeMode := new.nodeMode.or old.nodeMode
    gatewayMode := new.gatewayMode.or old.gatewayMode
    ipfixCollectors := new.ipfixCollectors.or old.ipfixCollectors
    reconciledAt := new.reconciledAt.or old.reconciledAt
    conditions := if new.conditions = [] then old.conditions else new.conditions }

theorem withDefault_merge_any {α : Type} {name : String} {read : Json → Option α}
    {write : α → Json} {target patch : Members} {items old : List α}
    (hnodup : (patch.map (·.1)).Nodup)
    (hpatch : List.lookup name patch = if items = [] then none else some (ofList write items))
    (hread : ∀ a, read (write a) = some a)
    (hold : Fields.withDefault target name [] (listOf? read) = some old) :
    Fields.withDefault (mergeMembers target patch) name [] (listOf? read) =
      some (if items = [] then old else items) := by
  split at hpatch
  case isTrue hempty =>
    rw [if_pos hempty, Fields.withDefault_congr (get?_mergeMembers_of_none hpatch), hold]
  case isFalse hany =>
    rw [if_neg hany]
    refine Fields.withDefault_mergeMembers hnodup hpatch rfl ?_
    rw [merge_of_not_object rfl, listOf?_ofList hread]

/-- A field that is written as null when it is absent has the value of the patch. -/
theorem optional_merge_nullable {name : String} {target patch : Members} {value : Option String}
    (hnodup : (patch.map (·.1)).Nodup)
    (hpatch : List.lookup name patch = some ((value.map Json.text).getD .null)) :
    Fields.optional (mergeMembers target patch) name text? = some value := by
  have hmerged : (mergeMembers target patch).get? name = _ := get?_mergeMembers_of_mem hnodup hpatch
  unfold Fields.optional
  cases value with
  | none =>
    have hnone : List.lookup name (mergeMembers target patch) = none := hmerged
    rw [hnone]
  | some t =>
    have hsome : List.lookup name (mergeMembers target patch) = some (.text t) := hmerged
    rw [hsome]
    rfl

/-- What is read after a merge is the status of the patch, over what was read before. -/
theorem Reads.merge {ms : Members} {old new : RolloutStatus} (h : old.Reads ms)
    (hgeneration : i64? (.int new.observedGeneration) = some new.observedGeneration) :
    (new.laidOver old).Reads (mergeMembers ms (written new.memberList)) where
  repeats := repeats_mergeMembers h.repeats _
  observedGeneration := Fields.withDefault_mergeMembers (j := .int new.observedGeneration)
    new.nodup_memberList (by simp [memberList]) rfl hgeneration
  addresses := withDefault_merge_any new.nodup_memberList (by simp [memberList]) text?_text
    h.addresses
  initiator := Fields.optional_mergeMembers_of_plain Json.text new.nodup_memberList
    (by simp [memberList]) (fun _ => ⟨rfl, rfl⟩) text?_text text?_null h.initiator
  decision := Fields.optional_mergeMembers Decision.toJson new.nodup_memberList
    (by simp [memberList]) (fun _ => rfl)
    (Decision.ofJson?_merge (Decision.repeats_of_optional h.decision)) rfl h.decision
  nodeMode := Fields.optional_mergeMembers_of_plain (fun m => .text m.name) new.nodup_memberList
    (by simp [memberList]) (fun _ => ⟨rfl, rfl⟩) NodeMode.ofName?_name rfl h.nodeMode
  gatewayMode := Fields.optional_mergeMembers_of_plain (fun m => .text m.name)
    new.nodup_memberList (by simp [memberList]) (fun _ => ⟨rfl, rfl⟩) GatewayMode.ofName?_name rfl
    h.gatewayMode
  ipfixCollectors := Fields.optional_mergeMembers_of_plain Json.text new.nodup_memberList
    (by simp [memberList]) (fun _ => ⟨rfl, rfl⟩) text?_text text?_null h.ipfixCollectors
  message := optional_merge_nullable new.nodup_memberList (by simp [memberList, laidOver])
  reconciledAt := Fields.optional_mergeMembers_of_plain Moment.toJson new.nodup_memberList
    (by simp [memberList]) (fun _ => ⟨rfl, rfl⟩) Moment.ofJson?_toJson rfl h.reconciledAt
  conditions := withDefault_merge_any new.nodup_memberList (by simp [memberList])
    Condition.ofJson?_toJson h.conditions

/-! ## What a pass builds -/

/-- The statuses that a pass builds from a stored one: a copy, with any outcomes on it. A new
generation is a number of 64 bits. -/
inductive DerivedFrom (old : RolloutStatus) : RolloutStatus → Prop
  | copy : DerivedFrom old old
  | bootstrapped {s : RolloutStatus} (h : DerivedFrom old s) (now : Moment) (snapshot : Snapshot)
      (spec : NetworkSpec) : DerivedFrom old (s.bootstrapped now snapshot spec)
  | rolledOut {s : RolloutStatus} {generation : Int} (h : DerivedFrom old s)
      (hgeneration : i64? (.int generation) = some generation) (now : Moment)
      (decision : Decision) (applied : Nat) :
      DerivedFrom old ({ s with observedGeneration := generation }.rolledOut now decision applied)
  | invalid {s : RolloutStatus} (h : DerivedFrom old s) (now : Moment) (faults : List String) :
      DerivedFrom old (s.invalid now faults)
  | failed {s : RolloutStatus} (h : DerivedFrom old s) (now : Moment) (reason message : String) :
      DerivedFrom old (s.failed now reason message)

/-- What no outcome empties. -/
structure Keeps (old new : RolloutStatus) : Prop where
  generation : i64? (.int old.observedGeneration) = some old.observedGeneration →
    i64? (.int new.observedGeneration) = some new.observedGeneration
  initiator : new.initiator = none → old.initiator = none
  decision : new.decision = none → old.decision = none
  nodeMode : new.nodeMode = none → old.nodeMode = none
  gatewayMode : new.gatewayMode = none → old.gatewayMode = none
  reconciledAt : new.reconciledAt = none → old.reconciledAt = none
  conditions : new.conditions = [] → old.conditions = []

theorem Keeps.refl (s : RolloutStatus) : Keeps s s := ⟨id, id, id, id, id, id, id⟩

theorem Keeps.setCondition {old s : RolloutStatus} (h : Keeps old s) (now : Moment)
    (type status reason : String) (message : Option String) :
    Keeps old (s.setCondition now type status reason message) where
  generation := h.generation
  initiator := h.initiator
  decision := h.decision
  nodeMode := h.nodeMode
  gatewayMode := h.gatewayMode
  reconciledAt := h.reconciledAt
  conditions hempty := absurd (List.append_eq_nil_iff.mp hempty).2 (List.cons_ne_nil _ _)

theorem DerivedFrom.keeps {old new : RolloutStatus} (h : DerivedFrom old new) : Keeps old new := by
  induction h with
  | copy => exact Keeps.refl old
  | bootstrapped _ now snapshot spec ih =>
    unfold RolloutStatus.bootstrapped
    split
    refine Keeps.setCondition ?_ _ _ _ _ _
    exact ⟨ih.generation, nofun, ih.decision, nofun, nofun, ih.reconciledAt, ih.conditions⟩
  | rolledOut _ hgeneration now decision applied ih =>
    unfold RolloutStatus.rolledOut
    split
    all_goals
      refine Keeps.setCondition (Keeps.setCondition ?_ _ _ _ _ _) _ _ _ _ _
      exact ⟨fun _ => hgeneration, ih.initiator, nofun, ih.nodeMode, ih.gatewayMode, nofun,
        ih.conditions⟩
  | invalid _ now faults ih =>
    refine Keeps.setCondition (Keeps.setCondition ?_ _ _ _ _ _) _ _ _ _ _
    exact ⟨ih.generation, ih.initiator, ih.decision, ih.nodeMode, ih.gatewayMode, ih.reconciledAt,
      ih.conditions⟩
  | failed _ now reason message ih =>
    refine Keeps.setCondition ?_ _ _ _ _ _
    exact ⟨ih.generation, ih.initiator, ih.decision, ih.nodeMode, ih.gatewayMode, ih.reconciledAt,
      ih.conditions⟩

/-- A status that keeps what no outcome empties is the merged one if it has not emptied what its
patch leaves out. -/
theorem laidOver_eq_iff {old new : RolloutStatus} (h : Keeps old new) :
    new.laidOver old = new ↔
      (new.ipfixCollectors = none → old.ipfixCollectors = none) ∧
        (new.addresses = [] → old.addresses = []) := by
  constructor
  · intro heq
    refine ⟨fun hnone => ?_, fun hempty => ?_⟩
    · have hcollectors := congrArg RolloutStatus.ipfixCollectors heq
      simpa [laidOver, hnone] using hcollectors
    · have haddresses := congrArg RolloutStatus.addresses heq
      simpa [laidOver, hempty] using haddresses
  · rintro ⟨hcollectors, haddresses⟩
    have hor : ∀ {α : Type} {a b : Option α}, (a = none → b = none) → a.or b = a := by
      rintro α (_ | a) b hnone
      · exact hnone rfl
      · rfl
    have hite : ∀ {α : Type} {a b : List α}, (a = [] → b = []) → (if a = [] then b else a) = a := by
      intro α a b hempty
      split
      case isTrue ha => rw [ha, hempty ha]
      case isFalse => rfl
    unfold laidOver
    rw [hite haddresses, hor h.initiator, hor h.decision, hor h.nodeMode, hor h.gatewayMode,
      hor hcollectors, hor h.reconciledAt, hite h.conditions]

end RolloutStatus

/-! ## The stored network -/

namespace NetworkObject

theorem ofJson?_object_iff {ms : Members} {n : NetworkObject} :
    ofJson? (.object ms) = some n ↔
      repeats ["metadata", "spec", "status"] ms = false ∧
      Fields.required ms "metadata" Metadata.ofJson? = some n.metadata ∧
      Fields.required ms "spec" NetworkSpec.ofJson? = some n.spec ∧
      Fields.optional ms "status" RolloutStatus.ofJson? = some n.status := by
  constructor
  · intro h
    obtain ⟨fs, hfs, h⟩ := Option.bind_eq_some_iff.mp h
    have hrepeats : repeats ["metadata", "spec", "status"] ms = false :=
      repeats_members_of_fields? hfs
    rw [fields?_object hrepeats] at hfs
    cases hfs
    simp only [Option.bind_eq_bind, Option.bind_eq_some_iff] at h
    obtain ⟨_, h₁, _, h₂, _, h₃, heq⟩ := h
    cases heq
    exact ⟨hrepeats, h₁, h₂, h₃⟩
  · rintro ⟨hrepeats, h₁, h₂, h₃⟩
    refine bind_fields?_object hrepeats ?_
    simp only [h₁, h₂, h₃, Option.bind_eq_bind, Option.bind_some]
    rfl

/-- The stored status is read from the members of the stored value; there are none when there is no
status. -/
theorem reads_of_optional {ms : Members} {status : Option RolloutStatus}
    (hstored : (ms.getD "status").array? = none)
    (h : Fields.optional ms "status" RolloutStatus.ofJson? = some status) :
    (status.getD {}).Reads (ms.getD "status").members := by
  unfold Fields.optional at h
  unfold Members.getD Members.get? at hstored ⊢
  split at h
  case h_1 hnone =>
    cases h
    rw [hnone]
    exact RolloutStatus.reads_nil
  case h_2 hnull =>
    cases h
    rw [hnull]
    exact RolloutStatus.reads_nil
  case h_3 j _ hsome =>
    obtain ⟨s, hs, rfl⟩ := Option.map_eq_some_iff.mp h
    rw [hsome, Option.getD_some] at hstored ⊢
    rw [RolloutStatus.eq_object_of_ofJson? hstored hs] at hs
    exact RolloutStatus.ofJson?_object_iff.mp hs

/-- A stored network with a patch of its status merged into it. -/
def withStatus (body : Members) (status : RolloutStatus) : Json :=
  (Json.object body).merge (Reconcile.statusPatch status)

/-- A patch of the status is laid over what reads of the members that are stored. -/
theorem optional_status_merge {body : Members} {old new : RolloutStatus}
    (hreads : old.Reads (body.getD "status").members)
    (hgeneration : i64? (.int new.observedGeneration) = some new.observedGeneration) :
    Fields.optional (mergeMembers body [("status", new.toJson)]) "status" RolloutStatus.ofJson? =
      some (some (new.laidOver old)) := by
  have hmerged : List.lookup "status" (mergeMembers body [("status", new.toJson)]) =
      some (merge (body.getD "status") new.toJson) :=
    lookup_mergeMembers (by simp) (by simp) rfl
  have hnew := RolloutStatus.ofJson?_object_iff.mpr (hreads.merge hgeneration)
  unfold Fields.optional
  rw [hmerged]
  change (RolloutStatus.ofJson? (.object (mergeMembers (body.getD "status").members
    (written new.memberList)))).map some = _
  rw [hnew]
  rfl

/-- A patch of the status leaves metadata and spec as they are, and the status is that of the patch
over what reads of the members that are stored. -/
theorem ofJson?_withStatus_of_reads {body : Members} {network : NetworkObject}
    {old new : RolloutStatus} (hread : ofJson? (.object body) = some network)
    (hreads : old.Reads (body.getD "status").members)
    (hgeneration : i64? (.int new.observedGeneration) = some new.observedGeneration) :
    ofJson? (withStatus body new) =
      some { network with status := some (new.laidOver old) } := by
  obtain ⟨hrepeats, hmetadata, hspec, -⟩ := ofJson?_object_iff.mp hread
  change ofJson? (.object (mergeMembers body [("status", new.toJson)])) = _
  refine ofJson?_object_iff.mpr ⟨repeats_mergeMembers hrepeats _, ?_, ?_,
    optional_status_merge hreads hgeneration⟩
  · have hkept : List.lookup "metadata" (mergeMembers body [("status", new.toJson)]) = _ :=
      get?_mergeMembers_of_none (by simp [Members.get?, List.lookup_cons])
    unfold Fields.required at hmetadata ⊢
    rw [hkept]
    exact hmetadata
  · have hkept : List.lookup "spec" (mergeMembers body [("status", new.toJson)]) = _ :=
      get?_mergeMembers_of_none (by simp [Members.get?, List.lookup_cons])
    unfold Fields.required at hspec ⊢
    rw [hkept]
    exact hspec

/-- A status that is stored as an object, or not at all, is the one that the new status is laid
over. -/
theorem ofJson?_withStatus {body : Members} {network : NetworkObject} {new : RolloutStatus}
    (hread : ofJson? (.object body) = some network)
    (hstored : (body.getD "status").array? = none)
    (hgeneration : i64? (.int new.observedGeneration) = some new.observedGeneration) :
    ofJson? (withStatus body new) =
      some { network with status := some (new.laidOver (network.status.getD {})) } :=
  ofJson?_withStatus_of_reads hread
    (reads_of_optional hstored (ofJson?_object_iff.mp hread).2.2.2) hgeneration

/-- After the patch of a status that a pass has built from the stored one, the stored status is the
one that was built just when the pass has emptied neither the collectors nor the addresses, which
the patch leaves out. -/
theorem status_merged {body : Members} {network : NetworkObject} {new : RolloutStatus}
    (hread : ofJson? (.object body) = some network)
    (hstored : (body.getD "status").array? = none)
    (hnew : (network.status.getD {}).DerivedFrom new) :
    ∃ after, ofJson? (withStatus body new) = some after ∧
      after.metadata = network.metadata ∧ after.spec = network.spec ∧
      after.status = some (new.laidOver (network.status.getD {})) ∧
      (after.status = some new ↔
        (new.ipfixCollectors = none → (network.status.getD {}).ipfixCollectors = none) ∧
        (new.addresses = [] → (network.status.getD {}).addresses = [])) := by
  have hreads := reads_of_optional hstored (ofJson?_object_iff.mp hread).2.2.2
  have hgeneration := hnew.keeps.generation (RolloutStatus.generation_inRange hreads)
  refine ⟨_, ofJson?_withStatus hread hstored hgeneration, rfl, rfl, rfl, ?_⟩
  rw [Option.some_inj]
  exact RolloutStatus.laidOver_eq_iff hnew.keeps

/-! ### A collector that disappears -/

/-- A stored network whose status tells a collector. -/
def withCollector : Members :=
  [("metadata", .object []), ("spec", NetworkSpec.toJson {}),
    ("status", .object [("ipfixCollectors", .text "10.0.0.9:4739")])]

theorem ofJson?_withCollector :
    ofJson? (.object withCollector) =
      some { status := some { ipfixCollectors := "10.0.0.9:4739" } } := by
  refine ofJson?_object_iff.mpr ⟨rfl, rfl, ?_, ?_⟩
  · exact NetworkSpec.ofJson?_toJson {}
  · have hstatus : RolloutStatus.ofJson? (.object [("ipfixCollectors", .text "10.0.0.9:4739")]) =
        some { ipfixCollectors := "10.0.0.9:4739" } :=
      RolloutStatus.ofJson?_object_iff.mpr
        ⟨rfl, rfl, rfl, rfl, rfl, rfl, rfl, rfl, rfl, rfl, rfl⟩
    have hlookup : List.lookup "status" withCollector =
        some (.object [("ipfixCollectors", .text "10.0.0.9:4739")]) := rfl
    unfold Fields.optional
    rw [hlookup]
    change (RolloutStatus.ofJson? _).map some = _
    rw [hstatus]
    rfl

/-- The status that a pass builds from a stored one when there are no collectors. -/
def withoutCollectors (old : RolloutStatus) : RolloutStatus :=
  old.bootstrapped .epoch { addresses := ["10.0.0.1"], initiator := "10.0.0.1" } {}

/-- The stored status is not always the one that was built: a collector that has disappeared stays
in it. -/
theorem not_status_always_built :
    ¬ ∀ (body : Members) (network : NetworkObject) (new : RolloutStatus),
      ofJson? (.object body) = some network → (network.status.getD {}).DerivedFrom new →
        (ofJson? (withStatus body new)).bind (·.status) = some new := by
  intro h
  have hsame := h withCollector _ (withoutCollectors { ipfixCollectors := "10.0.0.9:4739" })
    ofJson?_withCollector (.bootstrapped .copy _ _ _)
  rw [ofJson?_withStatus ofJson?_withCollector rfl rfl, Option.bind_some, Option.some_inj] at hsame
  have hcollectors := congrArg RolloutStatus.ipfixCollectors hsame
  cases hcollectors

theorem status_merged_withCollector :
    ofJson? (.object withCollector) =
        some { status := some { ipfixCollectors := "10.0.0.9:4739" } } ∧
      ∃ after, ofJson? (withStatus withCollector
          (withoutCollectors { ipfixCollectors := "10.0.0.9:4739" })) = some after ∧
        after.status ≠ some (withoutCollectors { ipfixCollectors := "10.0.0.9:4739" }) := by
  obtain ⟨after, hread, -, -, -, hiff⟩ :=
    status_merged ofJson?_withCollector rfl (.bootstrapped .copy .epoch
      { addresses := ["10.0.0.1"], initiator := "10.0.0.1" } {})
  refine ⟨ofJson?_withCollector, after, hread, fun hbuilt => ?_⟩
  cases (hiff.mp hbuilt).1 rfl

end NetworkObject

end NetworkRollout
