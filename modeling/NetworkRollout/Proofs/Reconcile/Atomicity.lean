import NetworkRollout.Proofs.Reconcile.Course

/-!
# Error atomicity of a pass

Wherever a pass ends, the server holds what the steps before that point have left, and nothing
else. A refused network costs one read, and a pass that fails before it applies anything leaves at
most a new initiator behind. One that fails while it applies leaves exactly the objects before the
one that failed. Only a pass that applied its whole plan records its spec.

The plan comes from the manifests, and these may name the network object itself. It is applied with
its annotations, so a pass that fails later may still have changed the recorded spec
(`not_appliedSpec_kept`).

* `Reconcile.Atomic`: what holds of the changes of a pass.
* `reconcile_atomic`: it holds of every pass.
-/

namespace NetworkRollout

open Server

/-- Whether an effect tells how a pass over the network went. -/
def Effect.IsReport (network : String) : Effect → Prop
  | report other _ => other = network
  | publish _ => True
  | _ => False

namespace Reconcile

variable {input : PassInput} {network : NetworkObject} {w after : World}
  {result : Except Failure (Decision × Nat)} {c : Changes}

/-! ## Reports -/

/-- What the reports of a pass keep: they publish events and patch the status. -/
structure ReportsKeep (faults : Faults) (network : String) (R : Server → Server → Prop) :
    Prop where
  trans : ∀ {a b c}, R a b → R b c → R a c
  publish : ∀ reason note warning s, R s (publish faults network reason note warning s)
  reportStatus : ∀ status s, R s (s.reportStatus faults network (statusPatch status)).2

namespace ReportsKeep

variable {R : Server → Server → Prop}

theorem fail (h : ReportsKeep input.faults network.name R) (e : Failure) (o : Outcome) :
    R o.world.server (fail input network e o).world.server := by
  unfold Reconcile.fail
  rcases report input.settings.interval (input.start.later o.elapsed) e o.status with
    ⟨status, _ | reason, wait⟩
  · exact h.reportStatus status o.world.server
  · exact h.trans (h.publish reason e.message true o.world.server) (h.reportStatus status _)

theorem succeed (h : ReportsKeep input.faults network.name R) (before : RolloutStatus)
    (decision : Decision) (applied : Nat) (o : Outcome) :
    R o.world.server (succeed input network before decision applied o).world.server := by
  unfold Reconcile.succeed
  dsimp only
  have hstatus := h.reportStatus
    ({ o.status with observedGeneration := network.generation }.rolledOut
      (input.start.later o.elapsed) decision applied) o.world.server
  revert hstatus
  rcases o.world.server.reportStatus input.faults network.name _ with ⟨e | _, server⟩
  · exact id
  · intro hstatus
    dsimp only
    split
    case isTrue => exact hstatus
    case isFalse => exact h.trans hstatus (h.publish _ _ _ server)

/-- After its attempt, a pass that is not skipped only reports. -/
theorem reconcile (h : ReportsKeep input.faults network.name R)
    (hgoes : remainingWait? (network.status.getD {}) network.generation input.settings.interval
      input.start = none) (w : World) :
    R (attempt input network (network.status.getD {}) w).world.server
      (reconcile input network w).world.server := by
  rw [reconcile_eq hgoes]
  dsimp only
  rcases (attempt input network (network.status.getD {}) w).result with e | ⟨decision, applied⟩
  · exact h.fail e _
  · exact h.succeed _ decision applied _

end ReportsKeep

/-- Nothing but reports lead from one server to another. -/
def OnlyReports (network : String) (s s' : Server) : Prop :=
  ∃ reported, Did s s' reported ∧ ∀ effect ∈ reported, effect.IsReport network

theorem OnlyReports.trans {network : String} {a b c : Server} (hab : OnlyReports network a b)
    (hbc : OnlyReports network b c) : OnlyReports network a c := by
  obtain ⟨first, hfirst, hfirstEach⟩ := hab
  obtain ⟨second, hsecond, hsecondEach⟩ := hbc
  refine ⟨first ++ second, hfirst.trans hsecond, ?_⟩
  intro effect hmem
  exact (List.mem_append.mp hmem).elim (hfirstEach effect) (hsecondEach effect)

theorem annotation_of_reports {name key : String} {s s' : Server} {reported : List Effect}
    (h : Did s s' reported) (heach : ∀ effect ∈ reported, effect.IsReport name) :
    s'.annotation name key = s.annotation name key := by
  refine h.annotation_eq fun effect hmem htouches => ?_
  have hreport := heach effect hmem
  cases effect <;> first | exact hreport | exact htouches

theorem find?_of_reports {name other : String} {kind : Kind} {namespaceName : String}
    {s s' : Server} {reported : List Effect} (h : Did s s' reported)
    (heach : ∀ effect ∈ reported, effect.IsReport name)
    (hother : (kind, namespaceName, other) ≠ (.network, "", name)) :
    s'.find? kind namespaceName other = s.find? kind namespaceName other := by
  refine h.find?_eq fun effect hmem htarget => hother ?_
  have hreport := heach effect hmem
  cases effect with
  | report network status =>
    cases hreport
    exact (Option.some.inj htarget).symm
  | publish event => cases htarget
  | annotate network key value => cases hreport
  | apply kind namespaceName name object => cases hreport

theorem reportStatus_reports (faults : Faults) (network : String) (status : RolloutStatus)
    (s : Server) :
    OnlyReports network s (s.reportStatus faults network (statusPatch status)).2 := by
  obtain ⟨reported, hreported, hdid⟩ := did_reportStatus faults network status.toJson s
  refine ⟨reported, hdid, ?_⟩
  rcases hreported with rfl | rfl
  · rintro effect ⟨⟩
  · intro effect hmem
    rw [List.mem_singleton.mp hmem]
    rfl

theorem publish_reports (faults : Faults) (network reason note : String) (warning : Bool)
    (s : Server) : OnlyReports network s (publish faults network reason note warning s) := by
  obtain ⟨reported, hreported, hdid⟩ :=
    did_publish faults ⟨warning, reason, note, network⟩ s
  refine ⟨reported, hdid, ?_⟩
  rcases hreported with rfl | rfl
  · rintro effect ⟨⟩
  · intro effect hmem
    rw [List.mem_singleton.mp hmem]
    trivial

theorem onlyReports_kept (faults : Faults) (network : String) :
    ReportsKeep faults network (OnlyReports network) where
  trans := OnlyReports.trans
  publish := publish_reports faults network
  reportStatus := reportStatus_reports faults network

theorem succeed_deadlines (input : PassInput) (network : NetworkObject) (before : RolloutStatus)
    (decision : Decision) (applied : Nat) (o : Outcome) :
    (succeed input network before decision applied o).world.deadlines = o.world.deadlines := by
  unfold succeed
  dsimp only
  rcases o.world.server.reportStatus input.faults network.name _ with ⟨e | _, server⟩ <;>
    rfl

/-- A pass that is not skipped is reported when it ends. -/
theorem reconcile_reports
    (h : remainingWait? (network.status.getD {}) network.generation input.settings.interval
      input.start = none) :
    let o := attempt input network (network.status.getD {}) w
    OnlyReports network.name o.world.server (reconcile input network w).world.server ∧
      (reconcile input network w).world.deadlines = o.world.deadlines := by
  refine ⟨(onlyReports_kept input.faults network.name).reconcile h w, ?_⟩
  rw [reconcile_eq h]
  dsimp only
  rcases (attempt input network (network.status.getD {}) w).result with e | ⟨decision, applied⟩
  · rfl
  · exact succeed_deadlines input network _ decision applied _

/-- A refusal is told in an event and in the status. -/
theorem fail_requests (input : PassInput) (network : NetworkObject) (messages : List String)
    (o : Outcome) :
    (fail input network (.invalidConfig messages) o).world.server.requests =
      o.world.server.requests ++
        [⟨.create, "events", ""⟩, ⟨.patchStatus, Kind.network.plural, network.name⟩] := by
  unfold fail report publish
  dsimp only
  rw [requests_reportStatus, requests_publish, List.append_assoc]
  rfl

theorem reconcile_requests {messages : List String}
    (h : remainingWait? (network.status.getD {}) network.generation input.settings.interval
      input.start = none)
    (hrefused : (attempt input network (network.status.getD {}) w).result =
      .error (.invalidConfig messages)) :
    (reconcile input network w).world.server.requests =
      (attempt input network (network.status.getD {}) w).world.server.requests ++
        [⟨.create, "events", ""⟩, ⟨.patchStatus, Kind.network.plural, network.name⟩] := by
  rw [reconcile_eq h]
  dsimp only
  rw [hrefused]
  exact fail_requests input network messages _

/-! ## Atomicity -/

/-- What holds of the changes of a pass that is not skipped. -/
structure Atomic (input : PassInput) (network : NetworkObject) (w : World)
    (result : Except Failure (Decision × Nat)) (after : World) (c : Changes) : Prop where
  /-- The changes happen in the order of the pass. -/
  did : w.server.Did after.server c.all
  /-- A refused network costs one read of the network; the other requests tell that it was
  refused. -/
  refused : ∀ messages, result = .error (.invalidConfig messages) →
    after.server.requests = w.server.requests ++
        [⟨.get, Kind.network.plural, network.name⟩, ⟨.create, "events", ""⟩,
          ⟨.patchStatus, Kind.network.plural, network.name⟩] ∧
      after.deadlines = w.deadlines ∧ c.election = [] ∧ c.applied = [] ∧ c.recorded = [] ∧
      ∀ key, after.server.annotation network.name key = w.server.annotation network.name key
  /-- A pass without a plan fails, and changes no object but the network. -/
  unplanned : plan? input network w = none →
    (∃ e, result = .error e) ∧ c.applied = [] ∧ c.recorded = [] ∧
      ∀ kind namespaceName name, (kind, namespaceName, name) ≠ (.network, "", network.name) →
        after.server.find? kind namespaceName name = w.server.find? kind namespaceName name
  /-- A plan is applied in its order, up to the first object that cannot be. -/
  planned : ∀ objects, plan? input network w = some objects →
    ∃ start answer done, w.server.Did start c.election ∧
      AppliedInOrder input.faults input.settings.namespaces objects start answer done c.applied ∧
      ∀ e, answer = .error e → result = .error e ∧ c.recorded = []
  /-- The spec is recorded when all objects of the plan were applied, and only then. Such a pass
  succeeds, unless the network does not read afterwards. -/
  recorded : (∃ e, result = .error e) ∧ c.recorded = [] ∨
    ∃ objects, plan? input network w = some objects ∧
      List.Forall₂ (Object.AppliedAs w.server.serving input.settings.namespaces) objects
        c.applied ∧
      ((∃ decision, result = .ok (decision, objects.length)) ∨
        result = .error (unreadRecord network.name)) ∧
      c.recorded = [specRecord input network w] ∧
      after.server.annotation network.name Names.appliedSpecKey =
        some (.text (completedSpec input network w).toText)
  election : IsElection network.name w.server c.election
  reported : ∀ effect ∈ c.reported, effect.IsReport network.name
  /-- An annotation changes for three reasons: an applied object is the network itself, and gives
  the annotation or takes the place of the stored one; the initiator is elected; or the spec is
  recorded. -/
  annotations : ∀ key,
    after.server.annotation network.name key = w.server.annotation network.name key ∨
      (∃ effect ∈ c.applied, effect.Touches w.server.serving.storing network.name key) ∨
      key = Names.initiatorKey ∧ c.election ≠ [] ∨ key = Names.appliedSpecKey ∧ c.recorded ≠ []

namespace Course

variable {before : World} {reported : List Effect}

/-- An effect of a pass touches an annotation for one of three reasons. -/
theorem touches (h : Course input network w result before c) {effect : Effect} {key : String}
    (hmem : effect ∈ c.election ++ c.applied ++ c.recorded)
    (htouches : effect.Touches w.server.serving.storing network.name key) :
    (∃ effect ∈ c.applied, effect.Touches w.server.serving.storing network.name key) ∨
      key = Names.initiatorKey ∧ c.election ≠ [] ∨
        key = Names.appliedSpecKey ∧ c.recorded ≠ [] := by
  rcases h.mem_cases hmem with ⟨helected, address, rfl⟩ | happlied | ⟨hrecorded, rfl⟩
  · exact Or.inr (Or.inl ⟨htouches.2.symm, helected⟩)
  · exact Or.inl ⟨effect, happlied, htouches⟩
  · exact Or.inr (Or.inr ⟨htouches.2.symm, hrecorded⟩)

/-- A course with the reports that follow it is atomic. -/
theorem atomic (h : Course input network w result before c)
    (hreports : Did before.server after.server reported)
    (heach : ∀ effect ∈ reported, effect.IsReport network.name)
    (hdeadlines : after.deadlines = before.deadlines)
    (hrequests : ∀ messages, result = .error (.invalidConfig messages) →
      after.server.requests = before.server.requests ++
        [⟨.create, "events", ""⟩, ⟨.patchStatus, Kind.network.plural, network.name⟩]) :
    Atomic input network w result after { c with reported } where
  did := h.did.trans hreports
  refused := by
    rintro messages rfl
    obtain ⟨hfirst, hkept, hnone, rfl⟩ := h.of_refused
    refine ⟨?_, hdeadlines.trans hkept, rfl, rfl, rfl, fun key => ?_⟩
    · rw [hrequests messages rfl, hfirst, List.append_assoc]
      rfl
    · rw [annotation_of_reports hreports heach]
      exact hnone.annotation_eq (by rintro effect ⟨⟩)
  unplanned := by
    intro hplan
    obtain ⟨hfails, happlied, hrecorded⟩ := h.of_unplanned hplan
    refine ⟨hfails, happlied, hrecorded, fun kind namespaceName name hother => ?_⟩
    -- what is left of the pass is the election, and that is about the network
    rw [find?_of_reports hreports heach hother]
    refine h.did.find?_eq fun effect hmem htarget => hother ?_
    rw [happlied, hrecorded, List.append_nil, List.append_nil] at hmem
    rw [h.isElection.target hmem] at htarget
    exact (Option.some.inj htarget).symm
  planned objects hplan := h.of_planned hplan
  recorded := by
    rcases h.recorded_iff with hnone | ⟨objects, hplan, heachApplied, hends, hone, hrecord⟩
    · exact Or.inl hnone
    · refine Or.inr ⟨objects, hplan, heachApplied, hends, hone, ?_⟩
      rw [annotation_of_reports hreports heach]
      exact hrecord
  election := h.isElection
  reported := heach
  annotations := by
    -- an annotation that no effect touches stands
    intro key
    by_contra hno
    obtain ⟨hne, hnone⟩ := not_or.mp hno
    refine hne ?_
    rw [annotation_of_reports hreports heach]
    exact h.did.annotation_eq fun effect hmem htouches => hnone (h.touches hmem htouches)

end Course

end Reconcile

/-- Every pass is skipped, and then changes nothing, or is atomic. -/
theorem reconcile_atomic (input : PassInput) (network : NetworkObject) (w : World) :
    match Reconcile.remainingWait? (network.status.getD {}) network.generation
        input.settings.interval input.start with
    | some _ => (reconcile input network w).world = w
    | none => ∃ c, Reconcile.Atomic input network w
        (Reconcile.attempt input network (network.status.getD {}) w).result
        (reconcile input network w).world c := by
  cases h : Reconcile.remainingWait? (network.status.getD {}) network.generation
      input.settings.interval input.start with
  | some wait =>
    dsimp only
    unfold reconcile
    dsimp only
    rw [h]
  | none =>
    obtain ⟨c, hcourse⟩ := Reconcile.attempt_course input network (network.status.getD {}) w
    obtain ⟨⟨reported, hreports, heach⟩, hdeadlines⟩ := Reconcile.reconcile_reports (w := w) h
    exact ⟨_, hcourse.atomic hreports heach hdeadlines fun messages hrefused =>
      Reconcile.reconcile_requests h hrefused⟩

/-! ## A plan with the network itself -/

namespace Reconcile

/-- How many objects a pass applied. -/
def appliedCount (input : PassInput) (network : NetworkObject) (w : World) : Nat :=
  let writes := (reconcile input network w).world.server.writes.drop w.server.writes.length
  (writes.filter fun | .apply .. => true | _ => false).length

/-- A network that no pass has been made for. -/
def freshNetwork : Json :=
  .object
    [("metadata", .object [("name", .text "c")]),
      ("spec", .object
        [("clusterNetwork", .array [.object [("cidr", .text "10.128.0.0/14")]]),
          ("serviceNetwork", .array [.text "172.30.0.0/16"]), ("defaultNetwork", .object [])])]

/-- A server that merges what is applied, with that network and one control-plane node, which is
all that was asked for. -/
def freshServer : Server :=
  let installConfig : Json := .object
    [("data", .object [(Names.installConfigKey, .text "controlPlane:\n  replicas: 1\n")])]
  let node : Json := .object
    [("metadata", .object [("name", .text "m0"),
        ("labels", .object [(Names.controlPlaneLabel, .text "")])]),
      ("status", .object [("addresses", .array
        [.object [("type", .text "InternalIP"), ("address", .text "10.0.0.1")]])])]
  { objects :=
      [⟨.network, "", "c", freshNetwork⟩,
        ⟨.configMap, Names.clusterConfigNamespace, Names.clusterConfigName, installConfig⟩,
        ⟨.node, "", "m0", node⟩]
    serving := { Serving.usual with storing := .merges } }

/-- A manifest that names the network itself, with a record, and then an object without a type. -/
def selfNaming : Directory where
  path := "/bindata"
  entries := some [("a.yaml", .file
    ("apiVersion: operator.openshift.io/v1\nkind: Network\nmetadata:\n name: c\n" ++
      " annotations:\n  network.operator.openshift.io/applied-spec: x\n---\na: b\n"))]

/-- The record can change in a pass that did not apply all its objects: the first one is the
network itself, and the second one cannot be applied. -/
theorem not_appliedSpec_kept :
    ¬ ∀ (input : PassInput) (network : NetworkObject) (w : World),
      (reconcile input network w).world.server.annotation network.name Names.appliedSpecKey ≠
          w.server.annotation network.name Names.appliedSpecKey →
        ∃ objects, plan? input network w = some objects ∧
          appliedCount input network w = objects.length := by
  intro h
  let input : PassInput :=
    { settings := {}, manifests := selfNaming, faults := fun _ _ => none, start := .epoch }
  let network := (NetworkObject.ofJson? freshNetwork).getD {}
  let w : World := { server := freshServer }
  have hrun : (w.server.annotation network.name Names.appliedSpecKey).isSome = false ∧
      ((reconcile input network w).world.server.annotation network.name
        Names.appliedSpecKey).isSome = true ∧
      (plan? input network w).map (·.length) = some 2 ∧ appliedCount input network w = 1 := by
    decide +kernel
  obtain ⟨hbefore, hafter, hplan, hcount⟩ := hrun
  obtain ⟨objects, hobjects, hall⟩ := h input network w (by
    intro heq
    rw [heq, hbefore] at hafter
    cases hafter)
  rw [hobjects, Option.map_some, Option.some.injEq] at hplan
  omega

end Reconcile

end NetworkRollout
