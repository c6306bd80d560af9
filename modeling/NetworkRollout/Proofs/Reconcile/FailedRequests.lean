import NetworkRollout.Proofs.Reconcile.LostConfig
import NetworkRollout.Proofs.Telemetry.DiscoveryMetrics

/-!
# Passes with failed requests

Whichever request of a pass fails, the pass ends as one that is tried again soon: it is counted as
an error, and its status says what failed and keeps what it said of the last success. Three kinds of
requests are other: those for a setting that has a default, whose failure counts as no setting;
those that publish an event; and the one that reports the status.

The record of the applied spec stays, too, unless the pass has applied the network object itself by
then, with a record of its own (`not_appliedSpec_kept_by_failed`).

* `RolloutStatus.TellsOf`: a status that tells of a failure.
* `Reconcile.FailsSoon`: what becomes of a pass with a failed request.
* `reconcile_faults`: what becomes of every pass, by the request that failed.
-/

namespace NetworkRollout

open PassM Server

/-! ## Telling of a failure -/

/-- A status that tells of a failure that may go away soon, and otherwise of the same success as the
status that was given. -/
structure RolloutStatus.TellsOf (s : RolloutStatus) (e : Failure) (given : RolloutStatus) :
    Prop where
  ready : ∃ since, s.conditions.filter (·.type = readyType) =
    [{ type := readyType, status := "False", reason := "TransientError", message := some e.message,
       since }]
  message : s.message = some e.message
  observedGeneration : s.observedGeneration = given.observedGeneration
  decision : s.decision = given.decision

/-- One more pass of the network is counted, with the result. -/
structure Metrics.CountsOne (network result : String) (m m' : Metrics) : Prop where
  counted : m'.reconciles.get? (network, result) =
    some ((m.reconciles.get? (network, result)).getD 0 + 1)
  others : ∀ key, key ≠ (network, result) → m'.reconciles.get? key = m.reconciles.get? key

theorem Metrics.countsOne_recordReconcile (network result : String) (milliseconds : Nat)
    {m m' : Metrics} (h : m'.reconciles = m.reconciles) :
    m.CountsOne network result (m'.recordReconcile network result milliseconds) := by
  unfold recordReconcile
  refine ⟨?_, fun key hkey => ?_⟩
  · dsimp only
    rw [Series.get?_count_self, h]
  · dsimp only
    rw [Series.get?_count_of_ne hkey, h]

namespace RolloutStatus

variable {e : Failure} {given s : RolloutStatus}

/-- Telling of a failure keeps the generation and the decision. -/
theorem tellsOf_failed (hgeneration : s.observedGeneration = given.observedGeneration)
    (hdecision : s.decision = given.decision) (now : Moment) :
    (s.failed now "TransientError" e.message).TellsOf e given where
  ready := by
    refine ⟨sinceWhen s.conditions readyType "False" now, ?_⟩
    unfold failed setCondition
    dsimp only
    rw [List.filter_append, List.filter_filter, List.filter_eq_nil_iff.mpr, List.nil_append]
    · rfl
    · intro c _ hboth
      simp at hboth
  message := rfl
  observedGeneration := hgeneration
  decision := hdecision

/-- What a status tells, it tells over the one that was given, or over none. -/
theorem TellsOf.laidOver {old : RolloutStatus} (h : s.TellsOf e given)
    (hold : old = given ∨ old = {}) : (s.laidOver old).TellsOf e given where
  ready := by
    obtain ⟨since, hready⟩ := h.ready
    refine ⟨since, ?_⟩
    unfold RolloutStatus.laidOver
    dsimp only
    rw [if_neg]
    · exact hready
    · intro hnone
      rw [hnone] at hready
      cases hready
  message := h.message
  observedGeneration := h.observedGeneration
  decision := by
    unfold RolloutStatus.laidOver
    dsimp only
    rw [h.decision]
    rcases hold with rfl | rfl
    · cases old.decision <;> rfl
    · cases given.decision <;> rfl

end RolloutStatus

namespace Reconcile

variable {input : PassInput} {network : NetworkObject} {w : World} {e : Failure}

theorem report_of_tells (h : e.Tells) (interval : Nat) (now : Moment) (status : RolloutStatus) :
    report interval now e status =
      (status.failed now "TransientError" e.message, none, transientRequeue) := by
  cases e <;> first | rfl | cases h

/-- Up to its report a pass keeps the generation and the decision of the status, and counts no
pass. -/
theorem attempt_keeps (input : PassInput) (network : NetworkObject) (status : RolloutStatus)
    (w : World) :
    let o := attempt input network status w
    o.status.observedGeneration = status.observedGeneration ∧
      o.status.decision = status.decision ∧
      o.world.metrics.reconciles = w.metrics.reconciles := by
  dsimp only
  rw [attempt_eq]
  rcases preparation input network w with ⟨e | prepared, run⟩
  · exact ⟨rfl, rfl, rfl⟩
  · exact ⟨rfl, rfl, rfl⟩

/-! ## The network after a failed request -/

theorem told_preparation (input : PassInput) (network : NetworkObject) (w : World)
    (hhit : input.faults.Hit w.server.requests
      (preparation input network w).2.world.requests) :
    ∃ e, (preparation input network w).1 = .error e := by
  have hname : Names.gatewayModeConfig ∈ optionalConfigs := List.mem_cons_self
  obtain ⟨e, he, -⟩ := (shadowed_preparation (c := ⟨input.settings.namespaces.operator, _⟩) hname
    rfl network w).told hhit
  exact ⟨e, he⟩

/-- A pass with a failed request does not record its spec. Even when the network does not read with
that record, all requests have been answered. -/
theorem Course.recorded_of_hit {after : World} {c : Changes}
    (h : Course input network w (.error e) after c)
    (hhit : input.faults.Hit w.server.requests after.server.requests) : c.recorded = [] := by
  generalize hresult : Except.error e = result at h
  cases h with
  | refused _ _ _ _ => rfl
  | unplanned _ _ _ _ => rfl
  | broken _ _ _ _ => rfl
  | unrecorded _ _ _ _ _ _ => rfl
  | @unread _ start done objects _ _ _ _ _ _ hrolled _ hnoFault hrequests _ =>
    obtain ⟨prepared, run, hprepared, hrollOut⟩ := hrolled
    have hpreparation := told_preparation input network w
    have hroll := shadowed_rollOut (c := ⟨"", ""⟩) (t := run.world) input ⟨rfl, rfl, rfl, rfl⟩
      prepared
    rw [hprepared] at hpreparation
    rw [hrollOut] at hroll
    have hgrows : done.requests <+: after.server.requests := ⟨_, hrequests.symm⟩
    exfalso
    rcases hhit.split hgrows with hbefore | hlast
    · rcases hbefore.split hroll.grows with hfirst | hthen
      · obtain ⟨e', he'⟩ := hpreparation hfirst
        cases he'
      · obtain ⟨e', he', -⟩ := hroll.told hthen
        cases he'
    · rw [hrequests, Faults.hit_append_singleton] at hlast
      obtain ⟨e', he', -⟩ := hlast
      cases hnoFault.symm.trans he'
  | recorded _ _ _ _ _ _ => cases hresult

/-- The record of the applied spec stays, unless an applied object touches it. -/
theorem Course.appliedSpec_of_unrecorded {after : World} {c : Changes}
    {result : Except Failure (Decision × Nat)} (h : Course input network w result after c)
    (hnone : c.recorded = [])
    (huntouched : ∀ effect ∈ c.applied,
      ¬ effect.Touches w.server.serving.storing network.name Names.appliedSpecKey) :
    after.server.annotation network.name Names.appliedSpecKey =
      w.server.annotation network.name Names.appliedSpecKey := by
  refine h.did.annotation_eq fun effect hmem htouches => ?_
  rcases h.touches hmem htouches with ⟨applied, happlied, hself⟩ | ⟨hkey, -⟩ | ⟨-, hrecorded⟩
  · exact huntouched applied happlied hself
  · exact absurd hkey (by decide)
  · exact hrecorded hnone

/-- The request that reports the status of a pass after a failure. -/
def failureReport (input : PassInput) (network : NetworkObject) (w : World)
    (status : RolloutStatus) : Except ApiError Json × Server :=
  (attempt input network (network.status.getD {}) w).world.server.patchStatus input.faults .network
    network.name (statusPatch status)

/-- What becomes of a pass with a failed request. -/
structure FailsSoon (input : PassInput) (network : NetworkObject) (w : World) (e : Failure)
    (status : RolloutStatus) (c : Changes) : Prop where
  /-- The pass is tried again in ten seconds. -/
  requeue : (reconcile input network w).requeue = seconds 10
  counted : w.metrics.CountsOne network.name "error" (reconcile input network w).world.metrics
  tells : status.TellsOf e (network.status.getD {})
  /-- Nothing comes after the attempt but the report of the status. -/
  reported : (reconcile input network w).world.server = (failureReport input network w status).2
  course : Course input network w (.error e)
    (attempt input network (network.status.getD {}) w).world c
  /-- The pass does not record its spec. -/
  unrecorded : c.recorded = []
  /-- The record of the applied spec stays, unless the network itself has been applied with one. -/
  record : (∀ effect ∈ c.applied,
      ¬ effect.Touches w.server.serving.storing network.name Names.appliedSpecKey) →
    (reconcile input network w).world.server.annotation network.name Names.appliedSpecKey =
      w.server.annotation network.name Names.appliedSpecKey
  /-- A server that merges what is applied has the status that tells of the failure if it can be
  written, and else the one that it had. -/
  stored : w.server.serving.storing = .merges →
    ∀ body, w.server.find? .network "" network.name = some body →
      statusOf? body = some (network.status.getD {}) →
      ∃ body' stored, (reconcile input network w).world.server.find? .network "" network.name =
          some body' ∧
        statusOf? body' = some stored ∧
        match (failureReport input network w status).1 with
        | .ok _ => stored.TellsOf e (network.status.getD {})
        | .error _ => stored = network.status.getD {}

/-- The status of a pass after a failure. -/
def failureStatus (input : PassInput) (network : NetworkObject) (w : World) (e : Failure) :
    RolloutStatus :=
  let o := attempt input network (network.status.getD {}) w
  o.status.failed (input.start.later o.elapsed) "TransientError" e.message

theorem reconcile_of_failed (hgoes : wait? input network = none) (he : e.Tells)
    (hfails : (attempt input network (network.status.getD {}) w).result = .error e) :
    let o := attempt input network (network.status.getD {}) w
    reconcile input network w =
      ⟨transientRequeue, o.elapsed,
        { o.world with
          server := (failureReport input network w (failureStatus input network w e)).2
          metrics := o.world.metrics.recordReconcile network.name "error" o.elapsed }⟩ := by
  dsimp only
  unfold failureReport
  rw [← reportStatus_snd, reconcile_eq hgoes]
  dsimp only
  rw [hfails]
  dsimp only
  unfold fail
  rw [report_of_tells he]
  rfl

theorem tellsOf_failureStatus (input : PassInput) (network : NetworkObject) (w : World)
    (e : Failure) : (failureStatus input network w e).TellsOf e (network.status.getD {}) := by
  obtain ⟨hgeneration, hdecision, -⟩ := attempt_keeps input network (network.status.getD {}) w
  exact RolloutStatus.tellsOf_failed hgeneration hdecision _

/-- The stored network after the report of a failure. -/
theorem statusOf?_failureReport {body : Json} {given status : RolloutStatus}
    (hedits : Edits network.name w.server
      (attempt input network (network.status.getD {}) w).world.server)
    (hbody : w.server.find? .network "" network.name = some body)
    (hgiven : statusOf? body = some given) (htells : status.TellsOf e given) :
    let report := failureReport input network w status
    ∃ body' stored, report.2.find? .network "" network.name = some body' ∧
      statusOf? body' = some stored ∧
      match report.1 with
      | .ok _ => stored.TellsOf e given
      | .error _ => stored = given := by
  intro report
  obtain ⟨edited, hedited, hstands⟩ := hedits.network body hbody
  have hkept := hstands.status given hgiven
  rcases patchStatus_cases hedited status.toJson input.faults with
    ⟨e', herror, hdid⟩ | ⟨hok, -, hpatched⟩
  · refine ⟨edited, given, (find?_congr hdid.objects).trans hedited, hkept, ?_⟩
    change report.1 = .error e' at herror
    rw [herror]
  · have hrange := htells.observedGeneration ▸ inRange_of_statusOf? hgiven
    obtain ⟨old, hold, hread⟩ := statusOf?_statusPatch hkept hrange
    refine ⟨_, _, hpatched, hread, ?_⟩
    change report.1 = .ok _ at hok
    rw [hok]
    exact htells.laidOver hold

/-- A pass whose attempt fails so. -/
theorem failsSoon (hgoes : wait? input network = none) (he : e.Tells)
    (hfails : (attempt input network (network.status.getD {}) w).result = .error e)
    (hhit : input.faults.Hit w.server.requests
      (attempt input network (network.status.getD {}) w).world.server.requests) :
    ∃ c, FailsSoon input network w e (failureStatus input network w e) c := by
  have hpass := reconcile_of_failed hgoes he hfails
  have hcounts := (attempt_keeps input network (network.status.getD {}) w).2.2
  have htells := tellsOf_failureStatus input network w e
  obtain ⟨c, hcourse⟩ := attempt_course input network (network.status.getD {}) w
  obtain ⟨⟨reports, hreports, heach⟩, -⟩ := reconcile_reports (w := w) hgoes
  rw [hfails] at hcourse
  have hserver : (reconcile input network w).world.server =
      (failureReport input network w (failureStatus input network w e)).2 := by rw [hpass]
  have hnone := hcourse.recorded_of_hit hhit
  refine ⟨c, ?_, ?_, htells, hserver, hcourse, hnone, fun huntouched => ?_,
    fun hmerges body hbody hstatus => ?_⟩
  · rw [hpass]
    rfl
  · rw [hpass]
    exact Metrics.countsOne_recordReconcile _ _ _ hcounts
  · rw [annotation_of_reports hreports heach]
    exact hcourse.appliedSpec_of_unrecorded hnone huntouched
  · rw [hserver]
    exact statusOf?_failureReport (hcourse.edits hmerges) hbody hstatus htells

/-! ## Requests that may fail -/

/-- The report of the status of a pass, as it is answered. -/
def reporting (input : PassInput) (network : NetworkObject) (o : Outcome) :
    Except Failure Unit × Server :=
  let (status, server) := reported input network o
  server.reportStatus input.faults network.name (statusPatch status)

/-- A pass that cannot report its success comes back in five seconds. -/
theorem reconcile_of_unreported {done : Decision × Nat} {failed : Failure}
    (hgoes : wait? input network = none)
    (hok : (attempt input network (network.status.getD {}) w).result = .ok done)
    (hunreported : (reporting input network
      (attempt input network (network.status.getD {}) w)).1 = .error failed) :
    (reconcile input network w).requeue = seconds 5 ∧
      w.metrics.CountsOne network.name "error" (reconcile input network w).world.metrics := by
  have hcounts := (attempt_keeps input network (network.status.getD {}) w).2.2
  obtain ⟨decision, applied⟩ := done
  unfold reporting reported at hunreported
  dsimp only at hunreported
  rw [hok] at hunreported
  dsimp only at hunreported
  rw [reconcile_eq hgoes]
  dsimp only
  rw [hok]
  dsimp only
  unfold succeed
  dsimp only
  revert hunreported
  rcases Server.reportStatus _ _ _ _ with ⟨e | _, server⟩
  · rintro -
    exact ⟨rfl, Metrics.countsOne_recordReconcile _ _ _ hcounts⟩
  · rintro ⟨⟩

end Reconcile

/-- A step that has an answer, whatever it is asked in. -/
def Answers {σ α : Type} (step : PassM σ α) : Prop :=
  ∀ run, Ends step run fun answer _ => ∃ a, answer = .ok a

theorem Bootstrap.answers_gatewayMode {σ : Type} (env : Surroundings σ) (ns : Namespaces)
    (spec : NetworkSpec) : Answers (gatewayMode env ns spec) := by
  intro run
  unfold gatewayMode
  cases spec.overlay.bind (·.gateway) with
  | some gateway => exact ⟨_, rfl⟩
  | none =>
    rw [ends_bind, ends_attempt]
    rcases (env.configMap ns.operator Names.gatewayModeConfig run.world).1 with e | data <;>
      exact ⟨_, rfl⟩

theorem Bootstrap.answers_flowSettings {σ : Type} (env : Surroundings σ) (ns : Namespaces) :
    Answers (flowSettings env ns) := by
  intro run
  unfold flowSettings
  rw [ends_bind, ends_attempt]
  rcases (env.configMap ns.operator Names.flowsConfig run.world).1 with e | data <;>
    exact ⟨_, rfl⟩

/-- The config map of the operator with the name. -/
def PassInput.operatorConfig (input : PassInput) (name : String) : LostConfig :=
  ⟨input.settings.namespaces.operator, name⟩

/-- What becomes of a pass that is not skipped, by the request that fails. One that the pass needs
makes it fail soon to be tried again. A config map with a setting that has a default may as well not
exist, and looking for it does not fail. And a success that cannot be reported counts as an
error. -/
theorem reconcile_faults (input : PassInput) (network : NetworkObject) (w : World)
    (hgoes : Reconcile.wait? input network = none) :
    let result := reconcile input network w
    let o := Reconcile.attempt input network (network.status.getD {}) w
    let env := surroundings input.faults network.name
    (input.faults.Hit w.server.requests result.world.server.requests →
      ∃ e status c, o.result = .error e ∧ Reconcile.FailsSoon input network w e status c) ∧
    (∀ name ∈ optionalConfigs,
      input.faults.Denies (.readConfig name) w.server.requests result.world.server.requests →
        let c := input.operatorConfig name
        PassResult.SameWithout c result
          (reconcile (input.without c) network (w.without c))) ∧
    (∀ spec, Answers (Bootstrap.gatewayMode env input.settings.namespaces spec)) ∧
    Answers (Bootstrap.flowSettings env input.settings.namespaces) ∧
    ∀ done failed, o.result = .ok done →
      (Reconcile.reporting input network o).1 = .error failed →
      result.requeue = Reconcile.seconds 5 ∧
        w.metrics.CountsOne network.name "error" result.world.metrics := by
  intro result o env
  refine ⟨fun hhit => ?_, fun name hname hdenies => ?_, fun spec => ?_, ?_, ?_⟩
  · -- the requests after the attempt are no trouble, so one of the attempt failed
    have hfirst :=
      ((Reconcile.onlyTolerated_kept input.faults network.name).reconcile hgoes w).hit hhit
    have hname : Names.gatewayModeConfig ∈ optionalConfigs := List.mem_cons_self
    have hbeside := Reconcile.attempt_beside (c := input.operatorConfig Names.gatewayModeConfig)
      hname rfl network (network.status.getD {}) w
    obtain ⟨e, he, htells⟩ := hbeside.told hfirst
    obtain ⟨c, hfails⟩ := Reconcile.failsSoon hgoes htells he hfirst
    exact ⟨e, _, c, he, hfails⟩
  · exact Reconcile.reconcile_same (c := input.operatorConfig name) hname rfl hgoes hdenies
  · exact Bootstrap.answers_gatewayMode env _ spec
  · exact Bootstrap.answers_flowSettings env _
  · intro done failed hok hunreported
    exact Reconcile.reconcile_of_unreported hgoes hok hunreported

/-! ## Failures on a fresh server -/

theorem Except.exists_ok_of_toBool {ε α : Type} {x : Except ε α} (h : x.toBool = true) :
    ∃ a, x = .ok a := by
  cases x with
  | ok a => exact ⟨a, rfl⟩
  | error e => cases h

theorem Except.exists_error_of_toBool {ε α : Type} {x : Except ε α} (h : x.toBool = false) :
    ∃ e, x = .error e := by
  cases x with
  | ok a => cases h
  | error e => exact ⟨e, rfl⟩

namespace Reconcile

/-- A first pass with these faults. -/
def freshPass (manifests : Directory) (faults : Faults) : PassInput :=
  { settings := {}, manifests, faults, start := .epoch }

/-- A directory without manifests. -/
def noManifests : Directory := { path := "/bindata", entries := some [] }

end Reconcile

open Reconcile in
theorem reconcile_faults_fresh :
    let network := (NetworkObject.ofJson? freshNetwork).getD {}
    let w : World := { server := freshServer }
    let unlisted := freshPass noManifests (.failing (·.verb = .list))
    let unset := freshPass noManifests (.failing (· = .readConfig Names.gatewayModeConfig))
    let unreported := freshPass noManifests (.failing (·.verb = .patchStatus))
    let c := unset.operatorConfig Names.gatewayModeConfig
    (wait? unlisted network = none ∧
      ∃ e status c, (attempt unlisted network (network.status.getD {}) w).result = .error e ∧
        FailsSoon unlisted network w e status c) ∧
    PassResult.SameWithout c (reconcile unset network w)
      (reconcile (unset.without c) network (w.without c)) ∧
    (reconcile unreported network w).requeue = seconds 5 := by
  intro network w unlisted unset unreported c
  have hgoes : wait? unlisted network = none := by decide +kernel
  refine ⟨⟨hgoes, ?_⟩, ?_, ?_⟩
  · refine (reconcile_faults unlisted network w hgoes).1 ?_
    have hlisted : (reconcile unlisted network w).world.server.requests[3]? =
        some ⟨.list, Kind.node.plural, ""⟩ := by decide +kernel
    exact ⟨3, _, _, Nat.zero_le 3, hlisted, rfl, by decide, by decide⟩
  · exact (reconcile_faults unset network w (by decide +kernel)).2.1 _ List.mem_cons_self
      fun _ _ _ => rfl
  · have hok : (attempt unreported network (network.status.getD {}) w).result.toBool = true := by
      decide +kernel
    have hfails : (reporting unreported network
        (attempt unreported network (network.status.getD {}) w)).1.toBool = false := by
      decide +kernel
    obtain ⟨done, hdone⟩ := Except.exists_ok_of_toBool hok
    obtain ⟨failed, hfailed⟩ := Except.exists_error_of_toBool hfails
    exact ((reconcile_faults unreported network w (by decide +kernel)).2.2.2.2 done failed hdone
      hfailed).1

namespace Reconcile

/-- A manifest of the network itself, with a record, and one of a namespace. -/
def selfAndNamespace : Directory where
  path := "/bindata"
  entries := some [("a.yaml", .file
    ("apiVersion: operator.openshift.io/v1\nkind: Network\nmetadata:\n name: c\n" ++
      " annotations:\n  network.operator.openshift.io/applied-spec: x\n---\n" ++
      "apiVersion: v1\nkind: Namespace\nmetadata:\n name: n\n"))]

/-- The record can change in a pass with a failed request: the first object that is applied is the
network itself, and the second one cannot be applied. -/
theorem not_appliedSpec_kept_by_failed :
    ¬ ∀ (input : PassInput) (network : NetworkObject) (w : World),
      wait? input network = none →
      input.faults.Hit w.server.requests (reconcile input network w).world.server.requests →
        (reconcile input network w).world.server.annotation network.name Names.appliedSpecKey =
          w.server.annotation network.name Names.appliedSpecKey := by
  intro h
  let network := (NetworkObject.ofJson? freshNetwork).getD {}
  let w : World := { server := freshServer }
  let input := freshPass selfAndNamespace (.failing (·.resource = "namespaces"))
  have hrun : wait? input network = none ∧
      (reconcile input network w).world.server.requests[15]? = some ⟨.apply, "namespaces", "n"⟩ ∧
      (w.server.annotation network.name Names.appliedSpecKey).isSome = false ∧
      ((reconcile input network w).world.server.annotation network.name
        Names.appliedSpecKey).isSome = true := by
    decide +kernel
  obtain ⟨hgoes, hlast, hbefore, hafter⟩ := hrun
  rw [h input network w hgoes ⟨15, _, _, Nat.zero_le 15, hlast, rfl, by decide, by decide⟩,
    hbefore] at hafter
  cases hafter

end Reconcile

end NetworkRollout
