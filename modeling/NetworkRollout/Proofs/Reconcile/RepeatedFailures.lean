import NetworkRollout.Proofs.Json.RepeatedPatch
import NetworkRollout.Proofs.Reconcile.Waits
import NetworkRollout.Proofs.Status.Repetition

/-!
# Failures that repeat

A pass that fails as the one before it did has the same status to report, and the patch of the
status finds the stored one as it would have it. So nothing that is stored changes, and nobody who
watches the network is woken.

* `RolloutStatus.distinct_toJson`: a status gives no name twice.
* `FailingOutcome.on_laidOver`: a failure on top of what the server made of it.
* `Reconcile.exists_failingOutcome`: every failing pass reports such an outcome.
* `Server.statusJson`, `Server.Same`: what is written of a status, and servers that look alike.
* `Server.same_patchStatus`: where the patch of a status changes nothing.
* `FailingOutcome.repeated`: the second report changes nothing.
-/

namespace NetworkRollout

open Json

/-! ## The patch of a status -/

theorem Decision.distinct_toJson (d : Decision) : d.toJson.Distinct := by
  have hnames : ["updateMaster", "updateNode", "renderPrepull"].Nodup := by decide
  refine .object hnames fun m hm => .plain ?_
  change m ∈ [("updateMaster", Json.bool d.updateMaster), ("updateNode", .bool d.updateNode),
    ("renderPrepull", .bool d.renderPrepull)] at hm
  simp only [List.mem_cons, List.not_mem_nil, or_false] at hm
  rcases hm with rfl | rfl | rfl <;> rfl

namespace RolloutStatus

/-- A status gives no name twice, nor does the decision in it. -/
theorem distinct_toJson (s : RolloutStatus) : s.toJson.Distinct := by
  refine .object s.nodup_memberList fun m hm => ?_
  obtain ⟨member, hmember, hsome⟩ := List.mem_filterMap.mp hm
  simp only [List.mem_cons, List.not_mem_nil, or_false] at hmember
  have hany : ∀ {α : Type} {name : String} {write : α → Json} {items : List α},
      id (whenAny name write items) = some m → m.2.Distinct := by
    intro α name write items h
    unfold whenAny at h
    split at h
    · cases h
    · cases h
      exact .plain rfl
  have hsomeOf : ∀ {α : Type} {name : String} {write : α → Json} {value : Option α},
      (∀ a, (write a).Distinct) → id (whenSome name write value) = some m → m.2.Distinct := by
    intro α name write value hwrite h
    obtain ⟨a, -, rfl⟩ := Option.map_eq_some_iff.mp h
    exact hwrite a
  rcases hmember with rfl | rfl | rfl | rfl | rfl | rfl | rfl | rfl | rfl | rfl
  · cases hsome
    exact .plain rfl
  · exact hany hsome
  · exact hsomeOf (fun _ => .plain rfl) hsome
  · exact hsomeOf Decision.distinct_toJson hsome
  · exact hsomeOf (fun _ => .plain rfl) hsome
  · exact hsomeOf (fun _ => .plain rfl) hsome
  · exact hsomeOf (fun _ => .plain rfl) hsome
  · cases hsome
    cases s.message with
    | none => exact .plain rfl
    | some text => exact .plain rfl
  · exact hsomeOf (fun _ => .plain rfl) hsome
  · exact hany hsome

end RolloutStatus

namespace FailingOutcome

variable {f : FailingOutcome} {surveyed ended : Moment} {s old : RolloutStatus}

/-- What the server has kept of the old status is either what the failure has left as it was, or
what the failure sets again. -/
theorem facts_laidOver (h : old = s ∨ old = {}) :
    f.facts ((f.on surveyed ended s).laidOver old) = f.on surveyed ended s := by
  obtain ⟨_ | ⟨snapshot, spec⟩, faults | ⟨reason, message⟩⟩ := f <;> rcases h with rfl | rfl <;>
    simp [facts, on, RolloutStatus.laidOver, RolloutStatus.invalid, RolloutStatus.failed,
      RolloutStatus.bootstrapped, RolloutStatus.setCondition]

/-- The same failure on top of what the server has made of the first report. -/
theorem on_laidOver (h : old = s ∨ old = {}) (surveyed' ended' : Moment) :
    f.on surveyed' ended' ((f.on surveyed ended s).laidOver old) = f.on surveyed ended s := by
  rw [on_eq f surveyed' ended', facts_laidOver h, afterCalls_on]

theorem observedGeneration_on (f : FailingOutcome) (surveyed ended : Moment) (s : RolloutStatus) :
    (f.on surveyed ended s).observedGeneration = s.observedGeneration := by
  obtain ⟨_ | ⟨snapshot, spec⟩, faults | ⟨reason, message⟩⟩ := f <;> rfl

end FailingOutcome

/-! ## Failing passes -/

/-- What a failure lets a pass say of itself. -/
def Failure.verdict : Failure → Verdict
  | .invalidConfig faults => .invalid faults
  | e => .failed (if e.isTransient then "TransientError" else "RolloutFailed") e.message

namespace Reconcile

theorem status_report (interval : Nat) (now : Moment) (e : Failure) (s : RolloutStatus) :
    (report interval now e s).1 = FailingOutcome.on ⟨none, e.verdict⟩ now now s := by
  cases e <;> rfl

/-- Every pass that fails reports a failing outcome of the status that it has read. -/
theorem exists_failingOutcome {input : PassInput} {network : NetworkObject} {w : World}
    {e : Failure} (h : (attempt input network (network.status.getD {}) w).result = .error e) :
    ∃ (f : FailingOutcome) (surveyed ended : Moment),
      (reported input network (attempt input network (network.status.getD {}) w)).1 =
        f.on surveyed ended (network.status.getD {}) := by
  unfold reported
  dsimp only
  rw [h]
  dsimp only
  rw [status_report, attempt_eq]
  rcases preparation input network w with ⟨e' | prepared, run⟩
  · exact ⟨⟨none, e.verdict⟩, _, _, rfl⟩
  · exact ⟨⟨some (prepared.snapshot, prepared.spec), e.verdict⟩,
      input.start.later run.elapsed, input.start.later run.elapsed, rfl⟩

end Reconcile

/-! ## Reports on the server -/

namespace Server

variable {s s' : Server} {name : String} {n n' : NetworkObject} {new : RolloutStatus}

/-- The status of the network as it is written on the server. -/
def statusJson (s : Server) (name : String) : Json :=
  ((s.find? .network "" name).getD .null).field "status"

/-- Whoever looks finds the same. -/
def Same (s s' : Server) : Prop :=
  ∀ kind namespaceName name, s'.find? kind namespaceName name = s.find? kind namespaceName name

theorem statusJson_of_find? {body : Members} (h : s.find? .network "" name = some (.object body)) :
    s.statusJson name = body.getD "status" := by
  unfold statusJson
  rw [h]
  rfl

/-- The status that is read depends on what is written of it alone. -/
theorem status_eq_of_statusJson (hn : s.network? name = some n) (hn' : s'.network? name = some n')
    (h : s'.statusJson name = s.statusJson name) : n'.status = n.status := by
  obtain ⟨body, hfind, hread⟩ := network?_eq_some hn
  obtain ⟨body', hfind', hread'⟩ := network?_eq_some hn'
  rw [statusJson_of_find? hfind, statusJson_of_find? hfind'] at h
  have hstatus := (NetworkObject.ofJson?_object_iff.mp hread).2.2.2
  have hstatus' := (NetworkObject.ofJson?_object_iff.mp hread').2.2.2
  have hoptional : ∀ ms : Members, Fields.optional ms "status" RolloutStatus.ofJson? =
      Fields.optional [("status", ms.getD "status")] "status" RolloutStatus.ofJson? := by
    intro ms
    unfold Fields.optional Members.getD Members.get?
    cases List.lookup "status" ms <;> rfl
  rw [hoptional] at hstatus hstatus'
  rw [h, hstatus] at hstatus'
  exact (Option.some.inj hstatus').symm

/-- A patch that comes through merges the status into the one that is written. -/
theorem statusJson_patchStatus {faults : Faults} {answer : Json} (hn : s.network? name = some n)
    (h : (s.patchStatus faults .network name (Reconcile.statusPatch new)).1 = .ok answer) :
    (s.patchStatus faults .network name (Reconcile.statusPatch new)).2.statusJson name =
      merge (s.statusJson name) new.toJson := by
  obtain ⟨body, hfind, -⟩ := network?_eq_some hn
  rcases patchStatus_cases hfind new.toJson faults with ⟨e, herror, -⟩ | ⟨-, -, hmerged⟩
  · cases herror.symm.trans h
  · rw [statusJson_of_find? hfind]
    unfold statusJson Reconcile.statusPatch
    rw [hmerged]
    exact field_merge_self rfl (.object body)

/-- A patch of a status that is written already leaves all as it is. -/
theorem same_patchStatus (hn : s.network? name = some n)
    (h : merge (s.statusJson name) new.toJson = s.statusJson name) (faults : Faults) :
    Same s (s.patchStatus faults .network name (Reconcile.statusPatch new)).2 := by
  obtain ⟨body, hfind, -⟩ := network?_eq_some hn
  rw [statusJson_of_find? hfind] at h
  intro kind namespaceName other
  rcases patchStatus_cases hfind new.toJson faults with ⟨e, -, hdid⟩ | ⟨-, hdid, hmerged⟩
  · exact find?_congr hdid.objects
  · by_cases hat : (Kind.network, "", name) = (kind, namespaceName, other)
    · cases hat
      unfold Reconcile.statusPatch
      rw [hmerged, hfind]
      refine congrArg some (congrArg Json.object (mergeMembers_eq_self fun m hm => ?_))
      rw [List.mem_singleton.mp hm]
      change Members.get? body "status" = some (merge (Members.getD body "status") new.toJson)
      rw [h]
      unfold Members.getD at h ⊢
      cases hstored : Members.get? body "status" with
      | some status => rfl
      | none =>
        rw [hstored] at h
        cases h
    · refine hdid.find?_eq fun effect hmem htarget => hat ?_
      rw [List.mem_singleton.mp hmem] at htarget
      exact Option.some.inj htarget

end Server

/-- The same failure once more, at any moment and whatever the status was at first, changes neither
the conditions nor anything else of it. So when the report of a failing pass has come through, and
nothing else has written the status since, the next pass that fails in the same way has the same
status to report, and its report leaves all that is stored as it is. -/
theorem FailingOutcome.repeated (f : FailingOutcome) (surveyed ended surveyed' ended' : Moment) :
    (∀ s, f.on surveyed' ended' (f.on surveyed ended s) = f.on surveyed ended s) ∧
      ∀ (s : Server) (faults : Faults) (name : String) (n : NetworkObject),
        s.network? name = some n →
        let reported := f.on surveyed ended (n.status.getD {})
        let patched := s.patchStatus faults .network name (Reconcile.statusPatch reported)
        (∃ answer, patched.1 = .ok answer) →
        ∀ (s' : Server) (n' : NetworkObject), s'.network? name = some n' →
          s'.statusJson name = patched.2.statusJson name →
          let again := f.on surveyed' ended' (n'.status.getD {})
          again = reported ∧ ∀ faults', Server.Same s'
            (s'.patchStatus faults' .network name (Reconcile.statusPatch again)).2 := by
  refine ⟨f.on_on surveyed ended surveyed' ended', ?_⟩
  intro s faults name n hn reported patched hok s' n' hn' hkept again
  obtain ⟨body, -, hread⟩ := Server.network?_eq_some hn
  have hgeneration : i64? (.int reported.observedGeneration) =
      some reported.observedGeneration := by
    rw [observedGeneration_on]
    exact (NetworkObject.inRange_of_ofJson? hread).observedGeneration
  rcases Server.network?_patchStatus hn hgeneration faults with
    ⟨-, old, hold, hstored⟩ | ⟨⟨e, herror⟩, -⟩
  · have hstatus := Server.status_eq_of_statusJson hstored hn' hkept
    have hagain : again = reported := by
      change f.on surveyed' ended' (n'.status.getD {}) = _
      rw [hstatus]
      exact on_laidOver hold surveyed' ended'
    refine ⟨hagain, fun faults' => ?_⟩
    rw [hagain]
    refine Server.same_patchStatus hn' ?_ faults'
    obtain ⟨answer, hanswer⟩ := hok
    rw [hkept, Server.statusJson_patchStatus hn hanswer]
    exact merge_merge reported.distinct_toJson _
  · obtain ⟨answer, hanswer⟩ := hok
    cases herror.symm.trans hanswer

/-! ## A network that was rolled out -/

namespace Server

/-- A stored network that was rolled out at the start of 1970. -/
def rolledOutBody : Members :=
  [("metadata", .object [("name", .text "default"), ("generation", .int 1)]),
    ("spec", NetworkSpec.toJson {}),
    ("status", .object [("observedGeneration", .int 1),
      ("lastReconciledAt", Moment.epoch.toJson)])]

def rolledOutNetwork : NetworkObject :=
  { metadata := { name := some "default", generation := some 1 }
    status := some { observedGeneration := 1, reconciledAt := some .epoch } }

theorem ofJson?_rolledOutBody :
    NetworkObject.ofJson? (.object rolledOutBody) = some rolledOutNetwork := by
  refine NetworkObject.ofJson?_object_iff.mpr ⟨rfl, rfl, NetworkSpec.ofJson?_toJson {}, ?_⟩
  have hread : RolloutStatus.ofJson? (.object [("observedGeneration", .int 1),
      ("lastReconciledAt", Moment.epoch.toJson)]) =
        some { observedGeneration := 1, reconciledAt := some .epoch } :=
    RolloutStatus.ofJson?_object_iff.mpr
      ⟨rfl, rfl, rfl, rfl, rfl, rfl, rfl, rfl, rfl, rfl, rfl⟩
  have hstored : List.lookup "status" rolledOutBody = some (.object [("observedGeneration", .int 1),
      ("lastReconciledAt", Moment.epoch.toJson)]) := rfl
  unfold Json.Fields.optional
  rw [hstored]
  change (RolloutStatus.ofJson? _).map some = _
  rw [hread]
  rfl

/-- A server with that network. -/
def rolledOut : Server where
  objects := [⟨.network, "", "default", .object rolledOutBody⟩]

end Server

/-- A time-out a minute after one of the same kind, on a network that was rolled out before. -/
theorem FailingOutcome.repeated_afterAMinute :
    let f : FailingOutcome := ⟨none, .failed "TransientError" "timeout"⟩
    let s := Server.rolledOut
    let reported := f.on .epoch .epoch (Server.rolledOutNetwork.status.getD {})
    let patched := s.patchStatus (fun _ _ => none) .network "default"
      (Reconcile.statusPatch reported)
    s.network? "default" = some Server.rolledOutNetwork ∧ (∃ answer, patched.1 = .ok answer) ∧
      ∃ n', patched.2.network? "default" = some n' ∧
        let again := f.on (.later .epoch 60000) (.later .epoch 60000) (n'.status.getD {})
        again = reported ∧ Server.Same patched.2 (patched.2.patchStatus (fun _ _ => none) .network
          "default" (Reconcile.statusPatch again)).2 := by
  intro f s reported patched
  have hn : s.network? "default" = some Server.rolledOutNetwork := Server.ofJson?_rolledOutBody
  have hok : ∃ answer, patched.1 = .ok answer := ⟨_, rfl⟩
  have hgeneration : i64? (.int reported.observedGeneration) =
      some reported.observedGeneration := rfl
  rcases Server.network?_patchStatus hn hgeneration (fun _ _ => none) with
    ⟨-, old, -, hstored⟩ | ⟨⟨e, herror⟩, -⟩
  · have hagain := (repeated f .epoch .epoch (.later .epoch 60000) (.later .epoch 60000)).2
      s _ "default" _ hn hok patched.2 _ hstored rfl
    exact ⟨hn, hok, _, hstored, hagain.1, hagain.2 _⟩
  · obtain ⟨answer, hanswer⟩ := hok
    cases herror.symm.trans hanswer

end NetworkRollout
