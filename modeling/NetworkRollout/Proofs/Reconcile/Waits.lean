import NetworkRollout.Proofs.Reconcile.Atomicity
import NetworkRollout.Proofs.Server.Network

/-!
# What a pass leaves for the next one

A pass is skipped on the word of the stored status alone. The status tells of the outcome that was
persisted last: a message stands for a failure, and without one there is a success, with its
generation and its moment. On a server that merges what is applied, a pass that is not skipped edits
the network at most, up to the patch of its status; and the patch tells how the pass went or does
not come through.

* `RolloutStatus.outcome?`, `Reconcile.remainingWait?_eq_some_iff`: what a skip is decided on.
* `Reconcile.persisted?`: the outcome that a pass persists.
* `Reconcile.Course.edits`: what a pass does to the network before its report.
* `Reconcile.find?_reconcile`: what it leaves in the status.
-/

namespace NetworkRollout

open Server

/-- How a pass went, as the status tells it. -/
inductive Persisted where
  | success (generation : Int) (moment : Moment)
  | failure
  deriving DecidableEq, Repr

/-- The outcome that a status tells: a failure leaves a message, a success its generation and its
moment. -/
def RolloutStatus.outcome? (s : RolloutStatus) : Option Persisted :=
  match s.message, s.reconciledAt with
  | some _, _ => some .failure
  | none, some moment => some (.success s.observedGeneration moment)
  | none, none => none

theorem RolloutStatus.outcome?_of_message {s : RolloutStatus} (h : s.message.isSome) :
    s.outcome? = some .failure := by
  obtain ⟨text, htext⟩ := Option.isSome_iff_exists.mp h
  unfold outcome?
  rw [htext]

theorem RolloutStatus.outcome?_eq_success_iff {s : RolloutStatus} {generation : Int}
    {moment : Moment} : s.outcome? = some (.success generation moment) ↔
      s.message = none ∧ s.reconciledAt = some moment ∧ s.observedGeneration = generation := by
  unfold outcome?
  cases s.message <;> cases s.reconciledAt <;> simp [and_comm]

/-- A status that tells an outcome tells the same over another one. -/
theorem RolloutStatus.outcome?_laidOver {new old : RolloutStatus} (h : new.outcome?.isSome) :
    (new.laidOver old).outcome? = new.outcome? := by
  unfold outcome? laidOver at *
  dsimp only at *
  cases hmessage : new.message with
  | some text => rfl
  | none =>
    cases hmoment : new.reconciledAt with
    | some moment => rfl
    | none =>
      rw [hmessage, hmoment] at h
      cases h

/-- The later moment is not earlier. -/
theorem Moment.total_le_later (m : Moment) (milliseconds : Nat) :
    m.total ≤ (m.later milliseconds).total := by
  unfold later
  dsimp only
  generalize hsum : m.total + milliseconds * 1000000 = sum
  have hnanos : (nanosPerSecond : Int) = 1000000000 := rfl
  unfold of?
  split
  case isTrue =>
    have hmod := Int.emod_nonneg sum (b := nanosPerSecond) (by omega)
    have hsplit := Int.ediv_mul_add_emod sum nanosPerSecond
    change m.total ≤ sum / nanosPerSecond * nanosPerSecond + ((sum % nanosPerSecond).toNat : Int)
    rw [Int.toNat_of_nonneg hmod, hsplit]
    omega
  case isFalse => exact Int.le_refl _

namespace Reconcile

variable {input : PassInput} {network : NetworkObject} {w : World}

/-! ## What a skip is decided on -/

/-- A pass waits if the status tells of a success for its generation, within the interval; then for
the rest of the interval. A success in the future counts as one just now. -/
theorem remainingWait?_eq_some_iff {status : RolloutStatus} {generation : Int} {interval : Nat}
    {now : Moment} {wait : Requeue} :
    remainingWait? status generation interval now = some wait ↔
      ∃ done moment, status.outcome? = some (.success done moment) ∧ generation ≤ done ∧
        (now.total - moment.total).toNat < seconds interval ∧
        wait = seconds interval - (now.total - moment.total).toNat := by
  unfold remainingWait?
  constructor
  · intro h
    split at h
    case isTrue => cases h
    case isFalse hgoes =>
      obtain ⟨hgeneration, hmessage⟩ := not_or.mp hgoes
      cases hlast : status.reconciledAt with
      | none =>
        rw [hlast] at h
        cases h
      | some last =>
        rw [hlast] at h
        dsimp only at h
        split at h
        case isTrue hwithin =>
          cases h
          refine ⟨status.observedGeneration, last, ?_, Int.not_lt.mp hgeneration, hwithin, rfl⟩
          exact RolloutStatus.outcome?_eq_success_iff.mpr
            ⟨Option.not_isSome_iff_eq_none.mp hmessage, hlast, rfl⟩
        case isFalse => cases h
  · rintro ⟨done, moment, houtcome, hgeneration, hwithin, rfl⟩
    obtain ⟨hmessage, hlast, rfl⟩ := RolloutStatus.outcome?_eq_success_iff.mp houtcome
    have hgoes : ¬ (status.observedGeneration < generation ∨ status.message.isSome) := by
      rw [hmessage]
      rintro (hless | hsome)
      · exact absurd hgeneration (Int.not_le.mpr hless)
      · cases hsome
    rw [if_neg hgoes, hlast]
    exact if_pos hwithin

/-- A pass that is not skipped is not skipped later either, nor for a later generation, as long as
the status tells the same. -/
theorem remainingWait?_eq_none_mono {status status' : RolloutStatus} {generation generation' : Int}
    {interval : Nat} {now now' : Moment}
    (h : remainingWait? status generation interval now = none)
    (houtcome : status'.outcome? = status.outcome?) (hgeneration : generation ≤ generation')
    (hnow : now.total ≤ now'.total) :
    remainingWait? status' generation' interval now' = none := by
  rw [Option.eq_none_iff_forall_ne_some] at h ⊢
  intro wait hwait
  obtain ⟨done, moment, htold, hcovers, hwithin, -⟩ := remainingWait?_eq_some_iff.mp hwait
  rw [houtcome] at htold
  refine h _ (remainingWait?_eq_some_iff.mpr
    ⟨done, moment, htold, Int.le_trans hgeneration hcovers, ?_, rfl⟩)
  omega

theorem remainingWait?_of_failure {status : RolloutStatus} (h : status.outcome? = some .failure)
    (generation : Int) (interval : Nat) (now : Moment) :
    remainingWait? status generation interval now = none := by
  rw [Option.eq_none_iff_forall_ne_some]
  intro wait hwait
  obtain ⟨done, moment, htold, -⟩ := remainingWait?_eq_some_iff.mp hwait
  rw [h] at htold
  cases htold

/-- What is left of the interval, if a pass waits. -/
def wait? (input : PassInput) (network : NetworkObject) : Option Requeue :=
  remainingWait? (network.status.getD {}) network.generation input.settings.interval input.start

/-- A pass that is skipped does nothing. -/
theorem reconcile_of_skipped {wait : Requeue} (h : wait? input network = some wait) (w : World) :
    reconcile input network w = ⟨wait, 0, w⟩ := by
  unfold wait? at h
  unfold reconcile
  dsimp only
  rw [h]

/-! ## What a pass reports -/

/-- The status that a pass reports, and the server that it reports it to. -/
def reported (input : PassInput) (network : NetworkObject) (o : Outcome) :
    RolloutStatus × Server :=
  let now := input.start.later o.elapsed
  match o.result with
  | .ok (decision, applied) =>
    ({ o.status with observedGeneration := network.generation }.rolledOut now decision applied,
      o.world.server)
  | .error e =>
    let (status, warning, _) := report input.settings.interval now e o.status
    (status, match warning with
      | some reason => publish input.faults network.name reason e.message true o.world.server
      | none => o.world.server)

/-- The request that reports the status of a pass. -/
def patched (input : PassInput) (network : NetworkObject) (o : Outcome) :
    Except ApiError Json × Server :=
  let (status, server) := reported input network o
  server.patchStatus input.faults .network network.name (statusPatch status)

/-- How a pass went. -/
def told (input : PassInput) (network : NetworkObject) (o : Outcome) : Persisted :=
  match o.result with
  | .ok _ => .success network.generation (input.start.later o.elapsed)
  | .error _ => .failure

/-- The outcome that a pass persists; none if it is skipped or its status is not written. -/
def persisted? (input : PassInput) (network : NetworkObject) (w : World) : Option Persisted :=
  let o := attempt input network (network.status.getD {}) w
  match wait? input network, (patched input network o).1 with
  | none, .ok _ => some (told input network o)
  | _, _ => none

theorem persisted?_of_skipped {wait : Requeue} (h : wait? input network = some wait) :
    persisted? input network w = none := by
  unfold persisted?
  rw [h]

/-- A success is persisted with the moment at which its attempt ends. -/
theorem moment_of_persisted? {generation : Int} {moment : Moment}
    (h : persisted? input network w = some (.success generation moment)) :
    moment = input.start.later (attempt input network (network.status.getD {}) w).elapsed := by
  unfold persisted? told at h
  dsimp only at h
  split at h
  case h_1 =>
    split at h
    · cases h
      rfl
    · cases h
  case h_2 => cases h

theorem outcome?_report (interval : Nat) (now : Moment) (e : Failure) (status : RolloutStatus) :
    (report interval now e status).1.outcome? = some .failure := by
  refine RolloutStatus.outcome?_of_message ?_
  unfold report
  split
  case h_1 faults => rfl
  case h_2 => split <;> rfl

/-- The reported status tells how the pass went. -/
theorem outcome?_reported (input : PassInput) (network : NetworkObject) (o : Outcome) :
    (reported input network o).1.outcome? = some (told input network o) := by
  unfold reported told
  dsimp only
  cases o.result with
  | ok done =>
    obtain ⟨decision, applied⟩ := done
    dsimp only
    unfold RolloutStatus.rolledOut
    dsimp only
    split <;> rfl
  | error e => exact outcome?_report _ _ _ _

/-- A failure is reported on what the pass has built. -/
theorem derivedFrom_report {old s : RolloutStatus} (h : old.DerivedFrom s) (interval : Nat)
    (now : Moment) (e : Failure) : old.DerivedFrom (report interval now e s).1 := by
  unfold report
  split
  case h_1 faults => exact h.invalid now faults
  case h_2 =>
    split
    case isTrue => exact h.failed now _ _
    case isFalse => exact h.failed now _ _

theorem derivedFrom_attempt (input : PassInput) (network : NetworkObject) (status : RolloutStatus)
    (w : World) : status.DerivedFrom (attempt input network status w).status := by
  rw [attempt_eq]
  rcases preparation input network w with ⟨e | prepared, run⟩
  · exact .copy
  · exact .bootstrapped .copy _ _ _

theorem derivedFrom_reported (input : PassInput) {o : Outcome} {old : RolloutStatus}
    (h : old.DerivedFrom o.status)
    (hgeneration : Json.i64? (.int network.generation) = some network.generation) :
    old.DerivedFrom (reported input network o).1 := by
  unfold reported
  dsimp only
  cases o.result with
  | ok done => exact .rolledOut h hgeneration _ _ _
  | error e => exact derivedFrom_report h _ _ e

theorem objects_publish (faults : Faults) (network reason note : String) (warning : Bool)
    (s : Server) : (publish faults network reason note warning s).objects = s.objects := by
  obtain ⟨published, hpublished, hdid⟩ := did_publish faults ⟨warning, reason, note, network⟩ s
  change (Server.publish faults _ s).2.objects = s.objects
  rw [hdid.objects]
  rcases hpublished with rfl | rfl <;> rfl

/-- What is reported changes no object before it is. -/
theorem objects_reported (input : PassInput) (network : NetworkObject) (o : Outcome) :
    (reported input network o).2.objects = o.world.server.objects := by
  unfold reported
  dsimp only
  cases o.result with
  | ok done => rfl
  | error e =>
    dsimp only
    rcases report input.settings.interval (input.start.later o.elapsed) e o.status with
      ⟨status, _ | reason, wait⟩
    · rfl
    · exact objects_publish _ _ _ _ _ _

/-- A pass that is not skipped ends with its report, as far as objects go. -/
theorem objects_reconcile
    (h : wait? input network = none) :
    (reconcile input network w).world.server.objects =
      (patched input network (attempt input network (network.status.getD {}) w)).2.objects := by
  unfold patched
  dsimp only
  rw [reconcile_eq h, ← reportStatus_snd]
  unfold reported
  dsimp only
  cases (attempt input network (network.status.getD {}) w).result with
  | error e => rfl
  | ok done =>
    obtain ⟨decision, applied⟩ := done
    dsimp only
    unfold succeed
    dsimp only
    generalize Server.reportStatus _ _ _ _ = answered
    rcases answered with ⟨e | _, server⟩
    · rfl
    · dsimp only
      split
      case isTrue => rfl
      case isFalse => exact objects_publish _ _ _ _ _ _

theorem elapsed_reconcile
    (h : wait? input network = none) :
    (reconcile input network w).elapsed =
      (attempt input network (network.status.getD {}) w).elapsed := by
  rw [reconcile_eq h]
  dsimp only
  cases (attempt input network (network.status.getD {}) w).result with
  | error e => rfl
  | ok done =>
    obtain ⟨decision, applied⟩ := done
    dsimp only
    unfold succeed
    dsimp only
    generalize Server.reportStatus _ _ _ _ = answered
    rcases answered with ⟨e | _, server⟩ <;> rfl

/-! ## What a pass leaves in the status -/

/-- Up to its report a pass edits the network at most. -/
theorem Course.edits {result : Except Failure (Decision × Nat)} {after : World} {c : Changes}
    (h : Course input network w result after c) (hmerges : w.server.serving.storing = .merges) :
    Edits network.name w.server after.server := by
  refine Edits.of_did h.did fun effect hmem => ?_
  rcases h.mem_cases hmem with ⟨-, address, rfl⟩ | happlied | ⟨-, rfl⟩
  · exact Or.inr (Or.inl ⟨_, _, rfl⟩)
  · obtain ⟨_, -, o, -, type, kind, -, -, rfl⟩ := h.applied_each happlied
    by_cases hself : (kind, applyNamespace input.settings.namespaces kind o, o.anyName) =
        (.network, "", network.name)
    · refine Or.inr (Or.inr ⟨hmerges, o.toJson, ?_⟩)
      injection hself with hkind hself
      injection hself with hnamespace hname
      rw [hnamespace, hname, hkind]
    · exact Or.inl fun htarget => hself (Option.some.inj htarget)
  · exact Or.inr (Or.inl ⟨_, _, rfl⟩)

/-- The network after a pass that is not skipped: its status tells of the outcome that was
persisted, or else what it told before. -/
theorem find?_reconcile {body : Json}
    (hstored : w.server.find? .network "" network.name = some body)
    (hstatus : statusOf? body = some (network.status.getD {})) (hnetwork : network.InRange)
    (hmerges : w.server.serving.storing = .merges) (hgoes : wait? input network = none) :
    ∃ body' status, (reconcile input network w).world.server.find? .network "" network.name =
        some body' ∧
      generationOf body ≤ generationOf body' ∧ statusOf? body' = some status ∧
      status.outcome? = (persisted? input network w).or (network.status.getD {}).outcome? := by
  obtain ⟨c, hcourse⟩ := attempt_course input network (network.status.getD {}) w
  obtain ⟨edited, hedited, hstands⟩ := (hcourse.edits hmerges).network body hstored
  have hkept := hstands.status _ hstatus
  have hreported := (find?_congr (objects_reported input network
    (attempt input network (network.status.getD {}) w))).trans hedited
  rw [find?_congr (objects_reconcile hgoes)]
  unfold persisted? patched statusPatch
  dsimp only
  rw [hgoes]
  rcases patchStatus_cases hreported _ input.faults with ⟨e, herror, hdid⟩ | ⟨hok, -, hpatched⟩
  · refine ⟨edited, _, (find?_congr hdid.objects).trans hreported, hstands.generation, hkept, ?_⟩
    rw [herror]
    rfl
  · have hderived := derivedFrom_reported input
      (derivedFrom_attempt input network (network.status.getD {}) w) hnetwork.generation
    have hrange := hderived.keeps.generation hnetwork.observedGeneration
    have htold := outcome?_reported input network
      (attempt input network (network.status.getD {}) w)
    obtain ⟨old, -, hread⟩ := statusOf?_statusPatch hkept hrange
    refine ⟨_, _, hpatched, ?_, hread, ?_⟩
    · rw [generationOf_merge_status]
      exact hstands.generation
    · rw [hok, RolloutStatus.outcome?_laidOver (Option.isSome_iff_exists.mpr ⟨_, htold⟩), htold]
      rfl

theorem serving_reconcile (input : PassInput) (network : NetworkObject) (w : World) :
    (reconcile input network w).world.server.serving = w.server.serving := by
  cases hwait : wait? input network with
  | some wait => rw [reconcile_of_skipped hwait]
  | none =>
    obtain ⟨c, hcourse⟩ := attempt_course input network (network.status.getD {}) w
    obtain ⟨⟨reports, hreports, -⟩, -⟩ := reconcile_reports (w := w) hwait
    exact hreports.serving.trans hcourse.did.serving

end Reconcile

end NetworkRollout
