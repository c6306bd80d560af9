import NetworkRollout.Bootstrap.Prepare
import NetworkRollout.Proofs.Bootstrap.Bootstrap
import NetworkRollout.Proofs.Spec.Coherence

/-!
# What a preparation decides

A preparation recalls the spec that was applied last, completes the new one from it and checks it.
A spec that is refused ends it there, before anything else is asked.

* `Preparation`, `ends_prepare`: how every preparation ends.
* `Preparation.coherent`: what is prepared is a coherent spec, with the family of its pools.
-/

namespace NetworkRollout

open PassM

variable {σ : Type} {env : Surroundings σ} {R : σ → σ → Prop}

namespace Prepared

theorem ends_appliedSpec {run : Run σ}
    {Q : Except Failure (Option NetworkSpec) → Run σ → Prop} :
    Ends (appliedSpec env) run Q ↔
      Q ((env.recorded Names.appliedSpecKey run.world).1.map (·.bind NetworkSpec.ofText?))
        (asked run (env.recorded Names.appliedSpecKey)) := by
  unfold appliedSpec
  rw [ends_bind, ends_ask]
  cases (env.recorded Names.appliedSpecKey run.world).1 <;> rfl

/-- What is decided from a completed spec and the facts of the cluster. -/
def ofSnapshot (spec : NetworkSpec) (release : String) (snapshot : Snapshot) : Prepared :=
  let family := Family.ofPoolCount spec.serviceNetwork.length
  { spec, family, snapshot, decision := .decide snapshot.tiers family release }

end Prepared

/-- How a preparation ends: the spec applied last is not recalled; the new one is refused; or it is
accepted, and the rest is up to the bootstrap. -/
inductive Preparation (env : Surroundings σ) (R : σ → σ → Prop) (spec : NetworkSpec)
    (release : String) (hostMtu : UInt32) (run : Run σ) : Except Failure Prepared → Run σ → Prop
  | unread {e : Failure} (hread : (env.recorded Names.appliedSpecKey run.world).1 = .error e) :
      Preparation env R spec release hostMtu run (.error e)
        (asked run (env.recorded Names.appliedSpecKey))
  | refused {text : Option String} {previous : Option NetworkSpec}
      (hread : (env.recorded Names.appliedSpecKey run.world).1 = .ok text)
      (hprevious : previous = text.bind NetworkSpec.ofText?)
      (hfaults : Prepared.faults previous (spec.fillDefaults previous hostMtu) ≠ []) :
      Preparation env R spec release hostMtu run
        (.error (.invalidConfig
          (Prepared.faults previous (spec.fillDefaults previous hostMtu))))
        (asked run (env.recorded Names.appliedSpecKey))
  | accepted {text : Option String} {previous : Option NetworkSpec}
      {outcome : Except Failure Snapshot} {run' : Run σ}
      (hread : (env.recorded Names.appliedSpecKey run.world).1 = .ok text)
      (hprevious : previous = text.bind NetworkSpec.ofText?)
      (hfaults : Prepared.faults previous (spec.fillDefaults previous hostMtu) = [])
      (hbootstrap : Bootstrapped env R (asked run (env.recorded Names.appliedSpecKey))
        outcome run') :
      Preparation env R spec release hostMtu run
        (outcome.map (Prepared.ofSnapshot (spec.fillDefaults previous hostMtu) release)) run'

theorem ends_prepare (h : env.AsksKeep R) (ns : Namespaces) (target : String)
    (spec : NetworkSpec) (release : String) (hostMtu : UInt32) (run : Run σ) :
    Ends (prepare env ns target spec release hostMtu) run
      (Preparation env R spec release hostMtu run) := by
  unfold prepare
  rw [ends_bind, Prepared.ends_appliedSpec]
  cases hread : (env.recorded Names.appliedSpecKey run.world).1 with
  | error e => exact .unread hread
  | ok text =>
    dsimp only [Except.map]
    by_cases hfaults : Prepared.faults (text.bind NetworkSpec.ofText?)
        (spec.fillDefaults (text.bind NetworkSpec.ofText?) hostMtu) = []
    · rw [if_neg (not_not_intro hfaults)]
      refine Ends.bind (ends_bootstrap h ns target _ _) ?_ ?_
      · intro e run' hbootstrap
        exact .accepted hread rfl hfaults hbootstrap
      · intro snapshot run' hbootstrap
        exact .accepted hread rfl hfaults hbootstrap
    · rw [if_pos hfaults, ends_bind, ends_throw]
      exact .refused hread rfl hfaults

/-- No faults, against whatever record, are no faults of the spec itself. -/
theorem Prepared.spec_faults_eq_nil {previous : Option NetworkSpec} {spec : NetworkSpec}
    (h : faults previous spec = []) : spec.faults = [] := by
  unfold faults at h
  exact List.map_eq_nil_iff.mp (List.append_eq_nil_iff.mp h).1

/-- No faults against a record are no faults of the change. -/
theorem Prepared.changeFaults_eq_nil {prev spec : NetworkSpec}
    (h : Prepared.faults (some prev) spec = []) : prev.changeFaults spec = [] :=
  List.map_eq_nil_iff.mp (List.append_eq_nil_iff.mp h).2

/-- A preparation that succeeds goes on with a coherent spec, and the family that it rolls out is
dual-stack exactly if the pools of that spec, for pods and for services, cover both families. -/
theorem Preparation.coherent {spec : NetworkSpec} {release : String} {hostMtu : UInt32}
    {run run' : Run σ} {prepared : Prepared}
    (h : Preparation env R spec release hostMtu run (.ok prepared) run') :
    prepared.spec.Coherent ∧
      (prepared.family = .dualStack ↔
        (∀ family, prepared.spec.ClusterCovers family) ∧
          ∀ family, prepared.spec.ServiceCovers family) := by
  generalize houtcome : Except.ok prepared = answer at h
  cases h with
  | unread => cases houtcome
  | refused => cases houtcome
  | @accepted text previous outcome _ _ _ hfaults _ =>
    cases outcome with
    | error e => cases houtcome
    | ok snapshot =>
      cases houtcome
      have hcoherent := NetworkSpec.faults_eq_nil_iff.mp (Prepared.spec_faults_eq_nil hfaults)
      exact ⟨hcoherent, hcoherent.dualStack_iff⟩

end NetworkRollout
