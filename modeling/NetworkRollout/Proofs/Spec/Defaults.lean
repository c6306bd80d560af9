import NetworkRollout.Spec.Defaults
import NetworkRollout.Proofs.Spec.ChangeSafety

/-!
# Completing a spec

A completed spec has no open settings left, so completing the same spec again, from the completed
one, gives the completed one back, whatever MTU the hosts have by then. What a change to it must
not touch is then the same. Its migration is all that the checks of a change look at once more.

* `NetworkSpec.fillDefaults_fillDefaults`: completing again changes nothing.
* `NetworkSpec.SoundMigration`: the demand that a change makes of a migration by itself.
* `NetworkSpec.changeFaults_self_eq_nil_iff`: which specs are a change of themselves.
-/

namespace NetworkRollout.NetworkSpec

variable {prev next : NetworkSpec}

/-! ## What completing leaves -/

@[simp] theorem fillDefaults_migration (spec : NetworkSpec) (previous : Option NetworkSpec)
    (hostMtu : UInt32) : (spec.fillDefaults previous hostMtu).migration = spec.migration := rfl

/-- The tunnel takes as much as before, as encryption is not a setting that is filled. -/
@[simp] theorem tunnelOverhead_fillDefaults (spec : NetworkSpec) (previous : Option NetworkSpec)
    (hostMtu : UInt32) :
    (spec.fillDefaults previous hostMtu).tunnelOverhead = spec.tunnelOverhead := by
  change (if (spec.overlay.getD {}).ipsec.isSome then (146 : UInt32) else 100) = _
  unfold tunnelOverhead
  cases spec.overlay <;> rfl

/-- The MTU that is applied is the one given, or else the one before, or else the hosts'. -/
theorem mtu_fillDefaults (spec : NetworkSpec) (previous : Option NetworkSpec) (hostMtu : UInt32) :
    (spec.fillDefaults previous hostMtu).mtu =
      some (spec.mtu.getD (spec.defaultMtu previous hostMtu)) := rfl

theorem defaultMtu_of_mtu {spec previous : NetworkSpec} {mtu : UInt32}
    (h : previous.mtu = some mtu) (hostMtu : UInt32) :
    spec.defaultMtu (some previous) hostMtu = mtu := by
  unfold defaultMtu
  unfold NetworkSpec.mtu overlayOrUnset at h
  cases hoverlay : previous.overlay with
  | none =>
    rw [hoverlay] at h
    cases h
  | some overlay =>
    rw [hoverlay, Option.getD_some] at h
    rw [Option.bind_some, hoverlay, Option.bind_some, h, Option.getD_some]

/-- Completing a spec from its own completion gives that completion, on any hosts. -/
theorem fillDefaults_fillDefaults (spec : NetworkSpec) (previous : Option NetworkSpec)
    (hostMtu hostMtu' : UInt32) :
    spec.fillDefaults (some (spec.fillDefaults previous hostMtu)) hostMtu' =
      spec.fillDefaults previous hostMtu := by
  have hdefault :
      spec.defaultMtu (some (spec.fillDefaults previous hostMtu)) hostMtu' = _ :=
    defaultMtu_of_mtu (mtu_fillDefaults spec previous hostMtu) hostMtu'
  -- only the MTU depends on the spec before and on the hosts
  have hmtu : (spec.overlay.getD {}).mtu.getD
      (spec.defaultMtu (some (spec.fillDefaults previous hostMtu)) hostMtu') =
        (spec.overlay.getD {}).mtu.getD (spec.defaultMtu previous hostMtu) := by
    rw [hdefault]
    change spec.mtu.getD (spec.mtu.getD _) = spec.mtu.getD _
    cases spec.mtu <;> rfl
  unfold fillDefaults at hmtu ⊢
  dsimp only at hmtu ⊢
  rw [hmtu]

/-! ## A spec as a change of itself -/

/-- A migration of the MTU that the spec carries is complete and leaves the tunnel its room on the
hosts; the sum is one of 32 bits. -/
def SoundMigration (spec : NetworkSpec) : Prop :=
  ∀ migration, spec.migration.bind (·.mtu) = some migration →
    ∃ start goal machine, migration.network.bind (·.oldMtu) = some start ∧
      migration.network.bind (·.newMtu) = some goal ∧
      migration.machine.bind (·.newMtu) = some machine ∧
      ¬ machine < goal + spec.tunnelOverhead

/-- What a spec completes does not touch its migration. -/
theorem soundMigration_fillDefaults {spec : NetworkSpec} {previous : Option NetworkSpec}
    {hostMtu : UInt32} :
    (spec.fillDefaults previous hostMtu).SoundMigration ↔ spec.SoundMigration := by
  unfold SoundMigration
  rw [fillDefaults_migration, tunnelOverhead_fillDefaults]

/-- Any change without faults is to a spec with a sound migration, wherever it starts. -/
theorem soundMigration_of_changeFaults (h : prev.changeFaults next = []) :
    next.SoundMigration := by
  intro migration hmigration
  simp only [changeFaults, List.append_eq_nil_iff] at h
  obtain ⟨⟨⟨hmtu, -⟩, -⟩, -⟩ := h
  unfold mtuFaults at hmtu
  rw [hmigration] at hmtu
  dsimp only at hmtu
  unfold migrationFaults at hmtu
  split at hmtu
  case h_1 start goal machine hstart hgoal hmachine =>
    refine ⟨start, goal, machine, hstart, hgoal, hmachine, ?_⟩
    rw [List.append_eq_nil_iff, faultIf_eq_nil_iff, faultIf_eq_nil_iff] at hmtu
    exact of_decide_eq_false hmtu.2
  case h_2 => cases hmtu

/-- A sound migration has no faults after itself: it starts where it started. -/
theorem migrationFaults_self {spec : NetworkSpec} {migration : MtuMigration}
    (hmigration : spec.migration.bind (·.mtu) = some migration) (h : spec.SoundMigration) :
    migrationFaults spec spec migration = [] := by
  obtain ⟨start, goal, machine, hstart, hgoal, hmachine, hroom⟩ := h migration hmigration
  have hknown : (spec.networkMtuMigration.map (·.oldMtu)) = some (some start) := by
    obtain ⟨whole, hwhole, hmtu⟩ := Option.bind_eq_some_iff.mp hmigration
    obtain ⟨range, hrange, hold⟩ := Option.bind_eq_some_iff.mp hstart
    unfold networkMtuMigration
    rw [hwhole, Option.bind_eq_bind, Option.bind_some, hmtu, Option.bind_eq_bind, Option.bind_some,
      hrange, Option.map_some, hold]
  unfold migrationFaults
  rw [hstart, hgoal, hmachine, hknown]
  simp only [beq_self_eq_true, Bool.not_true, Bool.false_and, hroom, decide_false, faultIf,
    Bool.false_eq_true, if_false, List.append_nil]

/-- A spec is a change of itself exactly if its migration is sound. -/
theorem changeFaults_self_eq_nil_iff {spec : NetworkSpec} :
    spec.changeFaults spec = [] ↔ spec.SoundMigration := by
  refine ⟨soundMigration_of_changeFaults, fun h => ?_⟩
  simp only [changeFaults, List.append_eq_nil_iff, faultIf_eq_nil_iff, hybridFaults_eq_nil_iff,
    ipsecFaults_eq_nil_iff, ne_eq, not_true_eq_false, decide_false, and_true]
  unfold mtuFaults
  cases hmigration : spec.migration.bind (·.mtu) with
  | none => exact faultIf_eq_nil_iff.mpr (decide_eq_false (not_not_intro rfl))
  | some migration => exact migrationFaults_self hmigration h

end NetworkRollout.NetworkSpec
