import Mathlib.Algebra.Group.Nat.Defs
import NetworkRollout.Spec.ChangeSafety

/-!
# What a change without faults leaves as it is

A change that has no faults keeps what is fixed at installation, and moves the MTU only in a
complete migration that starts where the network is or where the migration in flight started.

* `NetworkSpec.SameInstallation`: the settings that are fixed at installation.
* `NetworkSpec.MtuMoves`: what a spec says of a change of the MTU.
* `NetworkSpec.sameInstallation_of_changeFaults`, `NetworkSpec.mtu_of_changeFaults`.
-/

namespace NetworkRollout

theorem faultIf_eq_nil_iff {α : Type} {condition : Bool} {fault : α} :
    faultIf condition fault = [] ↔ condition = false := by
  cases condition <;> simp [faultIf]

namespace NetworkSpec

variable {prev next : NetworkSpec}

/-- The MTU of a spec. -/
def mtu (spec : NetworkSpec) : Option UInt32 := spec.overlayOrUnset.mtu

/-- Two specs agree in what is fixed at installation: the port of the tunnel, whether there is
encryption, and the hybrid overlay with its port and pools. -/
structure SameInstallation (a b : NetworkSpec) : Prop where
  genevePort : a.overlayOrUnset.genevePort = b.overlayOrUnset.genevePort
  ipsec : a.overlayOrUnset.ipsec.isSome = b.overlayOrUnset.ipsec.isSome
  hybridOverlay : a.overlayOrUnset.hybridOverlay = b.overlayOrUnset.hybridOverlay

theorem SameInstallation.trans {a b c : NetworkSpec} (hab : a.SameInstallation b)
    (hbc : b.SameInstallation c) : a.SameInstallation c :=
  ⟨hab.genevePort.trans hbc.genevePort, hab.ipsec.trans hbc.ipsec,
    hab.hybridOverlay.trans hbc.hybridOverlay⟩

/-- The bytes that the tunnel of a spec takes. -/
def overhead (spec : NetworkSpec) : Nat := if spec.overlayOrUnset.ipsec.isSome then 146 else 100

theorem toNat_tunnelOverhead (spec : NetworkSpec) : spec.tunnelOverhead.toNat = spec.overhead := by
  unfold tunnelOverhead overhead overlayOrUnset
  cases spec.overlay with
  | none => rfl
  | some overlay =>
    dsimp only [Option.getD_some]
    split <;> rfl

/-- A spec that moves the MTU: it has all of a migration, the hosts get room for the tunnel as long
as the sum is a number of 32 bits, and the migration starts at the MTU of the spec before or where
the migration of that one started. -/
structure MtuMoves (prev next : NetworkSpec) (migration : MtuMigration)
    (start goal machine : UInt32) : Prop where
  inFlight : next.migration.bind (·.mtu) = some migration
  startsAt : migration.network.bind (·.oldMtu) = some start
  goesTo : migration.network.bind (·.newMtu) = some goal
  hostsGoTo : migration.machine.bind (·.newMtu) = some machine
  room : goal.toNat + next.overhead < 2 ^ 32 → goal.toNat + next.overhead ≤ machine.toNat
  continues : prev.mtu = some start ∨ prev.networkMtuMigration.bind (·.oldMtu) = some start

/-- The MTU stays, or there is a migration that moves it. -/
def MtuSafe (prev next : NetworkSpec) : Prop :=
  next.mtu ≠ prev.mtu →
    ∃ migration start goal machine, MtuMoves prev next migration start goal machine

/-! ## What is fixed -/

theorem hybridFaults_eq_nil_iff {p n : Option HybridOverlay} :
    hybridFaults p n = [] ↔ p = n := by
  cases p <;> cases n <;> simp [hybridFaults, faultIf_eq_nil_iff]

theorem ipsecFaults_eq_nil_iff {p n : Option Ipsec} :
    ipsecFaults p n = [] ↔ p.isSome = n.isSome := by
  cases p <;> cases n <;> simp [ipsecFaults]

theorem sameInstallation_of_changeFaults (h : prev.changeFaults next = []) :
    SameInstallation prev next := by
  simp only [changeFaults, List.append_eq_nil_iff, faultIf_eq_nil_iff, hybridFaults_eq_nil_iff,
    ipsecFaults_eq_nil_iff] at h
  obtain ⟨⟨⟨-, hgeneve⟩, hhybrid⟩, hipsec⟩ := h
  exact ⟨by simpa using hgeneve, hipsec, hhybrid⟩

/-! ## The MTU -/

theorem migrationFaults_eq_nil {migration : MtuMigration}
    (hmigration : next.migration.bind (·.mtu) = some migration)
    (h : migrationFaults prev next migration = []) :
    ∃ start goal machine, MtuMoves prev next migration start goal machine := by
  cases hstart : migration.network.bind (·.oldMtu) with
  | none => simp [migrationFaults, hstart] at h
  | some start =>
    cases hgoal : migration.network.bind (·.newMtu) with
    | none => simp [migrationFaults, hstart, hgoal] at h
    | some goal =>
      cases hmachine : migration.machine.bind (·.newMtu) with
      | none => simp [migrationFaults, hstart, hgoal, hmachine] at h
      | some machine =>
        simp only [migrationFaults, hstart, hgoal, hmachine, List.append_eq_nil_iff,
          faultIf_eq_nil_iff] at h
        refine ⟨start, goal, machine, hmigration, hstart, hgoal, hmachine, ?_, ?_⟩
        · intro hfits
          have hroom : ¬ machine < goal + next.tunnelOverhead := by simpa using h.2
          rw [UInt32.lt_iff_toNat_lt, UInt32.toNat_add, toNat_tunnelOverhead,
            Nat.mod_eq_of_lt hfits] at hroom
          exact Nat.le_of_not_lt hroom
        · by_cases happlied : prev.mtu = some start
          · exact Or.inl happlied
          · have hknown :
                (prev.networkMtuMigration.map (·.oldMtu) == some (some start)) = true := by
              have hcheck := h.1
              unfold mtu at happlied
              rw [decide_eq_true happlied, Bool.and_true, Bool.not_eq_false'] at hcheck
              exact hcheck
            obtain ⟨range, hrange, hold⟩ := Option.map_eq_some_iff.mp (beq_iff_eq.mp hknown)
            rw [hrange, Option.bind_some, hold]
            exact Or.inr rfl

theorem mtuSafe_of_changeFaults (h : prev.changeFaults next = []) : MtuSafe prev next := by
  intro hne
  simp only [changeFaults, List.append_eq_nil_iff] at h
  obtain ⟨⟨⟨hmtu, -⟩, -⟩, -⟩ := h
  unfold mtuFaults at hmtu
  split at hmtu
  case h_1 migration hmigration => exact ⟨migration, migrationFaults_eq_nil hmigration hmtu⟩
  case h_2 =>
    rw [faultIf_eq_nil_iff, decide_eq_false_iff_not] at hmtu
    exact absurd (Ne.symm hne) hmtu

end NetworkSpec

end NetworkRollout
