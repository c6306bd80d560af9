import NetworkRollout.Spec.Validation

/-!
# Whether a running network can change to another spec

Ports, encryption and the hybrid overlay are fixed at installation. The MTU changes only through
a complete migration, which starts at the applied MTU and leaves room for the tunnel.
-/

namespace NetworkRollout

/-- Why a running network cannot change to a spec. -/
inductive ChangeFault where
  | migrationStart (given : UInt32) (applied : Option UInt32)
  | migrationRoom (given needed : UInt32)
  | migrationIncomplete
  | mtuWithoutMigration
  | genevePort
  | hybridOverlayStart
  | hybridOverlayEdit
  | ipsecStart
  | ipsecEdit
  deriving DecidableEq, Repr

/-- A setting, or the words for none. -/
def settingText : Option UInt32 → String
  | some n => toString n
  | none => "<unset>"

namespace ChangeFault

def message : ChangeFault → String
  | migrationStart given applied =>
    s!"invalid Migration.MTU.Network.From({given}) not equal to the currently applied MTU({settingText applied})"
  | migrationRoom given needed =>
    s!"invalid Migration.MTU.Machine.To({given}), has to be at least {needed}"
  | migrationIncomplete =>
    "invalid Migration.MTU, at least one of the required fields is missing"
  | mtuWithoutMigration => "cannot change ovn-kubernetes MTU without migration"
  | genevePort => "cannot change ovn-kubernetes genevePort"
  | hybridOverlayStart => "cannot start a hybrid overlay network after install time"
  | hybridOverlayEdit => "cannot edit a running hybrid overlay network"
  | ipsecStart => "cannot enable IPsec after install time"
  | ipsecEdit => "cannot edit IPsec configuration at runtime"

end ChangeFault

namespace NetworkSpec

/-- The overlay settings, all unset when there are none. -/
def overlayOrUnset (spec : NetworkSpec) : Overlay := spec.overlay.getD {}

/-- The faults of a migration in the next spec. Its start is compared with the applied MTU only
when it differs from the start of the migration before. -/
def migrationFaults (prev next : NetworkSpec) (migration : MtuMigration) : List ChangeFault :=
  match migration.network.bind (·.oldMtu), migration.network.bind (·.newMtu),
    migration.machine.bind (·.newMtu) with
  | some start, some goal, some machine =>
    let known := (prev.networkMtuMigration.map (·.oldMtu)) == some (some start)
    let applied := prev.overlayOrUnset.mtu
    let needed := goal + next.tunnelOverhead
    faultIf (!known && applied ≠ some start) (.migrationStart start applied)
      ++ faultIf (machine < needed) (.migrationRoom machine needed)
  | _, _, _ => [.migrationIncomplete]

def mtuFaults (prev next : NetworkSpec) : List ChangeFault :=
  match next.migration.bind (·.mtu) with
  | some migration => migrationFaults prev next migration
  | none =>
    faultIf (prev.overlayOrUnset.mtu ≠ next.overlayOrUnset.mtu) .mtuWithoutMigration

/-- The faults of the hybrid overlay: it neither starts nor changes nor ends. -/
def hybridFaults : Option HybridOverlay → Option HybridOverlay → List ChangeFault
  | none, some _ => [.hybridOverlayStart]
  | some p, some n => faultIf (p ≠ n) .hybridOverlayEdit
  | some _, none => [.hybridOverlayEdit]
  | none, none => []

/-- The faults of encryption: it neither starts nor ends. -/
def ipsecFaults : Option Ipsec → Option Ipsec → List ChangeFault
  | none, some _ => [.ipsecStart]
  | some _, none => [.ipsecEdit]
  | _, _ => []

/-- The faults of a change from the applied spec to the next. -/
def changeFaults (prev next : NetworkSpec) : List ChangeFault :=
  let p := prev.overlayOrUnset
  let n := next.overlayOrUnset
  mtuFaults prev next
    ++ faultIf (p.genevePort ≠ n.genevePort) .genevePort
    ++ hybridFaults p.hybridOverlay n.hybridOverlay
    ++ ipsecFaults p.ipsec n.ipsec

end NetworkSpec

end NetworkRollout
