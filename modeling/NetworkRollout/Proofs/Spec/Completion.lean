import NetworkRollout.Proofs.Spec.Defaults

/-!
# What completing a spec may change

A spec is completed setting by setting, down into its sections. A section that is missing is one
with nothing set, so what is compared are the settings themselves: those that are given stay, and
none is open afterwards. The specs that completing leaves as they are, whatever was applied before
and whatever the hosts have, are exactly those without open settings.

* `NetworkSpec.Extends`: a spec with the given settings as they were, and perhaps more.
* `NetworkSpec.IsComplete`: a spec without open settings.
* `NetworkSpec.fillDefaults_eq_self_iff`: what completing leaves as it is.
* `NetworkSpec.completion`: completing keeps what is given, closes what is open, and is stable.
-/

namespace NetworkRollout

/-- A setting that is given has the same value afterwards. -/
def Kept {α : Type} (given filled : Option α) : Prop :=
  ∀ value, given = some value → filled = some value

/-- A text that is given stays; an empty one is an open setting. -/
def KeptText (given filled : String) : Prop := given ≠ "" → filled = given

theorem kept_some_getD {α : Type} (given : Option α) (fallback : α) :
    Kept given (some (given.getD fallback)) := by
  rintro value rfl
  rfl

/-! ## Audit settings -/

namespace PolicyAudit

/-- The settings that are given are as they were. -/
structure Extends (filled given : PolicyAudit) : Prop where
  rateLimit : Kept given.rateLimit filled.rateLimit
  maxFileSize : Kept given.maxFileSize filled.maxFileSize
  destination : KeptText given.destination filled.destination
  syslogFacility : KeptText given.syslogFacility filled.syslogFacility

/-- No setting is open. -/
structure IsComplete (a : PolicyAudit) : Prop where
  rateLimit : a.rateLimit ≠ none
  maxFileSize : a.maxFileSize ≠ none
  destination : a.destination ≠ ""
  syslogFacility : a.syslogFacility ≠ ""

theorem textOr_of_ne {text : String} (h : text ≠ "") (fallback : String) :
    textOr fallback text = text := if_neg h

theorem textOr_ne_empty {fallback : String} (h : fallback ≠ "") (text : String) :
    textOr fallback text ≠ "" := by
  unfold textOr
  split
  · exact h
  · assumption

theorem extends_fillDefaults (given : PolicyAudit) : given.fillDefaults.Extends given where
  rateLimit := kept_some_getD _ _
  maxFileSize := kept_some_getD _ _
  destination h := textOr_of_ne h _
  syslogFacility h := textOr_of_ne h _

theorem isComplete_fillDefaults (given : PolicyAudit) : given.fillDefaults.IsComplete where
  rateLimit := Option.some_ne_none _
  maxFileSize := Option.some_ne_none _
  destination := textOr_ne_empty (by decide) _
  syslogFacility := textOr_ne_empty (by decide) _

theorem IsComplete.fillDefaults_eq {a : PolicyAudit} (h : a.IsComplete) : a.fillDefaults = a := by
  unfold fillDefaults
  rw [Option.getD_of_ne_none h.rateLimit, Option.getD_of_ne_none h.maxFileSize,
    textOr_of_ne h.destination, textOr_of_ne h.syslogFacility]

end PolicyAudit

/-! ## The overlay -/

namespace Overlay

/-- Only the MTU, the port of the tunnel and the audit settings may differ, where they are open. -/
structure Extends (filled given : Overlay) : Prop where
  mtu : Kept given.mtu filled.mtu
  genevePort : Kept given.genevePort filled.genevePort
  policyAudit : (filled.policyAudit.getD {}).Extends (given.policyAudit.getD {})
  others : filled =
    { given with
      mtu := filled.mtu, genevePort := filled.genevePort, policyAudit := filled.policyAudit }

/-- Neither of the two numbers is open, and there are audit settings, of which none is. -/
structure IsComplete (o : Overlay) : Prop where
  mtu : o.mtu ≠ none
  genevePort : o.genevePort ≠ none
  policyAudit : ∃ audit, o.policyAudit = some audit ∧ audit.IsComplete

end Overlay

/-! ## The spec -/

namespace NetworkSpec

variable {spec : NetworkSpec}

/-- Only the settings of the overlay may differ, where they are open. -/
structure Extends (filled given : NetworkSpec) : Prop where
  overlay : filled.overlayOrUnset.Extends given.overlayOrUnset
  others : filled =
    { given with defaultNetwork := { given.defaultNetwork with overlay := filled.overlay } }

/-- The spec has an overlay, and no setting of it is open. -/
def IsComplete (spec : NetworkSpec) : Prop :=
  ∃ overlay, spec.overlay = some overlay ∧ overlay.IsComplete

theorem extends_fillDefaults (given : NetworkSpec) (previous : Option NetworkSpec)
    (hostMtu : UInt32) : (given.fillDefaults previous hostMtu).Extends given where
  overlay :=
    { mtu := kept_some_getD _ _
      genevePort := kept_some_getD _ _
      policyAudit := PolicyAudit.extends_fillDefaults _
      others := rfl }
  others := rfl

theorem isComplete_fillDefaults (given : NetworkSpec) (previous : Option NetworkSpec)
    (hostMtu : UInt32) : (given.fillDefaults previous hostMtu).IsComplete :=
  ⟨_, rfl, Option.some_ne_none _, Option.some_ne_none _,
    _, rfl, PolicyAudit.isComplete_fillDefaults _⟩

/-- Completing leaves exactly the specs without open settings as they are. -/
theorem fillDefaults_eq_self_iff {previous : Option NetworkSpec} {hostMtu : UInt32} :
    spec.fillDefaults previous hostMtu = spec ↔ spec.IsComplete := by
  constructor
  · intro h
    rw [← h]
    exact isComplete_fillDefaults spec previous hostMtu
  · rintro ⟨overlay, hoverlay, hmtu, hport, audit, haudit, hcomplete⟩
    have hsettings : spec.overlay.getD {} = overlay := congrArg (·.getD {}) hoverlay
    unfold fillDefaults
    dsimp only
    rw [hsettings, Option.getD_of_ne_none hmtu, Option.getD_of_ne_none hport, haudit,
      Option.getD_some, hcomplete.fillDefaults_eq, ← haudit]
    change { spec with defaultNetwork := { spec.defaultNetwork with overlay := some overlay } } = _
    rw [← hoverlay]
    rfl

/-- Completing a spec keeps every setting that is given, and everything outside the overlay; it
leaves no setting open; completing again, whatever was applied before by then and whatever the hosts
have, changes nothing; and the same spec, completed from what it was completed to, is completed to
it again. -/
theorem completion (spec : NetworkSpec) (previous previous' : Option NetworkSpec)
    (hostMtu hostMtu' : UInt32) :
    let filled := spec.fillDefaults previous hostMtu
    filled.Extends spec ∧ filled.IsComplete ∧
      filled.fillDefaults previous' hostMtu' = filled ∧
      spec.fillDefaults (some filled) hostMtu' = filled :=
  ⟨extends_fillDefaults spec previous hostMtu, isComplete_fillDefaults spec previous hostMtu,
    fillDefaults_eq_self_iff.mpr (isComplete_fillDefaults spec previous hostMtu),
    fillDefaults_fillDefaults spec previous hostMtu hostMtu'⟩

end NetworkSpec

end NetworkRollout
