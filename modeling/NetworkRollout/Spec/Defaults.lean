import NetworkRollout.Spec.Validation

/-!
# Settings that a user leaves open

Every setting that is given stays. The MTU is the one applied before or else what the host's MTU
leaves after the tunnel, so that an untouched spec keeps its MTU when the hosts change.
-/

namespace NetworkRollout

namespace PolicyAudit

/-- The text, or another one when it is empty. -/
def textOr (fallback text : String) : String := if text = "" then fallback else text

def fillDefaults (a : PolicyAudit) : PolicyAudit :=
  { rateLimit := some (a.rateLimit.getD 20)
    maxFileSize := some (a.maxFileSize.getD 50)
    destination := textOr "null" a.destination
    syslogFacility := textOr "local0" a.syslogFacility }

end PolicyAudit

namespace NetworkSpec

/-- What is left of the host's MTU; zero when the tunnel takes all of it. -/
def mtuWithin (hostMtu overhead : UInt32) : UInt32 :=
  if overhead ≤ hostMtu then hostMtu - overhead else 0

def defaultMtu (spec : NetworkSpec) (previous : Option NetworkSpec) (hostMtu : UInt32) :
    UInt32 :=
  ((previous.bind overlay).bind (·.mtu)).getD (mtuWithin hostMtu spec.tunnelOverhead)

def fillDefaults (spec : NetworkSpec) (previous : Option NetworkSpec) (hostMtu : UInt32) :
    NetworkSpec :=
  let overlay := spec.overlay.getD {}
  { spec with
    defaultNetwork :=
      { spec.defaultNetwork with
        overlay := some
          { overlay with
            mtu := some (overlay.mtu.getD (spec.defaultMtu previous hostMtu))
            genevePort := some (overlay.genevePort.getD 6081)
            policyAudit := some (overlay.policyAudit.getD {}).fillDefaults } } }

end NetworkSpec

end NetworkRollout
