import NetworkRollout.Rollout.Decision
import NetworkRollout.Bootstrap.Snapshot
import NetworkRollout.Time.Moment

/-!
# The reported status of a rollout

What the operator reports about the network: the facts of the last bootstrap, the last decision,
and conditions. A condition keeps the moment of its last change of status. Each outcome of a pass
is a change of the status.

* `RolloutStatus.setCondition`: replaces the condition of a type.
* `RolloutStatus.bootstrapped`, `rolledOut`, `invalid`, `failed`: the outcomes.
-/

namespace NetworkRollout

structure Condition where
  type : String
  status : String
  reason : String
  message : Option String := none
  /-- Since when the condition has its status. -/
  since : Moment
  deriving DecidableEq, Repr

structure RolloutStatus where
  /-- The generation of the spec that was rolled out last. -/
  observedGeneration : Int := 0
  addresses : List String := []
  initiator : Option String := none
  decision : Option Decision := none
  nodeMode : Option NodeMode := none
  gatewayMode : Option GatewayMode := none
  ipfixCollectors : Option String := none
  /-- Why the last pass failed. -/
  message : Option String := none
  reconciledAt : Option Moment := none
  conditions : List Condition := []
  deriving DecidableEq, Repr, Inhabited

namespace RolloutStatus

def bootstrappedType : String := "Bootstrapped"

def configValidType : String := "ConfigValid"

def readyType : String := "Ready"

/-- Since when a condition of the type has had the status, or now. -/
def sinceWhen (conditions : List Condition) (type status : String) (now : Moment) : Moment :=
  match conditions.find? fun c => c.type = type && c.status = status with
  | some c => c.since
  | none => now

/-- Replaces all conditions of a type by one at the end. -/
def setCondition (now : Moment) (type status reason : String) (message : Option String)
    (s : RolloutStatus) : RolloutStatus :=
  { s with
    conditions := s.conditions.filter (·.type ≠ type) ++
      [{ type, status, reason, message, since := sinceWhen s.conditions type status now }] }

/-! ## Outcomes of a pass -/

/-- The condition that the discovery of the members gives: its reason and message. -/
def membership (snapshot : Snapshot) : String × String :=
  let found := toString snapshot.addresses.length
  if snapshot.timedOut then
    ("PartialMembership",
      "found " ++ found ++ " of " ++ toString snapshot.expectedReplicas ++
        " expected control plane nodes")
  else ("MembershipComplete", found ++ " control plane nodes")

def bootstrapped (now : Moment) (snapshot : Snapshot) (spec : NetworkSpec) (s : RolloutStatus) :
    RolloutStatus :=
  let (reason, message) := membership snapshot
  { s with
    addresses := snapshot.addresses
    initiator := some snapshot.initiator
    nodeMode := some snapshot.nodeMode
    gatewayMode := some snapshot.gatewayMode
    ipfixCollectors := snapshot.ipfixCollectors spec
  }.setCondition now bootstrappedType "True" reason (some message)

def heldBack (d : Decision) : List String :=
  (if d.updateMaster then [] else ["master"]) ++ (if d.updateNode then [] else ["node"])

def rolledOut (now : Moment) (decision : Decision) (applied : Nat) (s : RolloutStatus) :
    RolloutStatus :=
  let settled : RolloutStatus :=
    { s with decision := some decision, reconciledAt := some now, message := none
    }.setCondition now configValidType "True" "Valid" none
  match heldBack decision with
  | [] =>
    settled.setCondition now readyType "True" "Applied"
      (some ("applied " ++ toString applied ++ " objects"))
  | held =>
    settled.setCondition now readyType "False" "RolloutInProgress"
      (some ("holding back " ++ ", ".intercalate held))

def invalid (now : Moment) (faults : List String) (s : RolloutStatus) : RolloutStatus :=
  let message := "; ".intercalate faults
  ({ s with message := some message }.setCondition now configValidType "False" "InvalidConfig"
    (some message)).setCondition now readyType "False" "InvalidConfig" (some message)

def failed (now : Moment) (reason message : String) (s : RolloutStatus) : RolloutStatus :=
  { s with message := some message }.setCondition now readyType "False" reason (some message)

end RolloutStatus

end NetworkRollout
