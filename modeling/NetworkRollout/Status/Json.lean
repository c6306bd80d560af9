import NetworkRollout.Status.Status
import NetworkRollout.Json.Record

/-!
# The JSON form of the status

The generation and the message are always written, the message as null when there is none, so that
a merge clears an old one. What is absent or empty is otherwise left out.
-/

namespace NetworkRollout

open Json

namespace Decision

def toJson (d : Decision) : Json :=
  objectOf [always "updateMaster" (.bool d.updateMaster), always "updateNode" (.bool d.updateNode),
    always "renderPrepull" (.bool d.renderPrepull)]

def ofJson? (j : Json) : Option Decision := do
  let fs ← fields? ["updateMaster", "updateNode", "renderPrepull"] j
  return { updateMaster := ← fs.required "updateMaster" bool?
           updateNode := ← fs.required "updateNode" bool?
           renderPrepull := ← fs.required "renderPrepull" bool? }

end Decision

namespace Moment

def toJson (m : Moment) : Json := .text m.text

def ofJson? (j : Json) : Option Moment := j.text?.bind ofText?

end Moment

namespace Condition

def toJson (c : Condition) : Json :=
  objectOf [always "type" (.text c.type), always "status" (.text c.status),
    always "reason" (.text c.reason), whenSome "message" Json.text c.message,
    always "lastTransitionTime" c.since.toJson]

def ofJson? (j : Json) : Option Condition := do
  let fs ← fields? ["type", "status", "reason", "message", "lastTransitionTime"] j
  return { type := ← fs.required "type" text?
           status := ← fs.required "status" text?
           reason := ← fs.required "reason" text?
           message := ← fs.optional "message" text?
           since := ← fs.required "lastTransitionTime" Moment.ofJson? }

end Condition

namespace RolloutStatus

/-- A list that is left out when it is empty. -/
def whenAny (name : String) (write : α → Json) (items : List α) : Option (String × Json) :=
  if items.isEmpty then none else some (name, ofList write items)

def toJson (s : RolloutStatus) : Json :=
  objectOf [always "observedGeneration" (.int s.observedGeneration),
    whenAny "masterAddresses" Json.text s.addresses,
    whenSome "initiator" Json.text s.initiator,
    whenSome "decision" Decision.toJson s.decision,
    whenSome "nodeMode" (fun m => .text m.name) s.nodeMode,
    whenSome "gatewayMode" (fun m => .text m.name) s.gatewayMode,
    whenSome "ipfixCollectors" Json.text s.ipfixCollectors,
    always "message" ((s.message.map Json.text).getD .null),
    whenSome "lastReconciledAt" Moment.toJson s.reconciledAt,
    whenAny "conditions" Condition.toJson s.conditions]

def fieldNames : List String :=
  ["observedGeneration", "masterAddresses", "initiator", "decision", "nodeMode", "gatewayMode",
    "ipfixCollectors", "message", "lastReconciledAt", "conditions"]

def ofJson? (j : Json) : Option RolloutStatus := do
  let fs ← fields? fieldNames j
  return { observedGeneration := ← fs.withDefault "observedGeneration" 0 i64?
           addresses := ← fs.withDefault "masterAddresses" [] (listOf? text?)
           initiator := ← fs.optional "initiator" text?
           decision := ← fs.optional "decision" Decision.ofJson?
           nodeMode := ← fs.optional "nodeMode" fun j => j.word?.bind NodeMode.ofName?
           gatewayMode := ← fs.optional "gatewayMode" fun j => j.word?.bind GatewayMode.ofName?
           ipfixCollectors := ← fs.optional "ipfixCollectors" text?
           message := ← fs.optional "message" text?
           reconciledAt := ← fs.optional "lastReconciledAt" Moment.ofJson?
           conditions := ← fs.withDefault "conditions" [] (listOf? Condition.ofJson?) }

end RolloutStatus

end NetworkRollout
