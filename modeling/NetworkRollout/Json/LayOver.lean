import NetworkRollout.Json.Value

/-!
# Values laid over others

Of an object, each member is laid over the member of its name, and members that are not named stay.
What is no object, null as well, takes the place of what was there.
-/

namespace NetworkRollout.Json

mutual

/-- A value laid over another. -/
def layOver (stored : Json) : Json → Json
  | .object sent => .object (layMembers stored.members sent)
  | sent => sent

def layMembers (stored : Members) : Members → Members
  | [] => stored
  | (name, sent) :: rest =>
    layMembers (stored.insert name (layOver (stored.getD name) sent)) rest

end

end NetworkRollout.Json
