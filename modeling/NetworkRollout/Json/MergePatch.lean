import NetworkRollout.Json.Value

/-!
# Merge patches

A patch that is an object changes the members that it names, removes those that it gives as null,
and leaves the others alone. Any other patch takes the place of the value.
-/

namespace NetworkRollout.Json

mutual

def merge (target : Json) : Json → Json
  | .object patch => .object (mergeMembers target.members patch)
  | patch => patch

def mergeMembers (target : Members) : Members → Members
  | [] => target
  | (name, patch) :: rest =>
    if patch.isNull then mergeMembers (target.erase name) rest
    else mergeMembers (target.insert name (merge (target.getD name) patch)) rest

end

end NetworkRollout.Json
