/-!
# The initiator of the replicated databases

One control-plane member seeds the databases. A recorded initiator is kept while it is a member;
otherwise the smallest address takes over.
-/

namespace NetworkRollout

/-- The smallest text of a list, in the order of code points. -/
def smallest? : List String → Option String
  | [] => none
  | x :: xs =>
    match smallest? xs with
    | some y => some (if y < x then y else x)
    | none => some x

/-- The initiator among the members; none only if there are none. -/
def chooseInitiator (recorded : Option String) (members : List String) : Option String :=
  match recorded with
  | some current => if current ∈ members then some current else smallest? members
  | none => smallest? members

end NetworkRollout
