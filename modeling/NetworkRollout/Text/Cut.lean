/-!
# Cutting a text at a character
-/

namespace NetworkRollout.Text

/-- The text in front of the first separator and, if there is one, the text behind it. -/
def cutAt (separator : Char) (s : List Char) : List Char × Option (List Char) :=
  (s.takeWhile (· ≠ separator),
    match s.dropWhile (· ≠ separator) with
    | [] => none
    | _ :: rest => some rest)

end NetworkRollout.Text
