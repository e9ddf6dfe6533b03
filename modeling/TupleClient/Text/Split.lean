/-!
# Parts between separators

## Main definitions

* `Text.splitAt` — the parts of a text between separators
-/

namespace TupleClient.Text

/-- The parts of a text between separators. There is one part more than there are separators. -/
def splitAt (isSeparator : Char → Bool) : List Char → List (List Char)
  | [] => [[]]
  | c :: rest =>
    match splitAt isSeparator rest with
    | [] => if isSeparator c then [[], []] else [[c]]
    | part :: parts => if isSeparator c then [] :: part :: parts else (c :: part) :: parts

end TupleClient.Text
