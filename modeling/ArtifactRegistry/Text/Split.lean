/-! # Cutting text at a separator -/

namespace ArtifactRegistry.Text

/-- The parts before and after the first `separator`, when there is one. -/
def splitFirst? (separator : Char) (text : String) : Option (String × String) :=
  match text.toList.dropWhile (· ≠ separator) with
  | [] => none
  | _ :: after =>
    some (String.ofList (text.toList.takeWhile (· ≠ separator)), String.ofList after)

/-- All parts between separators; there is one more part than there are separators. -/
def splitAll (separator : Char) (text : String) : List String :=
  (text.toList.splitOn separator).map String.ofList

end ArtifactRegistry.Text
