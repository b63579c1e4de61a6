/-!
# Cutting texts at separators

A text is cut as a list of characters.  `split` gives all the parts (`List.splitOn`), so joining
them with the separator undoes it (`List.intercalate_splitOn`); `cutFirst?` and `cutLast?` find the
first and the last occurrence of a separator; `stripPrefix?` removes a known beginning.
-/

namespace TracingSidecar.Text

variable {α : Type} [DecidableEq α]

/-- What stands before and after the first separator. -/
def cutFirst? (sep : α) : List α → Option (List α × List α)
  | [] => none
  | c :: rest =>
      if c = sep then some ([], rest)
      else (cutFirst? sep rest).map fun (before, after) => (c :: before, after)

/-- What stands before and after the last separator. -/
def cutLast? (sep : α) : List α → Option (List α × List α)
  | [] => none
  | c :: rest =>
      match cutLast? sep rest with
      | some (before, after) => some (c :: before, after)
      | none => if c = sep then some ([], rest) else none

/-- The rest of a text after a known beginning. -/
def stripPrefix? (start text : String) : Option String :=
  (start.toList.isPrefixOf? text.toList).map String.ofList

/-- A text cut at the first separator. -/
def splitFirst? (sep : Char) (text : String) : Option (String × String) :=
  (cutFirst? sep text.toList).map fun (before, after) => (String.ofList before, String.ofList after)

/-- A text cut at the last separator. -/
def splitLast? (sep : Char) (text : String) : Option (String × String) :=
  (cutLast? sep text.toList).map fun (before, after) => (String.ofList before, String.ofList after)

/-- The parts of a text between the occurrences of a separator. -/
def split (sep : Char) (text : String) : List String :=
  (text.toList.splitOn sep).map String.ofList

end TracingSidecar.Text
