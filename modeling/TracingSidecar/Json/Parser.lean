import TracingSidecar.Json.Draft
import TracingSidecar.Json.Token

/-!
# Reading JSON text

A text is read element by element with a stack of the lists and objects that are still open.
Where the text stops being JSON they are left open, so that every text has a draft; `parse?` is the
value of a text that holds one value and blanks.
-/

namespace TracingSidecar.Json

/-- A list or object that is still open, with what has been read of it. -/
inductive Open where
  | list (reversed : List Draft)
  | object (reversed : List (Option String × Draft)) (name : Option String)

/-- What may come next. -/
inductive Expected where
  | value | firstItem | firstName | name | colon | separator
  deriving DecidableEq

/-- The state of reading after one element: a whole draft, more to come, or a draft that breaks off
here. -/
inductive Progress where
  | done (draft : Draft)
  | more (expected : Expected) (stack : List Open)
  | stuck (draft : Draft)

/-- Leave the outer lists and objects open around a draft. -/
def leaveOpen (draft : Draft) : List Open → Draft
  | [] => draft
  | .list reversed :: stack =>
      leaveOpen (.list (stack.length + 1) (draft :: reversed).reverse false) stack
  | .object reversed name :: stack =>
      leaveOpen (.object (stack.length + 1) ((name, draft) :: reversed).reverse false) stack

/-- The draft of a text that goes on with none of the expected elements.  A name without a value
counts as one with a broken value. -/
def breakOff (expected : Expected) : List Open → Draft
  | [] => .broken
  | .list reversed :: stack =>
      leaveOpen (.list (stack.length + 1) reversed.reverse false) stack
  | .object reversed name :: stack =>
      let reversed :=
        if expected = .colon ∨ expected = .value then (name, .broken) :: reversed else reversed
      leaveOpen (.object (stack.length + 1) reversed.reverse false) stack

/-- Hand a complete draft to the innermost open list or object. -/
def deliver (draft : Draft) : List Open → Progress
  | [] => .done draft
  | .list reversed :: stack => .more .separator (.list (draft :: reversed) :: stack)
  | .object reversed name :: stack =>
      .more .separator (.object ((name, draft) :: reversed) none :: stack)

/-- The beginning of a value. -/
def beginValue (expected : Expected) (token : Token) (stack : List Open) : Progress :=
  match token with
  | .openList => .more .firstItem (.list [] :: stack)
  | .openObject => .more .firstName (.object [] none :: stack)
  | .text text => deliver (.scalar (text.map .str)) stack
  | .scalar value => deliver (.scalar value) stack
  | _ => .stuck (breakOff expected stack)

/-- Take one lexical element. -/
def feed (expected : Expected) (stack : List Open) (token : Token) : Progress :=
  match expected, token, stack with
  | .value, token, stack => beginValue .value token stack
  | .firstItem, .closeList, .list _ :: stack => deliver (.list (stack.length + 1) [] true) stack
  | .firstItem, token, stack => beginValue .firstItem token stack
  | .firstName, .closeObject, .object _ _ :: stack =>
      deliver (.object (stack.length + 1) [] true) stack
  | .firstName, .text name, .object reversed _ :: stack =>
      .more .colon (.object reversed name :: stack)
  | .name, .text name, .object reversed _ :: stack => .more .colon (.object reversed name :: stack)
  | .colon, .colon, stack => .more .value stack
  | .separator, .comma, .list reversed :: stack => .more .value (.list reversed :: stack)
  | .separator, .comma, .object reversed name :: stack =>
      .more .name (.object reversed name :: stack)
  | .separator, .closeList, .list reversed :: stack =>
      deliver (.list (stack.length + 1) reversed.reverse true) stack
  | .separator, .closeObject, .object reversed _ :: stack =>
      deliver (.object (stack.length + 1) reversed.reverse true) stack
  | expected, _, stack => .stuck (breakOff expected stack)

/-- Read on until the outermost value is complete or the text breaks off. -/
def readDraft (expected : Expected) (stack : List Open) (text : List Char) : Draft × List Char :=
  match _h : Token.scan? (text.dropWhile isSeparatingBlank) with
  | none => (breakOff expected stack, [])
  | some (token, rest) =>
      match feed expected stack token with
      | .done draft => (draft, rest)
      | .more expected stack => readDraft expected stack rest
      | .stuck draft => (draft, [])
termination_by text.length
decreasing_by
  exact Nat.lt_of_lt_of_le (length_lt_of_scan? _h) (List.dropWhile_sublist _).length_le

/-- The draft at the front of a text, and the text after it. -/
def Draft.ofText (text : String) : Draft × List Char := readDraft .value [] text.toList

/-- The value of a text that holds one value and blanks. -/
def parse? (text : String) : Option Json :=
  let (draft, rest) := Draft.ofText text
  if rest.all isSeparatingBlank then draft.value? else none

end TracingSidecar.Json
