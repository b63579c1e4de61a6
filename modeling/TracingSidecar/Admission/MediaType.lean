import TracingSidecar.Text.Ascii
import TracingSidecar.Text.Cut

/-!
# Media types

A media type is `type/subtype`, with parameters behind semicolons.  The part of the subtype behind
its last plus sign is its suffix.  Case does not matter, and a text that breaks the form anywhere,
even in a parameter, is no media type.
-/

namespace TracingSidecar

structure MediaType where
  type : String
  subtype : String
  suffix : Option String
  deriving DecidableEq, Repr

namespace MediaType

/-- The characters that names and bare values consist of. -/
def isNameChar (c : Char) : Bool :=
  c.isAlphanum || "!#$%&'*+-.^_\x60|~".toList.contains c

/-- A point within parameters, each with whether nothing of the current part has been read. -/
inductive ParameterPoint where
  | name (empty : Bool)
  | value (empty : Bool)
  | quoted (empty : Bool)
  | closed

/-- Whether a text goes on as parameters do from a point.  Blanks may stand before a name and
behind a quoted value, and a quoted value is not empty. -/
def areParameters : ParameterPoint → List Char → Bool
  | .name empty, [] => empty
  | .value _, [] => true
  | .quoted _, [] => false
  | .closed, [] => true
  | .name empty, c :: rest =>
      if c = ' ' && empty then areParameters (.name true) rest
      else if isNameChar c then areParameters (.name false) rest
      else c = '=' && !empty && areParameters (.value true) rest
  | .value empty, c :: rest =>
      if c = '"' && empty then areParameters (.quoted true) rest
      else if isNameChar c then areParameters (.value false) rest
      else c = ';' && !empty && areParameters (.name true) rest
  | .quoted empty, c :: rest =>
      if c = '"' && !empty then areParameters .closed rest
      else ' ' ≤ c && c ≤ '~' && areParameters (.quoted false) rest
  | .closed, c :: rest =>
      if c = ';' then areParameters (.name true) rest
      else c = ' ' && areParameters .closed rest

/-- A subtype and its suffix.  A plus sign in front belongs to the subtype. -/
def ofNames (type subtype : String) : MediaType :=
  match Text.splitLast? '+' subtype with
  | some (before, suffix) =>
      if before = "" then ⟨type, subtype, none⟩ else ⟨type, before, some suffix⟩
  | none => ⟨type, subtype, none⟩

/-- The media type of a text. -/
def parse? (text : String) : Option MediaType := do
  let (type, rest) ← Text.splitFirst? '/' (Text.lower text)
  let (subtype, parameters) := (Text.splitFirst? ';' rest).getD (rest, "")
  if type ≠ "" && type.toList.all isNameChar && subtype ≠ "" && subtype.toList.all isNameChar
      && areParameters (.name true) parameters.toList then
    some (ofNames type subtype)
  else none

/-- Whether values of the type are JSON texts. -/
def isJson (m : MediaType) : Bool :=
  m.type = "application" && (m.subtype = "json" || m.suffix = some "json")

end MediaType

end TracingSidecar
