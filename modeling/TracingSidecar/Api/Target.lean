import TracingSidecar.Text.Cut

/-!
# Request targets

The address of a request is a path, and behind a question mark a query; what follows a number sign
is not sent.  `Target.parse?` reads an address, and refuses one that is too long or has characters
that stand for themselves nowhere in an address.
-/

namespace TracingSidecar

/-- What a request is sent to. -/
structure Target where
  path : String
  query : Option String := none
  deriving DecidableEq, Repr

namespace Target

/-- The characters of a path. -/
def isPathChar (c : Char) : Bool :=
  ' ' < c && c ∉ ['#', '<', '>', '?', '\x60', '\x7f']

/-- The characters of a query. -/
def isQueryChar (c : Char) : Bool :=
  ' ' < c && c ∉ ['"', '#', '<', '>', '\x7f']

/-- The greatest number of octets of an address. -/
def maxSize : Nat := 65534

/-- The path and the query of an address. -/
def split (address : List Char) : List Char × Option (List Char) :=
  let sent := address.takeWhile (· ≠ '#')
  match Text.cutFirst? '?' sent with
  | some (path, query) => (path, some query)
  | none => (sent, none)

/-- The target of an address. -/
def parse? (address : String) : Option Target :=
  let (path, query) := split address.toList
  if address.utf8ByteSize ≤ maxSize && path.all isPathChar && query.all (·.all isQueryChar) then
    some ⟨String.ofList path, query.map String.ofList⟩
  else none

/-- The value of the first parameter with a name in the query. -/
def parameter? (name : String) (target : Target) : Option String :=
  target.query.bind fun query =>
    (Text.split '&' query).findSome? (Text.stripPrefix? (name ++ "="))

end Target

end TracingSidecar
