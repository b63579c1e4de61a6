import TracingSidecar.Text.Ascii

/-!
# Socket addresses

An address is `a.b.c.d:port` or `[v6]:port`, with numbers only.  Octets have no leading zeros, ports
may have them.  A version 6 address may leave out one run of zero groups, may end in a version 4
address and may carry a numeric scope.  It is written with lower-case groups without leading zeros
and `::` for the first of the longest runs of two or more zero groups.
-/

namespace TracingSidecar

structure IPv4Address where
  octets : List Nat
  length_eq : octets.length = 4
  deriving DecidableEq

structure IPv6Address where
  groups : List Nat
  length_eq : groups.length = 8
  deriving DecidableEq

inductive SocketAddress where
  | v4 (address : IPv4Address) (port : Nat)
  | v6 (address : IPv6Address) (scope : Nat) (port : Nat)
  deriving DecidableEq

namespace SocketAddress

/-- A run of decimal digits at the front of a text, with a value below a bound. -/
def decimal? (bound : Nat) (text : List Char) : Option (Nat × List Char) :=
  match Text.natural? (text.takeWhile Char.isDigit) with
  | some n => if n < bound then some (n, text.dropWhile Char.isDigit) else none
  | none => none

/-- One part of a version 4 address. -/
def octet? (text : List Char) : Option (Nat × List Char) :=
  let digits := text.takeWhile Char.isDigit
  if 3 < digits.length || (digits.head? = some '0' && digits.length ≠ 1) then none
  else decimal? 256 text

/-- A character, and the text after it. -/
def skip? (c : Char) : List Char → Option (List Char)
  | [] => none
  | d :: rest => if c = d then some rest else none

/-- A version 4 address at the front of a text. -/
def v4Address? (text : List Char) : Option (IPv4Address × List Char) := do
  let (a, text) ← octet? text
  let (b, text) ← octet? (← skip? '.' text)
  let (c, text) ← octet? (← skip? '.' text)
  let (d, text) ← octet? (← skip? '.' text)
  some (⟨[a, b, c, d], rfl⟩, text)

/-- One to four hexadecimal digits at the front of a text. -/
def group? (text : List Char) : Option (Nat × List Char) :=
  let digits := text.takeWhile fun c => (Text.hexDigit? c).isSome
  if digits.isEmpty || 4 < digits.length then none
  else some ((digits.filterMap Text.hexDigit?).foldl (fun n d => n * 16 + d) 0,
    text.dropWhile fun c => (Text.hexDigit? c).isSome)

/-- Up to a number of groups separated by colons, whether the last two were given as a version 4
address, and the text after them. -/
def groups : Nat → Bool → List Char → List Nat × Bool × List Char
  | 0, _, text => ([], false, text)
  | count + 1, first, text =>
      match if first then some text else skip? ':' text with
      | none => ([], false, text)
      | some body =>
          match if count = 0 then none else v4Address? body with
          | some (⟨[a, b, c, d], _⟩, rest) => ([a * 256 + b, c * 256 + d], true, rest)
          | none =>
              match group? body with
              | none => ([], false, text)
              | some (group, rest) =>
                  let (more, embedded, rest) := groups count false rest
                  (group :: more, embedded, rest)

/-- A list of eight groups as an address. -/
def ofGroups? (groups : List Nat) : Option IPv6Address :=
  if h : groups.length = 8 then some ⟨groups, h⟩ else none

/-- A version 6 address at the front of a text. -/
def v6Address? (text : List Char) : Option (IPv6Address × List Char) := do
  let (front, embedded, rest) := groups 8 true text
  match ofGroups? front with
  | some address => some (address, rest)
  | none =>
      if embedded then none
      let rest ← skip? ':' (← skip? ':' rest)
      let (back, _, rest) := groups (7 - front.length) true rest
      let zeros := List.replicate (8 - front.length - back.length) 0
      let address ← ofGroups? (front ++ zeros ++ back)
      some (address, rest)

/-- A port after its colon, at the end of a text. -/
def port? (text : List Char) : Option Nat := do
  let (port, rest) ← decimal? 65536 (← skip? ':' text)
  if rest.isEmpty then some port else none

/-- A numeric scope after its percent sign. -/
def scope? (text : List Char) : Option (Nat × List Char) := do
  decimal? UInt32.size (← skip? '%' text)

/-- The address that a text stands for. -/
def parse? (text : String) : Option SocketAddress :=
  match text.toList with
  | '[' :: rest => do
      let (address, rest) ← v6Address? rest
      let (scope, rest) := (scope? rest).getD (0, rest)
      let port ← port? (← skip? ']' rest)
      some (.v6 address scope port)
  | text => do
      let (address, rest) ← v4Address? text
      let port ← port? rest
      some (.v4 address port)

def v4Text (octets : List Nat) : String := ".".intercalate (octets.map toString)

/-- The first of the longest runs of zero groups, as its start and length. -/
def longestZeroRun (groups : List Nat) : Nat × Nat :=
  (List.range groups.length).foldl
    (fun best start =>
      let length := ((groups.drop start).takeWhile (· = 0)).length
      if best.2 < length then (start, length) else best)
    (0, 0)

def groupsText (groups : List Nat) : String := ":".intercalate (groups.map Text.hexadecimal)

def v6Text (address : IPv6Address) : String :=
  match address.groups with
  | [0, 0, 0, 0, 0, 0xffff, high, low] =>
      "::ffff:" ++ v4Text [high / 256, high % 256, low / 256, low % 256]
  | groups =>
      let (start, length) := longestZeroRun groups
      if 1 < length then
        groupsText (groups.take start) ++ "::" ++ groupsText (groups.drop (start + length))
      else groupsText groups

/-- The text of an address. -/
def text : SocketAddress → String
  | .v4 address port => v4Text address.octets ++ ":" ++ toString port
  | .v6 address scope port =>
      let scopeText := if scope = 0 then "" else "%" ++ toString scope
      "[" ++ v6Text address ++ scopeText ++ "]:" ++ toString port

end SocketAddress

end TracingSidecar
