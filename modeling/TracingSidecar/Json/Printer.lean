import TracingSidecar.Json.Basic
import TracingSidecar.Decimal.Shortest

/-!
# Compact JSON text

Values are written without blanks.  In a text only quotes, backslashes and controls are escaped.
A double is written with its shortest digits: in positions with at least one decimal while the
exponent of its first digit lies between -5 and 15, with an exponent otherwise.
-/

namespace TracingSidecar.Json

/-- Where a number stops being written in positions. -/
structure RealLayout where
  leastPositional : Int
  greatestPositional : Int

/-- The layout of doubles. -/
def realLayout : RealLayout := ⟨-5, 15⟩

private def zeros (count : Nat) : List Char := List.replicate count '0'

/-- The digits `d₁d₂…` standing for `0.d₁d₂… * 10 ^ point`, written in positions. -/
def positional (digits : List Char) (point : Int) : List Char :=
  if point ≤ 0 then ['0', '.'] ++ zeros (-point).toNat ++ digits
  else if digits.length ≤ point.toNat then
    digits ++ zeros (point.toNat - digits.length) ++ ['.', '0']
  else digits.take point.toNat ++ ['.'] ++ digits.drop point.toNat

/-- The digits `d₁d₂…` standing for `d₁.d₂… * 10 ^ leading`, written with an exponent. -/
def scientific (digits : List Char) (leading : Int) : List Char :=
  let fraction := digits.drop 1
  digits.take 1 ++ (if fraction.isEmpty then [] else '.' :: fraction) ++
    ['e', if leading < 0 then '-' else '+'] ++ Nat.toDigits 10 leading.natAbs

/-- A finite double in text. -/
def realText (x : Binary64) : String :=
  let sign := if x.isNegative then ['-'] else []
  if x.mantissa = 0 then String.ofList (sign ++ ['0', '.', '0'])
  else
    let ⟨digits, exponent⟩ := Decimal.shortest x
    let point := exponent + digits.length
    let leading := point - 1
    if realLayout.leastPositional ≤ leading && leading ≤ realLayout.greatestPositional then
      String.ofList (sign ++ positional digits point)
    else String.ofList (sign ++ scientific digits leading)

/-- One character of a text between quotes. -/
def escapeChar (c : Char) : List Char :=
  match c with
  | '"' => ['\\', '"']
  | '\\' => ['\\', '\\']
  | '\n' => ['\\', 'n']
  | '\r' => ['\\', 'r']
  | '\t' => ['\\', 't']
  | '\x08' => ['\\', 'b']
  | '\x0c' => ['\\', 'f']
  | c =>
      if c.toNat < 0x20 then
        ['\\', 'u', '0', '0', Nat.digitChar (c.toNat / 16), Nat.digitChar (c.toNat % 16)]
      else [c]

/-- A text between quotes. -/
def quotedText (text : String) : String :=
  String.ofList ('"' :: (text.toList.flatMap escapeChar ++ ['"']))

mutual

/-- The compact text of a value. -/
def compact : Json → String
  | .null => "null"
  | .bool true => "true"
  | .bool false => "false"
  | .int n => toString n
  | .real x => realText x
  | .str text => quotedText text
  | .arr items => "[" ++ compactItems items ++ "]"
  | .obj members => "\x7b" ++ compactMembers members ++ "\x7d"

def compactItems : List Json → String
  | [] => ""
  | [item] => compact item
  | item :: rest => compact item ++ "," ++ compactItems rest

def compactMembers : List (String × Json) → String
  | [] => ""
  | [(key, value)] => quotedText key ++ ":" ++ compact value
  | (key, value) :: rest => quotedText key ++ ":" ++ compact value ++ "," ++ compactMembers rest

end

end TracingSidecar.Json
