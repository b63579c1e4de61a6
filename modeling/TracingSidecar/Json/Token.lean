import TracingSidecar.Json.Basic
import TracingSidecar.Text.Ascii

/-!
# Lexical elements of JSON

`Token.scan?` reads one element at the front of a text and leaves a shorter text
(`length_lt_of_scan?`).  An integer of more than 64 bits, a negative zero and every numeral with a
fraction or an exponent is a double.
-/

namespace TracingSidecar.Json

inductive Token where
  | openList | closeList | openObject | closeObject | comma | colon
  /-- A text, if its characters are known. -/
  | text (value : Option String)
  /-- Null, a truth value, or a numeral; a numeral that is too large has no value. -/
  | scalar (value : Option Json)

/-- Blanks between the elements of a JSON text. -/
def isSeparatingBlank (c : Char) : Bool := c = ' ' || c = '\n' || c = '\t' || c = '\r'

/-- Decimal digits taken into a significand while it stays below the bound, and the rest. -/
def takeDigits (significand : Nat) : List Char → Nat × List Char
  | [] => (significand, [])
  | c :: rest =>
      let next := significand * 10 + (c.toNat - '0'.toNat)
      if next < Numeral.significandBound then takeDigits next rest else (significand, c :: rest)

/-- The parts of a numeral: sign, whole digits, and the digits of fraction and exponent if it has
them. -/
structure NumeralParts where
  negative : Bool
  whole : List Char
  fraction : Option (List Char)
  exponent : Option (Bool × List Char)

/-- The digits at the front of a text, of which there is at least one, and what follows them. -/
def digits? (text : List Char) : Option (List Char × List Char) :=
  if (text.takeWhile Char.isDigit).isEmpty then none
  else some (text.takeWhile Char.isDigit, text.dropWhile Char.isDigit)

/-- The fraction at the front of a text, if there is one; a point calls for digits. -/
def fraction? : List Char → Option (Option (List Char) × List Char)
  | '.' :: rest => (digits? rest).map fun (digits, after) => (some digits, after)
  | text => some (none, text)

/-- The sign at the front of an exponent, and what follows it. -/
def exponentSign : List Char → Bool × List Char
  | '-' :: rest => (true, rest)
  | '+' :: rest => (false, rest)
  | text => (false, text)

/-- The exponent at the front of a text, if there is one; its mark calls for digits. -/
def exponent? : List Char → Option (Option (Bool × List Char) × List Char)
  | [] => some (none, [])
  | mark :: rest =>
      if mark = 'e' || mark = 'E' then
        (digits? (exponentSign rest).2).map fun (digits, after) =>
          (some ((exponentSign rest).1, digits), after)
      else some (none, mark :: rest)

/-- The longest numeral at the front of a text without a sign, and what follows it.  A whole part of
several digits does not start with zero. -/
def unsigned? (negative : Bool) (text : List Char) : Option (NumeralParts × List Char) := do
  let (whole, rest) ← digits? text
  if whole.head? = some '0' && whole.length ≠ 1 then none
  else
    let (fraction, rest) ← fraction? rest
    let (exponent, rest) ← exponent? rest
    some (⟨negative, whole, fraction, exponent⟩, rest)

/-- The longest numeral at the front of a text, and what follows it. -/
def numeral? : List Char → Option (NumeralParts × List Char)
  | '-' :: rest => unsigned? true rest
  | text => unsigned? false text

/-- The value of a numeral with a fraction, an exponent or too many digits.  Whole digits beyond the
significand raise the exponent, fraction digits beyond it are dropped. -/
def NumeralParts.real? (parts : NumeralParts) : Option Json := do
  let (significand, surplus) := takeDigits 0 parts.whole
  let fraction := parts.fraction.getD []
  let (significand, dropped) := takeDigits significand fraction
  let shift : Int := match parts.exponent with
    | none => 0
    | some (negative, digits) =>
        let value : Int := ((Text.digitsValue? 0 digits).getD 0 : Nat)
        if negative then -value else value
  let places : Int := (surplus.length : Int) - ((fraction.length - dropped.length : Nat) : Int)
  let number : Numeral := ⟨parts.negative, significand, places + shift⟩
  number.toBinary64?.map .real

/-- The value of a numeral. -/
def NumeralParts.value? (parts : NumeralParts) : Option Json :=
  match parts.fraction, parts.exponent, Text.natural? parts.whole with
  | none, none, some n =>
      if parts.negative then
        if 0 < n ∧ Int64.minValue.toInt ≤ -(n : Int) then some (.int (-(n : Int))) else parts.real?
      else if n < UInt64.size then some (.int n) else parts.real?
  | _, _, _ => parts.real?

/-- The code unit of four hexadecimal digits. -/
def codeUnit? (a b c d : Char) : Option Nat := do
  let a ← Text.hexDigit? a
  let b ← Text.hexDigit? b
  let c ← Text.hexDigit? c
  let d ← Text.hexDigit? d
  some (((a * 16 + b) * 16 + c) * 16 + d)

/-- The character of a two-character escape. -/
def shortEscape? : Char → Option Char
  | '"' => some '"'
  | '\\' => some '\\'
  | '/' => some '/'
  | 'b' => some '\x08'
  | 'f' => some '\x0c'
  | 'n' => some '\n'
  | 'r' => some '\r'
  | 't' => some '\t'
  | _ => none

/-- Put a character in front of the rest of a text and of what follows the text. -/
def prepend (c : Option Char) (rest : Option (List Char) × List Char) :
    Option (List Char) × List Char :=
  ((match c, rest.1 with
    | some c, some body => some (c :: body)
    | _, _ => none), rest.2)

/-- The character of a code unit, if it is no half of a pair. -/
def charOfUnit? (unit : Nat) : Option Char :=
  if 0xd800 ≤ unit ∧ unit < 0xe000 then none else some (Char.ofNat unit)

/-- The character of a pair of code units. -/
def charOfPair (high low : Nat) : Char :=
  Char.ofNat (0x10000 + (high - 0xd800) * 0x400 + (low - 0xdc00))

/-- Whether two code units are a pair that stands for one character outside the first plane. -/
def isPair (high low : Nat) : Bool :=
  0xd800 ≤ high && high < 0xdc00 && 0xdc00 ≤ low && low < 0xe000

/-- The characters of a text up to its closing quote, and what follows the quote.  A text with half
of a pair of code units goes on to its quote, but its characters are unknown. -/
def textBody? : List Char → Option (Option (List Char) × List Char)
  | [] => none
  | '"' :: rest => some (some [], rest)
  | '\\' :: 'u' :: a :: b :: c :: d :: '\\' :: 'u' :: e :: f :: g :: h :: rest =>
      match codeUnit? a b c d, codeUnit? e f g h with
      | some high, some low =>
          if isPair high low then (textBody? rest).map (prepend (some (charOfPair high low)))
          else
            (textBody? ('\\' :: 'u' :: e :: f :: g :: h :: rest)).map
              (prepend (charOfUnit? high))
      | _, _ => none
  | '\\' :: 'u' :: a :: b :: c :: d :: rest =>
      match codeUnit? a b c d with
      | some unit => (textBody? rest).map (prepend (charOfUnit? unit))
      | none => none
  | '\\' :: mark :: rest =>
      match shortEscape? mark with
      | some c => (textBody? rest).map (prepend (some c))
      | none => none
  | c :: rest =>
      if c.toNat < 0x20 || c = '\\' then none
      else (textBody? rest).map (prepend (some c))

theorem length_le_of_textBody? {text after : List Char} {body : Option (List Char)}
    (h : textBody? text = some (body, after)) : after.length < text.length := by
  fun_induction textBody? text generalizing body after
  all_goals simp_all [Option.map_eq_some_iff, prepend]
  all_goals grind

/-- A word of the notation, and the text after it. -/
def word? (word : List Char) (value : Json) (text : List Char) : Option (Token × List Char) :=
  if word.isPrefixOf text then some (.scalar (some value), text.drop word.length) else none

/-- One lexical element at the front of a text, and the text after it. -/
def Token.scan? : List Char → Option (Token × List Char)
  | [] => none
  | '[' :: rest => some (.openList, rest)
  | ']' :: rest => some (.closeList, rest)
  | '\x7b' :: rest => some (.openObject, rest)
  | '\x7d' :: rest => some (.closeObject, rest)
  | ',' :: rest => some (.comma, rest)
  | ':' :: rest => some (.colon, rest)
  | '"' :: rest => (textBody? rest).map fun (body, after) => (.text (body.map String.ofList), after)
  | 't' :: rest => word? ['r', 'u', 'e'] (.bool true) rest
  | 'f' :: rest => word? ['a', 'l', 's', 'e'] (.bool false) rest
  | 'n' :: rest => word? ['u', 'l', 'l'] .null rest
  | c :: rest => (numeral? (c :: rest)).map fun (parts, after) => (.scalar parts.value?, after)

theorem length_lt_of_digits? {text digits after : List Char}
    (h : digits? text = some (digits, after)) : after.length < text.length := by
  unfold digits? at h
  split at h
  · cases h
  · rename_i hne
    cases h
    have hsplit : (text.takeWhile Char.isDigit ++ text.dropWhile Char.isDigit).length = _ :=
      congrArg List.length List.takeWhile_append_dropWhile
    have hpos : 0 < (text.takeWhile Char.isDigit).length := by
      rw [List.length_pos_iff]
      simpa using hne
    simp only [List.length_append] at hsplit
    omega

theorem length_le_of_fraction? {text after : List Char} {fraction : Option (List Char)}
    (h : fraction? text = some (fraction, after)) : after.length ≤ text.length := by
  unfold fraction? at h
  split at h
  · obtain ⟨⟨digits, rest⟩, hdigits, he⟩ := Option.map_eq_some_iff.1 h
    cases he
    have := length_lt_of_digits? hdigits
    simp only [List.length_cons]
    omega
  · cases h
    exact Nat.le_refl _

theorem length_exponentSign_le (text : List Char) : (exponentSign text).2.length ≤ text.length := by
  unfold exponentSign
  split <;> simp

theorem length_le_of_exponent? {text after : List Char} {exponent : Option (Bool × List Char)}
    (h : exponent? text = some (exponent, after)) : after.length ≤ text.length := by
  unfold exponent? at h
  split at h
  · cases h
    exact Nat.le_refl _
  · rename_i mark rest
    split at h
    · obtain ⟨⟨digits, rest'⟩, hdigits, he⟩ := Option.map_eq_some_iff.1 h
      cases he
      have := length_lt_of_digits? hdigits
      have := length_exponentSign_le rest
      simp only [List.length_cons]
      omega
    · cases h
      exact Nat.le_refl _

theorem length_lt_of_unsigned? {text after : List Char} {negative : Bool} {parts : NumeralParts}
    (h : unsigned? negative text = some (parts, after)) : after.length < text.length := by
  unfold unsigned? at h
  cases hwhole : digits? text with
  | none => simp [hwhole] at h
  | some whole =>
    simp only [hwhole, Option.bind_eq_bind, Option.bind_some] at h
    split at h
    · cases h
    · cases hfraction : fraction? whole.2 with
      | none => simp [hfraction] at h
      | some fraction =>
        simp only [hfraction, Option.bind_some] at h
        cases hexponent : exponent? fraction.2 with
        | none => simp [hexponent] at h
        | some exponent =>
          simp only [hexponent, Option.bind_some] at h
          cases h
          have := length_lt_of_digits? hwhole
          have := length_le_of_fraction? hfraction
          have := length_le_of_exponent? hexponent
          omega

theorem length_lt_of_numeral? {text after : List Char} {parts : NumeralParts}
    (h : numeral? text = some (parts, after)) : after.length < text.length := by
  unfold numeral? at h
  split at h
  · exact Nat.lt_succ_of_lt (length_lt_of_unsigned? h)
  · exact length_lt_of_unsigned? h

theorem length_le_of_word? {word text after : List Char} {value : Json} {token : Token}
    (h : word? word value text = some (token, after)) : after.length ≤ text.length := by
  unfold word? at h
  split at h
  · cases h
    simp
  · cases h

/-- Scanning uses up at least one character. -/
theorem length_lt_of_scan? {text after : List Char} {token : Token}
    (h : Token.scan? text = some (token, after)) : after.length < text.length := by
  unfold Token.scan? at h
  split at h
  case h_1 => cases h
  case h_8 rest =>
    obtain ⟨⟨body, rest'⟩, hbody, he⟩ := Option.map_eq_some_iff.1 h
    cases he
    exact Nat.lt_succ_of_lt (length_le_of_textBody? hbody)
  case h_9 => exact Nat.lt_succ_of_le (length_le_of_word? h)
  case h_10 => exact Nat.lt_succ_of_le (length_le_of_word? h)
  case h_11 => exact Nat.lt_succ_of_le (length_le_of_word? h)
  case h_12 =>
    obtain ⟨⟨parts, rest⟩, hparts, he⟩ := Option.map_eq_some_iff.1 h
    cases he
    exact length_lt_of_numeral? hparts
  all_goals
    cases h
    simp

end TracingSidecar.Json
