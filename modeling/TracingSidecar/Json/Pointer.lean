import TracingSidecar.Json.Basic
import TracingSidecar.Text.Ascii

/-!
# Pointers into JSON values

A pointer is a list of tokens: names of members or positions in lists.  In text every token follows
a slash; a tilde is written `~0` and a slash `~1`.
-/

namespace TracingSidecar.Json

abbrev Pointer := List String

namespace Pointer

/-- The text of a token. -/
def escape : List Char → List Char
  | [] => []
  | c :: rest =>
      if c = '~' then '~' :: '0' :: escape rest
      else if c = '/' then '~' :: '1' :: escape rest
      else c :: escape rest

/-- The token of a text, in which every tilde begins an escape. -/
def unescape? : List Char → Option (List Char)
  | '~' :: '0' :: rest => (unescape? rest).map ('~' :: ·)
  | '~' :: '1' :: rest => (unescape? rest).map ('/' :: ·)
  | c :: rest => if c = '~' then none else (unescape? rest).map (c :: ·)
  | [] => some []

/-- The text of a pointer. -/
def text (pointer : Pointer) : String :=
  String.ofList (pointer.flatMap fun token => '/' :: escape token.toList)

/-- The pointer of a text that is empty or begins with a slash. -/
def parse? (text : String) : Option Pointer :=
  match text.toList with
  | [] => some []
  | '/' :: rest =>
      (rest.splitOn '/').mapM fun token => (unescape? token).map String.ofList
  | _ => none

/-- The position in a list that a token stands for: digits without leading zeros. -/
def index? (token : String) : Option Nat :=
  match token.toList with
  | '0' :: _ :: _ => none
  | digits => Text.natural? digits

/-- A position is read back from its token. -/
theorem index?_toString (n : Nat) : index? (toString n) = some n := by
  have h : ∀ c rest, Nat.toDigits 10 n ≠ '0' :: c :: rest := by
    intro c rest h
    rcases Nat.eq_zero_or_pos n with rfl | hpos
    · simp at h
    · exact Text.head?_toDigits_ne hpos (by rw [h]; rfl)
  unfold index?
  rw [Nat.toString_eq_ofList_toDigits, String.toList_ofList]
  split
  next hd => exact absurd hd (h _ _)
  next => exact Text.natural?_toDigits n

end Pointer

/-- The value that a token leads to. -/
def child? (json : Json) (token : String) : Option Json :=
  match json with
  | .obj members => members.lookup token
  | .arr items => (Pointer.index? token).bind (items[·]?)
  | _ => none

/-- The value that a pointer leads to. -/
def at? (json : Json) : Pointer → Option Json
  | [] => some json
  | token :: rest => (json.child? token).bind (·.at? rest)

end TracingSidecar.Json
