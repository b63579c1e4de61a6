import TracingSidecar.Text.Combining
import TracingSidecar.Text.Invisible
import TracingSidecar.Text.Unassigned

/-!
# Quoted texts

A quoted text stands between double quotes.  Quotes, backslashes and the usual controls get a
two-character escape.  A character that shows nothing on paper, or only together with the one in
front of it, is written by its number.  Everything else, the apostrophe included, stands for itself.
-/

namespace TracingSidecar.Text

/-- Whether a character is written by its number. -/
def isNumbered (c : Char) : Bool := isInvisible c || isCombining c || isUnassigned c

/-- The written form of one character between quotes. -/
def quoteChar (c : Char) : List Char :=
  match c with
  | '"' => ['\\', '"']
  | '\\' => ['\\', '\\']
  | '\n' => ['\\', 'n']
  | '\t' => ['\\', 't']
  | '\r' => ['\\', 'r']
  | '\x00' => ['\\', '0']
  | c =>
      if isNumbered c then
        "\\u\x7b".toList ++ Nat.toDigits 16 c.toNat ++ ['\x7d']
      else [c]

/-- A text between double quotes. -/
def quoted (text : String) : String :=
  String.ofList ('"' :: (text.toList.flatMap quoteChar ++ ['"']))

end TracingSidecar.Text
