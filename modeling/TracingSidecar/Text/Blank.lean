import TracingSidecar.Text.Ranges

/-!
# Blank characters

The characters of the Unicode property `White_Space`, and texts without them at their ends.
-/

namespace TracingSidecar.Text

def blankRanges : Ranges :=
  [(0x09, 0x0d), (0x20, 0x20), (0x85, 0x85), (0xa0, 0xa0), (0x1680, 0x1680), (0x2000, 0x200a),
    (0x2028, 0x2029), (0x202f, 0x202f), (0x205f, 0x205f), (0x3000, 0x3000)]

def isBlank (c : Char) : Bool := blankRanges.contains c

/-- A text without the blanks at its two ends. -/
def trimBlanks (text : String) : String :=
  String.ofList ((text.toList.dropWhile isBlank).reverse.dropWhile isBlank).reverse

example : blankRanges.size = 25 := by decide

end TracingSidecar.Text
