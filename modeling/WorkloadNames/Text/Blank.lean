import WorkloadNames.Text.CodeRange

/-!
Blank characters (the Unicode property White_Space), and texts without the blanks around them.
-/

set_option autoImplicit false
set_option relaxedAutoImplicit false

namespace WorkloadNames.Text

/-- The code points of the blank characters. -/
def blankRanges : List (Nat × Nat) :=
  [(0x9, 0xd), (0x20, 0x20), (0x85, 0x85), (0xa0, 0xa0), (0x1680, 0x1680), (0x2000, 0x200a),
    (0x2028, 0x2029), (0x202f, 0x202f), (0x205f, 0x205f), (0x3000, 0x3000)]

/-- A character that only takes up space. -/
def isBlank (c : Char) : Bool := inRanges blankRanges c

/-- A text without the blanks at its ends. -/
def stripBlanks (text : Text) : Text :=
  ((text.dropWhile isBlank).reverse.dropWhile isBlank).reverse

end WorkloadNames.Text
