import WorkloadNames.Text.Basic

/-!
Sets of characters, given by ranges of code points with both ends included.
-/

set_option autoImplicit false
set_option relaxedAutoImplicit false

namespace WorkloadNames.Text

/-- Whether the code point of a character lies in one of the ranges. -/
def inRanges (ranges : List (Nat × Nat)) (c : Char) : Bool :=
  ranges.any fun range ↦ range.1 ≤ c.toNat && c.toNat ≤ range.2

end WorkloadNames.Text
