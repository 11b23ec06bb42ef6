/-!
A text is the list of its Unicode characters. Its length has two units: characters, counted by
`List.length`, and bytes of its UTF-8 form, counted by `byteLength`. The two agree exactly on
ASCII texts, and a character is never more than four bytes.
-/

set_option autoImplicit false
set_option relaxedAutoImplicit false

namespace WorkloadNames

/-- A text is the list of its Unicode characters. -/
abbrev Text := List Char

namespace Text

/-- The number of bytes of the UTF-8 form of a text. -/
def byteLength : Text → Nat
  | [] => 0
  | c :: rest => c.utf8Size + byteLength rest

@[simp] theorem byteLength_nil : byteLength [] = 0 := rfl

@[simp] theorem byteLength_cons (c : Char) (rest : Text) :
    byteLength (c :: rest) = c.utf8Size + byteLength rest := rfl

@[simp] theorem byteLength_append (first second : Text) :
    byteLength (first ++ second) = byteLength first + byteLength second := by
  induction first with
  | nil => simp
  | cons c rest ih => simp [ih, Nat.add_assoc]

theorem length_le_byteLength (text : Text) : text.length ≤ byteLength text := by
  induction text with
  | nil => simp
  | cons c rest ih =>
    have := c.utf8Size_pos
    simp only [List.length_cons, byteLength_cons]
    omega

theorem byteLength_le_four_mul_length (text : Text) : byteLength text ≤ 4 * text.length := by
  induction text with
  | nil => simp
  | cons c rest ih =>
    have := c.utf8Size_le_four
    simp only [List.length_cons, byteLength_cons]
    omega

/-- The decimal digits of a number, without leading zeros. -/
def decimal (n : Nat) : Text := Nat.toDigits 10 n

/-- A text without the sign that it may begin with. -/
def unsigned : Text → Text
  | '+' :: rest => rest
  | '-' :: rest => rest
  | text => text

end Text

end WorkloadNames
