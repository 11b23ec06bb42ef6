import WorkloadNames.Text.Offset

/-!
The first and the last characters of a text, found by counting characters and cut off at the byte
offset that the count leads to. Such an offset is always a boundary, so both cuts succeed on every
text and agree with `List.take` and `List.drop`.
-/

set_option autoImplicit false
set_option relaxedAutoImplicit false

namespace WorkloadNames.Text

/-- The first `count` characters of a text, or all of it if it is shorter. -/
def firstChars? (text : Text) (count : Nat) : Option Text :=
  match (offsets text)[count]? with
  | some (stop, _) => before? text stop
  | none => some text

/-- The last `count` characters of a text, or all of it if it is shorter. -/
def lastChars? (text : Text) (count : Nat) : Option Text :=
  if count = 0 then some []
  else
    match (offsets text).reverse[count - 1]? with
    | some (start, _) => after? text start
    | none => some text

@[simp] theorem length_offsetsFrom (start : Nat) (text : Text) :
    (offsetsFrom start text).length = text.length := by
  induction text generalizing start with
  | nil => rfl
  | cons c rest ih => simp [offsetsFrom, ih]

theorem getElem?_offsetsFrom (start : Nat) (text : Text) (index : Nat) :
    (offsetsFrom start text)[index]? =
      text[index]?.map fun c ↦ (start + byteLength (text.take index), c) := by
  induction text generalizing start index with
  | nil => simp [offsetsFrom]
  | cons c rest ih =>
    cases index with
    | zero => simp [offsetsFrom]
    | succ index => simp [offsetsFrom, ih, Nat.add_assoc]

theorem getElem?_offsets (text : Text) (index : Nat) :
    (offsets text)[index]? = text[index]?.map fun c ↦ (byteLength (text.take index), c) := by
  simpa [offsets] using getElem?_offsetsFrom 0 text index

theorem before?_byteLength_take (text : Text) (count : Nat) :
    before? text (byteLength (text.take count)) = some (text.take count) :=
  before?_eq_some_iff.mpr ⟨text.drop count, (List.take_append_drop count text).symm, rfl⟩

theorem after?_byteLength_take (text : Text) (count : Nat) :
    after? text (byteLength (text.take count)) = some (text.drop count) :=
  after?_eq_some_iff.mpr ⟨text.take count, (List.take_append_drop count text).symm, rfl⟩

theorem firstChars?_eq_take (text : Text) (count : Nat) :
    firstChars? text count = some (text.take count) := by
  rw [firstChars?, getElem?_offsets]
  cases h : text[count]? with
  | none => simp [List.take_of_length_le (List.getElem?_eq_none_iff.mp h)]
  | some c => simp [before?_byteLength_take]

/-- Counted from the end, the last of `count` characters is the one behind all but `count`. -/
theorem getElem?_reverse_offsets {text : Text} {count : Nat} (hpos : 0 < count)
    (hcount : count ≤ text.length) :
    (offsets text).reverse[count - 1]? =
      text[text.length - count]?.map fun c ↦
        (byteLength (text.take (text.length - count)), c) := by
  have hlength : (offsets text).length = text.length := length_offsetsFrom 0 text
  have hindex : (offsets text).length - 1 - (count - 1) = text.length - count := by omega
  rw [List.getElem?_reverse (by omega), hindex, getElem?_offsets]

theorem getElem?_reverse_offsets_eq_none {text : Text} {count : Nat}
    (hcount : text.length < count) : (offsets text).reverse[count - 1]? = none := by
  rw [List.getElem?_eq_none_iff, List.length_reverse, offsets, length_offsetsFrom]
  omega

theorem lastChars?_eq_drop (text : Text) (count : Nat) :
    lastChars? text count = some (text.drop (text.length - count)) := by
  rw [lastChars?]
  split
  · simp_all
  · by_cases hcount : count ≤ text.length
    · have hbound : text.length - count < text.length := by omega
      rw [getElem?_reverse_offsets (by omega) hcount, List.getElem?_eq_getElem hbound]
      exact after?_byteLength_take text (text.length - count)
    · rw [getElem?_reverse_offsets_eq_none (Nat.lt_of_not_le hcount)]
      simp [Nat.sub_eq_zero_of_le (Nat.le_of_not_le hcount)]

end WorkloadNames.Text
