import Mathlib.Data.List.DropRight
import WorkloadNames.Text.Ends

/-!
Fragments at both ends of a text. They are counted out in characters and cut off at byte offsets,
and the two units come apart as soon as a character takes more than one byte. The offsets are
boundaries all the same, since characters begin there: the front ends where the character behind it
begins (`before?_of_mem_offsets`), and the back begins where its own first character does
(`after?_of_mem_reverse_offsets`). A text of twice as many characters or more has a middle between
its two fragments (`exists_middle`). The main statement `ends_cut_by_chars` puts together what a
fragment is, where it is cut off and what is left beside it.
-/

set_option autoImplicit false
set_option relaxedAutoImplicit false

namespace WorkloadNames.Text

variable {text : Text} {count : Nat} {entry : Nat × Char}

/-! ### Counting from both ends -/

theorem length_rtake (text : Text) (count : Nat) :
    (text.rtake count).length = min count text.length := by
  rw [List.rtake, List.length_drop]
  omega

theorem take_append_drop_min (text : Text) (count : Nat) :
    text.take count ++ text.drop (min count text.length) = text := by
  rw [List.take_eq_take_min, List.take_append_drop]

theorem rdrop_min_append_rtake (text : Text) (count : Nat) :
    text.rdrop (min count text.length) ++ text.rtake count = text := by
  have hstart : text.length - min count text.length = text.length - count := by omega
  rw [List.rdrop, List.rtake, hstart, List.take_append_drop]

/-- What stands between the two fragments of a text that is long enough for both. -/
theorem exists_middle (hlong : 2 * count ≤ text.length) :
    ∃ middle, text = text.take count ++ middle ++ text.rtake count ∧
      middle.length = text.length - 2 * count := by
  have hstart : text.length - count = count + (text.length - 2 * count) := by omega
  have hrest : (text.drop count).take (text.length - 2 * count) ++ text.rtake count =
      text.drop count := by
    rw [List.rtake, hstart, ← List.drop_drop, List.take_append_drop]
  refine ⟨(text.drop count).take (text.length - 2 * count), ?_, ?_⟩
  · rw [List.append_assoc, hrest, List.take_append_drop]
  · rw [List.length_take, List.length_drop]
    omega

/-! ### Where the fragments are cut off -/

/-- The front ends where the character behind it begins. -/
theorem before?_of_mem_offsets (h : entry ∈ text.offsets[count]?) :
    text.before? entry.1 = some (text.take count) := by
  rw [getElem?_offsets] at h
  obtain ⟨c, -, rfl⟩ := Option.map_eq_some_iff.mp h
  exact before?_byteLength_take text count

/-- A character begins where the characters before it end. -/
theorem isBoundary_of_mem_offsets (h : entry ∈ text.offsets) : text.IsBoundary entry.1 := by
  obtain ⟨index, hindex⟩ := List.mem_iff_getElem?.mp h
  exact exists_before?_eq_some_iff.mp ⟨_, before?_of_mem_offsets hindex⟩

/-- The back begins where its first character does. -/
theorem after?_of_mem_reverse_offsets (hpos : 0 < count)
    (h : entry ∈ text.offsets.reverse[count - 1]?) :
    text.after? entry.1 = some (text.rtake count) := by
  by_cases hcount : count ≤ text.length
  · rw [getElem?_reverse_offsets hpos hcount] at h
    obtain ⟨c, -, rfl⟩ := Option.map_eq_some_iff.mp h
    exact after?_byteLength_take text (text.length - count)
  · rw [getElem?_reverse_offsets_eq_none (Nat.lt_of_not_le hcount)] at h
    exact absurd h (Option.not_mem_none entry)

/-- A text has at least a byte and at most four for each of its characters. -/
theorem byteLength_bounds {fragment : Text} {size : Nat} (h : fragment.length = size) :
    size ≤ byteLength fragment ∧ byteLength fragment ≤ 4 * size := by
  rw [← h]
  exact ⟨length_le_byteLength fragment, byteLength_le_four_mul_length fragment⟩

/-- Every text has fragments at both ends, of as many characters as are asked for or of all that it
has. The offsets at which they are cut off are found by walking over the characters, from the front
and from the back, and they are boundaries of the text. Each fragment and what is left beside it
make up the text, and if the text is long enough for both they lie apart in it. -/
theorem ends_cut_by_chars (text : Text) (count : Nat) :
    ∃ front back,
      (text.firstChars? count = some front ∧ text.lastChars? count = some back) ∧
      (front <+: text ∧ front.length = min count text.length) ∧
      (back <:+ text ∧ back.length = min count text.length) ∧
      (∀ entry ∈ text.offsets[count]?,
        text.IsBoundary entry.1 ∧ text.before? entry.1 = some front) ∧
      (0 < count → ∀ entry ∈ text.offsets.reverse[count - 1]?,
        text.IsBoundary entry.1 ∧ text.after? entry.1 = some back) ∧
      front ++ text.drop (min count text.length) = text ∧
      text.rdrop (min count text.length) ++ back = text ∧
      (2 * count ≤ text.length →
        ∃ middle, text = front ++ middle ++ back ∧ middle.length = text.length - 2 * count) ∧
      (min count text.length ≤ byteLength front ∧
        byteLength front ≤ 4 * min count text.length) ∧
      min count text.length ≤ byteLength back ∧ byteLength back ≤ 4 * min count text.length := by
  have hfront : (text.take count).length = min count text.length := List.length_take
  have hback : (text.rtake count).length = min count text.length := length_rtake text count
  refine ⟨text.take count, text.rtake count,
    ⟨firstChars?_eq_take text count, lastChars?_eq_drop text count⟩,
    ⟨List.take_prefix count text, hfront⟩, ⟨List.drop_suffix _ text, hback⟩,
    fun entry hentry ↦ ?_, fun hpos entry hentry ↦ ?_, take_append_drop_min text count,
    rdrop_min_append_rtake text count, exists_middle, byteLength_bounds hfront,
    byteLength_bounds hback⟩
  · have hmem : entry ∈ text.offsets := List.mem_of_getElem? hentry
    exact ⟨isBoundary_of_mem_offsets hmem, before?_of_mem_offsets hentry⟩
  · have hmem : entry ∈ text.offsets.reverse := List.mem_of_getElem? hentry
    exact ⟨isBoundary_of_mem_offsets (List.mem_reverse.mp hmem),
      after?_of_mem_reverse_offsets hpos hentry⟩

/-- Two characters from either end, of one to four bytes each. -/
theorem ends_cut_by_chars_of_mixed_widths :
    ((3, '😀') ∈ (offsets "é1😀ba€".toList)[2]? ∧
      (8, 'a') ∈ (offsets "é1😀ba€".toList).reverse[2 - 1]? ∧ 2 * 2 ≤ "é1😀ba€".toList.length) ∧
    ∃ front back,
      firstChars? "é1😀ba€".toList 2 = some front ∧ lastChars? "é1😀ba€".toList 2 = some back ∧
      (IsBoundary "é1😀ba€".toList 3 ∧ before? "é1😀ba€".toList 3 = some front) ∧
      (IsBoundary "é1😀ba€".toList 8 ∧ after? "é1😀ba€".toList 8 = some back) ∧
      ∃ middle, "é1😀ba€".toList = front ++ middle ++ back ∧ middle.length = 2 := by
  have hstop : (3, '😀') ∈ (offsets "é1😀ba€".toList)[2]? := by decide
  have hstart : (8, 'a') ∈ (offsets "é1😀ba€".toList).reverse[2 - 1]? := by decide
  have hlong : 2 * 2 ≤ "é1😀ba€".toList.length := by decide
  obtain ⟨front, back, ⟨hfront, hback⟩, -, -, hends, hbegins, -, -, hapart, -⟩ :=
    ends_cut_by_chars "é1😀ba€".toList 2
  exact ⟨⟨hstop, hstart, hlong⟩, front, back, hfront, hback, hends _ hstop,
    hbegins (by decide) _ hstart, hapart hlong⟩

end WorkloadNames.Text
