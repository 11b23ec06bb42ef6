import WorkloadNames.Dns.Alphabet

/-!
Raw identifiers brought into the alphabet of DNS names. Characters outside the alphabet are
dropped at both ends; between them a scheme marker becomes one hyphen, and so does every other
character outside the alphabet. The result need not be a DNS name, but it has no other characters.
-/

set_option autoImplicit false
set_option relaxedAutoImplicit false

namespace WorkloadNames

namespace Sanitize

/-- A text without its leading and trailing characters outside the alphabet. -/
def trim (raw : Text) : Text :=
  let front := raw.dropWhile fun c ↦ !Dns.isNameChar c
  (front.reverse.dropWhile fun c ↦ !Dns.isNameChar c).reverse

/-- The segments between the scheme markers `://` of a text, the leftmost marker first. There is
always one segment more than there are markers. -/
def segments : Text → List Text
  | [] => [[]]
  | ':' :: '/' :: '/' :: rest => [] :: segments rest
  | c :: rest =>
    match segments rest with
    | [] => [[c]]
    | segment :: more => (c :: segment) :: more

theorem segments_ne_nil (text : Text) : segments text ≠ [] := by
  fun_cases segments text with
  | case1 => simp
  | case2 => simp
  | case3 => simp
  | case4 => simp

/-- A character of the alphabet as it is, any other as a hyphen. -/
def hyphenated (c : Char) : Char := if Dns.isNameChar c then c else '-'

theorem isNameChar_hyphenated (c : Char) : Dns.isNameChar (hyphenated c) = true := by
  rw [hyphenated]
  split
  · assumption
  · decide

theorem hyphenated_of_isNameChar {c : Char} (h : Dns.isNameChar c = true) : hyphenated c = c := by
  simp [hyphenated, h]

end Sanitize

open Sanitize in
/-- A raw identifier in the alphabet of DNS names. -/
def sanitize (raw : Text) : Text :=
  ['-'].intercalate ((segments (trim raw)).map fun segment ↦ segment.map hyphenated)

end WorkloadNames
