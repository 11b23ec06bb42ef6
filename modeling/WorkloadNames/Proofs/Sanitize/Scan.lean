import Mathlib.Data.List.DropRight
import WorkloadNames.Proofs.Dns.Acceptance
import WorkloadNames.Sanitize

/-!
Sanitizing as one pass over the trimmed text. Splitting at the scheme markers and joining the
hyphenated segments again comes to the same as reading from left to right, with one hyphen for a
marker and one character for any other. What is known of the pass carries over to `sanitize`: its
letters belong to the alphabet, and it begins with the first character of the raw text that does.
-/

set_option autoImplicit false
set_option relaxedAutoImplicit false

namespace WorkloadNames.Sanitize

open Dns

/-- One pass from left to right: a scheme marker becomes a hyphen, any other character is
hyphenated by itself. -/
def scan : Text → Text
  | [] => []
  | ':' :: '/' :: '/' :: rest => '-' :: scan rest
  | c :: rest => hyphenated c :: scan rest

/-- Splitting at the markers and joining by hyphens is the same as the one pass. -/
theorem intercalate_segments_eq_scan (text : Text) :
    ['-'].intercalate ((segments text).map fun segment ↦ segment.map hyphenated) = scan text := by
  fun_induction segments text with
  | case1 => rfl
  | case2 rest ih =>
    have hne : (segments rest).map (fun segment ↦ segment.map hyphenated) ≠ [] := by
      simpa using segments_ne_nil rest
    rw [List.map_cons, List.map_nil, List.intercalate_cons_of_ne_nil hne, ih, scan]
    rfl
  | case3 c rest hmarker hnil ih => exact absurd hnil (segments_ne_nil rest)
  | case4 c rest hmarker segment more hsegments ih =>
    rw [hsegments] at ih
    rw [List.map_cons, List.map_cons, List.intercalate_cons_cons_left, scan]
    · rw [← ih, List.map_cons]
    · exact hmarker

theorem sanitize_eq_scan_trim (raw : Text) : sanitize raw = scan (trim raw) :=
  intercalate_segments_eq_scan (trim raw)

theorem isNameText_scan (text : Text) : IsNameText (scan text) := by
  fun_induction scan text with
  | case1 => exact List.forall_mem_nil _
  | case2 rest ih => exact List.forall_mem_cons.mpr ⟨by decide, ih⟩
  | case3 c rest hmarker ih => exact List.forall_mem_cons.mpr ⟨isNameChar_hyphenated c, ih⟩

/-- A character of the alphabet is no part of a marker, so the pass keeps it. -/
theorem scan_cons_of_isNameChar {c : Char} (h : isNameChar c = true) (rest : Text) :
    scan (c :: rest) = c :: scan rest := by
  rw [scan, hyphenated_of_isNameChar h]
  rintro tail rfl -
  exact absurd h (by decide)

/-! ### The two ends of a trimmed text -/

theorem trim_eq_rdropWhile (raw : Text) :
    trim raw = (raw.dropWhile fun c ↦ !isNameChar c).rdropWhile fun c ↦ !isNameChar c := rfl

/-- Trimming at the right takes nothing from the left while a character of the alphabet is there. -/
theorem head?_trim (raw : Text) : (trim raw).head? = raw.find? isNameChar := by
  rw [List.find?_eq_head?_dropWhile_not, trim_eq_rdropWhile]
  cases hfront : raw.dropWhile fun c ↦ !isNameChar c with
  | nil => rfl
  | cons c rest =>
    have hc : isNameChar c = true := by
      have hhead := List.head?_dropWhile_not (fun c ↦ !isNameChar c) raw
      simpa [hfront] using hhead
    -- `c` stops the trimming at the right end before it has taken everything
    have hne : (c :: rest).rdropWhile (fun c ↦ !isNameChar c) ≠ [] := by
      rw [Ne, List.rdropWhile_eq_nil_iff]
      intro hall
      simpa [hc] using hall c List.mem_cons_self
    obtain ⟨d, kept, hkept⟩ := List.exists_cons_of_ne_nil hne
    have hinitial : (c :: rest).rdropWhile (fun c ↦ !isNameChar c) <+: c :: rest :=
      List.rdropWhile_prefix _ _
    rw [hkept] at hinitial ⊢
    rw [List.head?_cons, List.head?_cons, (List.cons_prefix_cons.mp hinitial).1]

/-- A sanitized text begins with the first character of the raw text that needs no change. -/
theorem head?_sanitize (raw : Text) : (sanitize raw).head? = raw.find? isNameChar := by
  rw [sanitize_eq_scan_trim, ← head?_trim]
  cases htrim : trim raw with
  | nil => rfl
  | cons c rest =>
    have hc : isNameChar c = true := by
      have hfind := head?_trim raw
      rw [htrim, List.head?_cons] at hfind
      exact List.find?_some hfind.symm
    rw [scan_cons_of_isNameChar hc, List.head?_cons, List.head?_cons]

/-- Nothing is left of a text exactly when it holds no character of the alphabet. -/
theorem sanitize_eq_nil_iff {raw : Text} :
    sanitize raw = [] ↔ ∀ c ∈ raw, isNameChar c = false := by
  rw [← List.head?_eq_none_iff, head?_sanitize, List.find?_eq_none]
  simp only [Bool.not_eq_true]

theorem isNameText_sanitize (raw : Text) : IsNameText (sanitize raw) := by
  rw [sanitize_eq_scan_trim]
  exact isNameText_scan (trim raw)

end WorkloadNames.Sanitize
