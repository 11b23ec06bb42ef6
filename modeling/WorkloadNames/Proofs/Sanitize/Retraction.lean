import WorkloadNames.Proofs.Dns.Grammar
import WorkloadNames.Proofs.Sanitize.Runs

/-!
What sanitizing keeps. A text over the alphabet of DNS names is left alone, and what comes out is
such a text, so `sanitize` is a retraction onto them (`sanitize_retracts`). It writes no more bytes
than it reads characters.

Of any other text the characters of the alphabet are all kept, each in its place
(`sanitize_keeps_usable_text`). What is added between them is hyphens and nothing else, and nothing
is added at the two ends: there the result has the outermost characters of the alphabet, as they are
in the raw text.
-/

set_option autoImplicit false
set_option relaxedAutoImplicit false

namespace WorkloadNames.Sanitize

open Dns

variable {raw core text : Text} {p : Char → Bool}

/-! ### Texts over the alphabet -/

theorem isCore_self (h : IsNameText text) : IsCore text text where
  dropped := ⟨[], [], by simp, by simp⟩
  head := fun c hc ↦ h c (List.mem_of_mem_head? hc)
  last := fun c hc ↦ h c (List.mem_of_getLast? hc)

theorem scan_eq_self (h : IsNameText text) : scan text = text := by
  induction text with
  | nil => rfl
  | cons c rest ih =>
    obtain ⟨hc, hrest⟩ := List.forall_mem_cons.mp h
    rw [scan_cons_of_isNameChar hc, ih hrest]

/-- The texts that sanitizing leaves alone are those over the alphabet. -/
theorem sanitize_eq_self_iff : sanitize text = text ↔ IsNameText text := by
  constructor
  · intro hself
    have hclean := isNameText_sanitize text
    rwa [hself] at hclean
  · intro hclean
    rw [sanitize_eq_scan_trim, ← (isCore_self hclean).eq_trim, scan_eq_self hclean]

theorem IsCore.sanitize_eq (h : IsCore raw core) : sanitize raw = scan core := by
  rw [sanitize_eq_scan_trim, h.eq_trim]

theorem IsCore.length_le (h : IsCore raw core) : core.length ≤ raw.length := by
  obtain ⟨front, back, rfl, -⟩ := h.dropped
  simp only [List.length_append]
  omega

/-- Two characters are lost to each marker, besides what is dropped at the ends. -/
theorem IsCore.byteLength_sanitize (h : IsCore raw core) :
    Text.byteLength (sanitize raw) + 2 * markerCount core = core.length := by
  rw [(isNameText_sanitize raw).singleByte.byteLength_eq, h.sanitize_eq, length_scan]

/-- Sanitizing is a retraction onto the texts over `[a-zA-Z0-9.-]`: it answers with such a text, and
it leaves a text alone exactly when it is one. Nothing is left of a text without any character of
the class, and the bytes of the answer are never more than the characters that were read. -/
theorem sanitize_retracts (raw : Text) :
    (∀ c ∈ sanitize raw, c ∈ lettersAndDigits ∪ {'.', '-'}) ∧
    (sanitize raw = raw ↔ ∀ c ∈ raw, c ∈ lettersAndDigits ∪ {'.', '-'}) ∧
    sanitize (sanitize raw) = sanitize raw ∧
    (sanitize raw = [] ↔ ∀ c ∈ raw, c ∉ lettersAndDigits ∪ {'.', '-'}) ∧
    Text.byteLength (sanitize raw) ≤ raw.length := by
  simp only [← isNameChar_iff_mem, Bool.not_eq_true]
  refine ⟨isNameText_sanitize raw, sanitize_eq_self_iff,
    sanitize_eq_self_iff.mpr (isNameText_sanitize raw), sanitize_eq_nil_iff, ?_⟩
  have hcore := isCore_trim raw
  have hbytes := hcore.byteLength_sanitize
  have hlength := hcore.length_le
  omega

/-! ### Characters of the alphabet in any text -/

/-- Nothing that passes a test is dropped at the ends if only the alphabet passes it. -/
theorem IsCore.filter_eq (h : IsCore raw core) (hp : ∀ c, p c = true → isNameChar c = true) :
    core.filter p = raw.filter p := by
  obtain ⟨front, back, rfl, hdropped⟩ := h.dropped
  have hnone : ∀ c ∈ front ++ back, ¬p c = true := by
    intro c hc hpass
    exact absurd (hp c hpass) (by simp [hdropped c hc])
  obtain ⟨hfront, hback⟩ := List.forall_mem_append.mp hnone
  rw [List.filter_append, List.filter_append, List.filter_eq_nil_iff.mpr hfront,
    List.filter_eq_nil_iff.mpr hback, List.nil_append, List.append_nil]

/-- The pass adds nothing but hyphens, and it takes nothing of the alphabet away. -/
theorem filter_scan (hp : ∀ c, p c = true → isNameChar c = true) (hhyphen : p '-' = false)
    (text : Text) : (scan text).filter p = text.filter p := by
  have houtside : ∀ c, isNameChar c = false → p c = false := by
    intro c hc
    rw [Bool.eq_false_iff] at hc ⊢
    exact fun hpass ↦ hc (hp c hpass)
  fun_induction scan text with
  | case1 => rfl
  | case2 rest ih =>
    -- neither the marker nor the hyphen that stands for it has anything that passes
    have hcolon := houtside ':' (by decide)
    have hslash := houtside '/' (by decide)
    simp only [List.filter_cons, hhyphen, hcolon, hslash, Bool.false_eq_true, if_false, ih]
  | case3 c rest hmarker ih =>
    by_cases hc : isNameChar c = true
    · rw [hyphenated_of_isNameChar hc, List.filter_cons, List.filter_cons, ih]
    · have hdropped := houtside c (Bool.eq_false_iff.mpr hc)
      have hreplaced : hyphenated c = '-' := by simp [hyphenated, hc]
      simp only [List.filter_cons, hreplaced, hhyphen, hdropped, Bool.false_eq_true, if_false, ih]

/-- The hyphens of a text are kept as well, among those that the pass adds. -/
theorem filter_sublist_scan (text : Text) : (text.filter isNameChar).Sublist (scan text) := by
  fun_induction scan text with
  | case1 => exact List.Sublist.refl []
  | case2 rest ih => exact ih.cons '-'
  | case3 c rest hmarker ih =>
    by_cases hc : isNameChar c = true
    · rw [hyphenated_of_isNameChar hc, List.filter_cons_of_pos hc]
      exact ih.cons_cons c
    · rw [List.filter_cons_of_neg hc]
      exact ih.cons (hyphenated c)

/-! ### The two ends -/

theorem IsCore.getLast?_scan (h : IsCore raw core) :
    (scan core).getLast? = (core.filter isNameChar).getLast? := by
  obtain rfl | ⟨before, last, rfl⟩ := List.eq_nil_or_concat' core
  · rfl
  · have hlast : isNameChar last = true := h.last last List.getLast?_concat
    have hkept : [last].filter isNameChar = [last] := List.filter_cons_of_pos hlast
    rw [scan_concat hlast, List.getLast?_concat, List.filter_append, hkept, List.getLast?_concat]

/-- A sanitized text ends with the last character of the raw text that needs no change. -/
theorem getLast?_sanitize (raw : Text) :
    (sanitize raw).getLast? = (raw.filter isNameChar).getLast? := by
  have hcore := isCore_trim raw
  rw [hcore.sanitize_eq, hcore.getLast?_scan, hcore.filter_eq fun _ hc ↦ hc]

theorem exists_front_of_head?_filter {c : Char} (h : (text.filter p).head? = some c) :
    ∃ front back, text = front ++ c :: back ∧ ∀ d ∈ front, p d = false := by
  rw [List.head?_filter, List.find?_eq_some_iff_append] at h
  obtain ⟨-, front, back, htext, hfront⟩ := h
  exact ⟨front, back, htext, fun d hd ↦ by simpa using hfront d hd⟩

theorem exists_back_of_getLast?_filter {c : Char} (h : (text.filter p).getLast? = some c) :
    ∃ front back, text = front ++ c :: back ∧ ∀ d ∈ back, p d = false := by
  rw [List.getLast?_eq_head?_reverse, ← List.filter_reverse] at h
  obtain ⟨back, front, htext, hback⟩ := exists_front_of_head?_filter h
  refine ⟨front.reverse, back.reverse, ?_, fun d hd ↦ hback d (List.mem_reverse.mp hd)⟩
  simpa using congrArg List.reverse htext

/-- Sanitizing neither loses nor invents usable text. Letters, digits and dots come out as they went
in, one by one and in the same order, and hyphens are among those that come out. The first and the
last character of the answer are the outermost ones of the alphabet in the raw text, so a hyphen at
an end of it stands in the raw text too, with nothing but dropped characters between it and that
end. -/
theorem sanitize_keeps_usable_text (raw : Text) :
    (sanitize raw).filter (fun c ↦ c.isAlphanum || c == '.') =
      raw.filter (fun c ↦ c.isAlphanum || c == '.') ∧
    (raw.filter isNameChar).Sublist (sanitize raw) ∧
    (sanitize raw).head? = (raw.filter isNameChar).head? ∧
    (sanitize raw).getLast? = (raw.filter isNameChar).getLast? ∧
    ((sanitize raw).head? = some '-' →
      ∃ front back, raw = front ++ '-' :: back ∧ ∀ c ∈ front, isNameChar c = false) ∧
    ((sanitize raw).getLast? = some '-' →
      ∃ front back, raw = front ++ '-' :: back ∧ ∀ c ∈ back, isNameChar c = false) := by
  have hcore := isCore_trim raw
  have hfirst : (sanitize raw).head? = (raw.filter isNameChar).head? := by
    rw [head?_sanitize, List.head?_filter]
  have husable (c : Char) (hc : (c.isAlphanum || c == '.') = true) : isNameChar c = true := by
    simp [isNameChar, hc]
  refine ⟨?_, ?_, hfirst, getLast?_sanitize raw, ?_, ?_⟩
  · rw [hcore.sanitize_eq, filter_scan husable (by decide), hcore.filter_eq husable]
  · rw [hcore.sanitize_eq, ← hcore.filter_eq fun _ hc ↦ hc]
    exact filter_sublist_scan (trim raw)
  · intro hhyphen
    exact exists_front_of_head?_filter (hfirst ▸ hhyphen)
  · intro hhyphen
    exact exists_back_of_getLast?_filter (getLast?_sanitize raw ▸ hhyphen)

/-- Both hyphens at the ends come from the raw text, from behind a slash and in front of a colon.
The one in front of the last stands for a letter that is not of ASCII, and the marker has left
one. -/
theorem sanitize_keeps_usable_text_of_outer_hyphens :
    sanitize "/-a://b.é-:".toList = "-a-b.--".toList ∧
      (sanitize "/-a://b.é-:".toList).filter (fun c ↦ c.isAlphanum || c == '.') = "ab.".toList ∧
      (∃ front back, "/-a://b.é-:".toList = front ++ '-' :: back ∧
        ∀ c ∈ front, isNameChar c = false) ∧
      ∃ front back, "/-a://b.é-:".toList = front ++ '-' :: back ∧
        ∀ c ∈ back, isNameChar c = false := by
  obtain ⟨hkept, -, -, -, hfront, hback⟩ := sanitize_keeps_usable_text "/-a://b.é-:".toList
  exact ⟨by decide +kernel, hkept.trans (by decide +kernel), hfront (by decide +kernel),
    hback (by decide +kernel)⟩

end WorkloadNames.Sanitize
