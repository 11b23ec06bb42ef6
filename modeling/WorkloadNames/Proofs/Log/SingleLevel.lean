import Mathlib.Data.List.TakeWhile
import WorkloadNames.Proofs.Log.Deciding

/-!
Filters of a single level. A text that stands for a threshold, be it a number or a name in letters
of either case, is a filter of one directive about all events, and so is the empty text, which asks
for errors; every reader of filters has to read these texts so (`ReadsLevels`), and the one of this
library does (`readsLevels_ofText`). Such filters are in the order of their thresholds: the higher
one admits all that the lower one admits (`admits_ofThreshold_mono`).
-/

set_option autoImplicit false
set_option relaxedAutoImplicit false

namespace WorkloadNames.Log

/-! ### The order of thresholds -/

namespace Threshold

/-- How many levels a threshold admits. -/
def rank (threshold : Threshold) : Nat := threshold.elim 0 Level.number

theorem admits_iff {threshold : Threshold} {level : Level} :
    threshold.admits level = true ↔ level.number ≤ threshold.rank := by
  cases threshold with
  | none =>
    refine iff_of_false Bool.false_ne_true ?_
    cases level <;> decide
  | some least => exact decide_eq_true_iff

end Threshold

/-- A filter of a single threshold has the one directive decide. -/
theorem Filter.admits_ofThreshold_iff {threshold : Threshold} {record : Record} :
    (ofThreshold threshold).Admits record ↔ record.level.number ≤ threshold.rank := by
  rw [← enables_iff, ← Threshold.admits_iff]
  exact Iff.rfl

theorem Filter.admits_ofThreshold_mono {low high : Threshold} (h : low.rank ≤ high.rank)
    {record : Record} (hlow : (ofThreshold low).Admits record) :
    (ofThreshold high).Admits record :=
  admits_ofThreshold_iff.mpr ((admits_ofThreshold_iff.mp hlow).trans h)

/-! ### Reading a threshold -/

variable {text : Text} {threshold : Threshold}

theorem isAlphanum_iff {c : Char} :
    c.isAlphanum = true ↔ c.isUpper = true ∨ c.isLower = true ∨ c.isDigit = true := by
  delta Char.isAlphanum Char.isAlpha
  rw [Bool.or_eq_true, Bool.or_eq_true, or_assoc]

/-- A character whose capital is a letter is a letter. -/
theorem isAlphanum_of_isUpper_toUpper {c : Char} (h : c.toUpper.isUpper = true) :
    c.isAlphanum = true := by
  rw [isAlphanum_iff]
  by_cases hlower : c.isLower = true
  · exact Or.inr (Or.inl hlower)
  · have hsame : c.toUpper = c := dif_neg fun hbounds ↦
      hlower (Bool.and_eq_true_iff.mpr ⟨decide_eq_true hbounds.1, decide_eq_true hbounds.2⟩)
    rw [hsame] at h
    exact Or.inl h

theorem isDigit_of_number? {number : Nat} (h : Threshold.number? text = some number)
    (hsign : text.head? ≠ some '+') : ∀ c ∈ text, c.isDigit = true := by
  unfold Threshold.number? at h
  split at h
  · exact absurd rfl hsign
  · simp only [Option.ite_none_left_eq_some, Bool.or_eq_true, not_or, Bool.not_eq_true,
      Bool.not_eq_false'] at h
    exact List.all_eq_true.mp h.1.2

/-- A text that stands for a threshold is made of letters and digits, unless it begins with a
sign. -/
theorem isAlphanum_of_threshold (h : Threshold.ofText? text = some threshold)
    (hsign : text.head? ≠ some '+') : ∀ c ∈ text, c.isAlphanum = true := by
  intro c hc
  have hword (word : Text) (hword : word ∈ "OFF".toList :: Level.all.map Level.name)
      (htext : text.map Char.toUpper = word) : c.isAlphanum = true := by
    have hcapitals : ∀ word ∈ "OFF".toList :: Level.all.map Level.name,
        word.all Char.isUpper = true := by
      decide
    have hcapital := List.all_eq_true.mp (hcapitals word hword) c.toUpper
      (htext ▸ List.mem_map_of_mem hc)
    exact isAlphanum_of_isUpper_toUpper hcapital
  cases hnumber : Threshold.number? text with
  | some number =>
    exact isAlphanum_iff.mpr (Or.inr (Or.inr (isDigit_of_number? hnumber hsign c hc)))
  | none =>
    simp only [Threshold.ofText?, hnumber] at h
    split at h
    · exact hword _ List.mem_cons_self ‹_›
    · obtain ⟨level, hlevel, -⟩ := Option.map_eq_some_iff.mp h
      have hname : level.name = text.map Char.toUpper := by simpa using List.find?_some hlevel
      have hmem := List.mem_of_find?_eq_some hlevel
      exact hword _ (List.mem_cons_of_mem _ (List.mem_map_of_mem hmem)) hname.symm

/-- Letters and digits of ASCII begin a directive and are no blanks. -/
theorem mayBegin_and_not_isBlank {c : Char} (h : c.isAlphanum = true) :
    Reading.mayBegin c = true ∧ Text.isBlank c = false := by
  have hascii : ∀ n < 128, (Char.ofNat n).isAlphanum = true →
      Reading.mayBegin (Char.ofNat n) = true ∧ Text.isBlank (Char.ofNat n) = false := by
    decide +kernel
  have hlt : c.val ≤ 127 := Char.utf8Size_eq_one_iff.mp
    (Dns.utf8Size_of_isNameChar (Dns.isNameChar_of_isAlphanum h))
  have hc := hascii c.toNat (Nat.lt_succ_of_le hlt)
  rw [Char.ofNat_toNat] at hc
  exact hc h

/-- Behind the first character nothing happens until an equals sign or a bracket. -/
theorem foldlM_step_of_plain {piece : Text} {reading : Reading}
    (hpart : reading.part = .levelOrTarget) (rest : Text)
    (hrest : ∀ c ∈ rest, c ≠ '=' ∧ c ≠ '[') (start : Nat) :
    (Text.offsetsFrom start rest).foldlM (Reading.step piece) reading = .ok reading := by
  induction rest generalizing start with
  | nil => rfl
  | cons c rest ih =>
    obtain ⟨⟨hequals, hbracket⟩, hrest⟩ := List.forall_mem_cons.mp hrest
    have hstep : Reading.step piece reading (start, c) = .ok reading := by
      simp only [Reading.step, hpart, hequals, hbracket, if_false]
    rw [Text.offsetsFrom, List.foldlM_cons, hstep]
    exact ih hrest _

theorem stripBlanks_eq_self (h : ∀ c ∈ text, Text.isBlank c = false) :
    Text.stripBlanks text = text := by
  have hkept (other : Text) (hother : ∀ c ∈ other, Text.isBlank c = false) :
      other.dropWhile Text.isBlank = other := by
    rw [List.dropWhile_eq_self_iff]
    intro hpos
    simp [hother _ (List.getElem_mem hpos)]
  rw [Text.stripBlanks, hkept text h, hkept text.reverse (by simpa using h), List.reverse_reverse]

/-- Letters and digits are read as a level or a target. -/
theorem ofPiece_of_isAlphanum (hne : text ≠ []) (hletters : ∀ c ∈ text, c.isAlphanum = true) :
    Reading.ofPiece text = Reading.finish text ⟨.levelOrTarget, none, false, none⟩ := by
  have hstripped : Text.stripBlanks text = text :=
    stripBlanks_eq_self fun c hc ↦ (mayBegin_and_not_isBlank (hletters c hc)).2
  cases text with
  | nil => exact absurd rfl hne
  | cons c rest =>
    obtain ⟨hfirst, hrest⟩ := List.forall_mem_cons.mp hletters
    have hbegin : Reading.step (c :: rest) .fresh (0, c) =
        .ok ⟨.levelOrTarget, none, false, none⟩ := by
      have hbracket : c ≠ '[' := by
        rintro rfl
        exact absurd hfirst (by decide)
      simp only [Reading.step, Reading.fresh, hbracket, if_false,
        (mayBegin_and_not_isBlank hfirst).1, if_true]
    have hplain : ∀ d ∈ rest, d ≠ '=' ∧ d ≠ '[' := by
      intro d hd
      constructor <;>
      · rintro rfl
        exact absurd (hrest _ hd) (by decide)
    have hfold := @foldlM_step_of_plain (c :: rest) ⟨.levelOrTarget, none, false, none⟩ rfl rest
      hplain c.utf8Size
    rw [Reading.ofPiece, hstripped, Text.offsets, Text.offsetsFrom, List.foldlM_cons, hbegin]
    change (List.foldlM _ _ (Text.offsetsFrom (0 + c.utf8Size) rest) >>= _) = _
    rw [Nat.zero_add, hfold]
    rfl

/-- A text that stands for a threshold, and does not begin with a sign, is a filter of it. -/
theorem ofText_of_threshold (h : Threshold.ofText? text = some threshold)
    (hsign : text.head? ≠ some '+') : Filter.ofText text = .ok (.ofThreshold threshold) := by
  have hletters := isAlphanum_of_threshold h hsign
  have hne : text ≠ [] := by
    rintro rfl
    cases (show Threshold.ofText? [] = none by decide).symm.trans h
  have hpieces : Text.pieces ',' text = [text] := by
    rw [Text.pieces_eq_splitOn]
    exact List.splitOn_eq_singleton fun hcomma ↦ absurd (hletters ',' hcomma) (by decide)
  have hpiece : Reading.ofPiece text = .ok (⟨none, none, threshold⟩, false) := by
    rw [ofPiece_of_isAlphanum hne hletters]
    simp only [Reading.finish, h]
  have hwritten : (Text.pieces ',' text).filter (fun piece ↦ !piece.isEmpty) = [text] := by
    simp [hpieces, hne]
  rw [Filter.ofText, hwritten, List.mapM_cons, hpiece]
  rfl

/-! ### Every reader of filters -/

/-- What a reader of filters makes of the plainest texts: the empty one asks for errors, and one
that stands for a threshold for what the threshold admits. -/
structure ReadsLevels (read : Text → Except Unread Filter) : Prop where
  empty : read [] = .ok (.ofThreshold (some .error))
  level : ∀ {text : Text} {threshold : Threshold}, Threshold.ofText? text = some threshold →
    text.head? ≠ some '+' → read text = .ok (.ofThreshold threshold)

theorem readsLevels_ofText : ReadsLevels Filter.ofText where
  empty := by decide +kernel
  level := ofText_of_threshold

/-- A reader answers a text: it reads it or refuses it, and does not break off. -/
def Answers (read : Text → Except Unread Filter) (text : Text) : Prop :=
  ∀ complaint, read text ≠ .error (.aborted complaint)

theorem ReadsLevels.answers {read : Text → Except Unread Filter} (h : ReadsLevels read)
    (hlevel : Threshold.ofText? text = some threshold) (hsign : text.head? ≠ some '+') :
    Answers read text := by
  intro complaint hread
  cases (h.level hlevel hsign).symm.trans hread

/-- The reader of this library does not answer every text. Offsets are counted behind the blanks in
front of a directive and looked up in front of them, and may so lie inside a character. -/
theorem not_answers_ofText : ¬ Answers Filter.ofText " é=info".toList := by
  intro hanswers
  exact hanswers "a directive was cut inside a character\n".toList (by decide +kernel)

/-- A reader that answers every one of some texts finds a filter among them, or falls back. -/
theorem Filter.exists_firstOf {read : Text → Except Unread Filter} {texts : List Text}
    (h : ∀ text ∈ texts, Answers read text) : ∃ filter, firstOf read texts = .ok filter := by
  induction texts with
  | nil => exact ⟨_, rfl⟩
  | cons text rest ih =>
    obtain ⟨hanswers, hrest⟩ := List.forall_mem_cons.mp h
    unfold firstOf
    cases hread : read text with
    | ok filter => exact ⟨filter, rfl⟩
    | error unread =>
      cases unread with
      | refused => exact ih hrest
      | aborted complaint => exact absurd hread (hanswers complaint)

end WorkloadNames.Log
