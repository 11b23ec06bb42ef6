import WorkloadNames.Proofs.Dns.Joining
import WorkloadNames.Proofs.Dns.Restriction
import WorkloadNames.Text.Split

/-!
Subdomains as labels with dots between them. Labels that are put together by dots make a subdomain
where there is room for it. The rule for subdomains looks at no dot in particular, though, so a
subdomain can fall into segments that are no labels. What it takes for all of them to be labels is
that no dot has another dot or a hyphen beside it and that no segment is too long (`WellDotted`).

Between the two stands the one condition on dots that speaks of no pattern: each is between two
letters or digits (`DotsInside`). It rules out the patterns of a dot and a mark, and nothing else
(`dotsInside_iff`); it holds where the segments are labels, since each side of a dot is then put
together from labels itself (`dotsInside_of_pieces`); and it gives a segment its two ends, since a
segment ends at a dot or where the whole name ends (`isName_of_mem_pieces`).
-/

set_option autoImplicit false
set_option relaxedAutoImplicit false

namespace WorkloadNames

/-! ### Pieces and what stands around them -/

namespace Text

variable {separator : Char} {text piece : Text} {texts : List Text}

/-- A part of a joined text stands between separators or at an end of the whole. -/
theorem exists_around_of_mem_intercalate (separator : Char) (h : piece ∈ texts) :
    ∃ front back, [separator].intercalate texts = front ++ piece ++ back ∧
      (front = [] ∨ [separator] <:+ front) ∧ (back = [] ∨ [separator] <+: back) := by
  induction texts with
  | nil => exact absurd h List.not_mem_nil
  | cons first texts ih =>
    cases texts with
    | nil =>
      obtain rfl := List.mem_singleton.mp h
      exact ⟨[], [], by simp, Or.inl rfl, Or.inl rfl⟩
    | cons second texts =>
      rw [List.intercalate_cons_cons]
      rcases List.mem_cons.mp h with rfl | hrest
      · exact ⟨[], [separator] ++ [separator].intercalate (second :: texts), by simp, Or.inl rfl,
          Or.inr (List.prefix_append _ _)⟩
      · obtain ⟨front, back, hwhole, hfront, hback⟩ := ih hrest
        refine ⟨first ++ [separator] ++ front, back, by rw [hwhole]; simp, Or.inr ?_, hback⟩
        rcases hfront with rfl | hfront
        · rw [List.append_nil]
          exact List.suffix_append _ _
        · exact hfront.trans (List.suffix_append _ _)

theorem exists_around_of_mem_pieces (h : piece ∈ pieces separator text) :
    ∃ front back, text = front ++ piece ++ back ∧
      (front = [] ∨ [separator] <:+ front) ∧ (back = [] ∨ [separator] <+: back) := by
  obtain ⟨front, back, hwhole, haround⟩ := exists_around_of_mem_intercalate separator h
  exact ⟨front, back, (intercalate_pieces separator text).symm.trans hwhole, haround⟩

end Text

namespace Dns

/-- The dots of a name stand between letters or digits. -/
def DotsInside (name : Text) : Prop :=
  ∀ front back, name = front ++ '.' :: back →
    front.getLast?.any Char.isAlphanum = true ∧ back.head?.any Char.isAlphanum = true

/-- What a subdomain has to avoid for all of its segments to be labels. -/
structure WellDotted (name : Text) : Prop where
  no_dots : ¬"..".toList <:+: name
  no_dot_hyphen : ¬".-".toList <:+: name
  no_hyphen_dot : ¬"-.".toList <:+: name
  short_segments : ∀ segment ∈ Text.pieces '.' name, Text.byteLength segment ≤ 63

variable {name segment : Text} {c : Char} {labels : List Text}

theorem DotsInside.not_infix_after (h : DotsInside name) (hc : c.isAlphanum = false) :
    ¬['.', c] <:+: name := by
  rintro ⟨front, back, hname⟩
  have hbeside := (h front (c :: back) (by simp [← hname])).2
  exact absurd hbeside (by simp [hc])

theorem DotsInside.not_infix_before (h : DotsInside name) (hc : c.isAlphanum = false) :
    ¬[c, '.'] <:+: name := by
  rintro ⟨front, back, hname⟩
  have hbeside := (h (front ++ [c]) back (by simp [← hname])).1
  exact absurd hbeside (by simp [hc])

/-- What stands beside a dot is no letter or digit only where a pattern of a dot and a mark is. -/
theorem dotsInside_iff (h : Rule.subdomain.IsName name) :
    DotsInside name ↔
      ¬"..".toList <:+: name ∧ ¬".-".toList <:+: name ∧ ¬"-.".toList <:+: name := by
  constructor
  · intro hdots
    exact ⟨hdots.not_infix_after (by decide), hdots.not_infix_after (by decide),
      hdots.not_infix_before (by decide)⟩
  · rintro ⟨hdotDot, hdotHyphen, hhyphenDot⟩ front back rfl
    have hmark (c : Char) (hc : c ∈ front ++ '.' :: back) (hplain : c.isAlphanum = false) :
        c = '-' ∨ c = '.' :=
      isNameChar_and_not_isAlphanum_iff.mp ⟨h.allowed c hc, hplain⟩
    constructor
    · obtain rfl | ⟨before, c, rfl⟩ := List.eq_nil_or_concat' front
      · exact absurd h.first Bool.false_ne_true
      · rw [List.getLast?_concat, Option.any_some]
        by_contra hplain
        rcases hmark c (by simp) (Bool.eq_false_iff.mpr hplain) with rfl | rfl
        · exact hhyphenDot ⟨before, back, by simp⟩
        · exact hdotDot ⟨before, back, by simp⟩
    · cases back with
      | nil => exact absurd h.last (by simp)
      | cons c behind =>
        rw [List.head?_cons, Option.any_some]
        by_contra hplain
        rcases hmark c (by simp) (Bool.eq_false_iff.mpr hplain) with rfl | rfl
        · exact hdotHyphen ⟨front, behind, by simp⟩
        · exact hdotDot ⟨front, behind, by simp⟩

/-! ### Labels put together -/

theorem grammar_mono {marks marks' : Set Char} (h : marks ⊆ marks') (hname : name ∈ grammar marks) :
    name ∈ grammar marks' := by
  obtain ⟨hall, hends⟩ := mem_grammar_iff.mp hname
  exact mem_grammar_iff.mpr ⟨fun c hc ↦ Set.union_subset_union_right _ h (hall c hc), hends⟩

theorem intercalate_mem_grammar (hne : labels ≠ [])
    (hlabels : ∀ label ∈ labels, Rule.label.IsName label) :
    ['.'].intercalate labels ∈ grammar Rule.subdomain.marks := by
  have hword (label : Text) (hlabel : label ∈ labels) : label ∈ grammar Rule.subdomain.marks :=
    grammar_mono (by simp [Rule.marks]) (Rule.isName_iff_mem_grammar.mp (hlabels label hlabel)).2
  obtain ⟨first, rest, rfl⟩ := List.exists_cons_of_ne_nil hne
  obtain ⟨hfirst, hrest⟩ := List.forall_mem_cons.mp hword
  rw [intercalate_cons_eq_joined]
  refine joined_mem_grammar hfirst (List.forall_mem_map.mpr fun label hlabel ↦ ?_)
  exact ⟨by simp [Rule.marks], hrest label hlabel⟩

theorem dotsInside_of_pieces
    (h : ∀ segment ∈ Text.pieces '.' name, Rule.label.IsName segment) : DotsInside name := by
  rintro front back rfl
  rw [Text.pieces_eq_splitOn, List.splitOn_append_cons_self, ← Text.pieces_eq_splitOn,
    ← Text.pieces_eq_splitOn] at h
  obtain ⟨hfront, hback⟩ := List.forall_mem_append.mp h
  -- either side of the dot is put together from segments of its own, and has ends of labels
  have hfrontWord := intercalate_mem_grammar (Text.pieces_ne_nil '.' front) hfront
  have hbackWord := intercalate_mem_grammar (Text.pieces_ne_nil '.' back) hback
  rw [Text.intercalate_pieces] at hfrontWord hbackWord
  exact ⟨(mem_grammar_iff.mp hfrontWord).2.2, (mem_grammar_iff.mp hbackWord).2.1⟩

theorem isName_of_mem_pieces (h : Rule.subdomain.IsName name) (hdots : DotsInside name)
    (hsegment : segment ∈ Text.pieces '.' name) (hfits : Text.byteLength segment ≤ 63) :
    Rule.label.IsName segment := by
  have hdotless := Text.separator_notMem_of_mem_pieces hsegment
  obtain ⟨front, back, rfl, hfront, hback⟩ := Text.exists_around_of_mem_pieces hsegment
  have hstart : (segment ++ back).head?.any Char.isAlphanum = true := by
    rcases hfront with rfl | ⟨left, rfl⟩
    · simpa using h.first
    · exact (hdots left (segment ++ back) (by simp)).2
  have hend : (front ++ segment).getLast?.any Char.isAlphanum = true := by
    rcases hback with rfl | ⟨right, rfl⟩
    · simpa using h.last
    · exact (hdots (front ++ segment) right (by simp)).1
  -- an empty segment would leave a dot, or nothing, where a letter or digit has to be
  have hne : segment ≠ [] := by
    rintro rfl
    rcases hback with rfl | ⟨right, rfl⟩
    · exact absurd hstart Bool.false_ne_true
    · exact absurd hstart Bool.false_ne_true
  rw [List.head?_append_of_ne_nil segment hne] at hstart
  rw [List.getLast?_append_of_ne_nil front hne] at hend
  exact Rule.isName_label_iff.mpr
    ⟨h.of_isInfix (List.infix_append front segment back) hstart hend, hfits, hdotless⟩

/-- The segments of a subdomain are labels exactly where it avoids the four patterns. -/
theorem forall_pieces_isName_iff (h : Rule.subdomain.IsName name) :
    (∀ segment ∈ Text.pieces '.' name, Rule.label.IsName segment) ↔ WellDotted name := by
  constructor
  · intro hsegments
    obtain ⟨hdotDot, hdotHyphen, hhyphenDot⟩ :=
      (dotsInside_iff h).mp (dotsInside_of_pieces hsegments)
    exact ⟨hdotDot, hdotHyphen, hhyphenDot,
      fun segment hsegment ↦ (hsegments segment hsegment).fits⟩
  · intro hwell segment hsegment
    have hdots := (dotsInside_iff h).mpr ⟨hwell.no_dots, hwell.no_dot_hyphen, hwell.no_hyphen_dot⟩
    exact isName_of_mem_pieces h hdots hsegment (hwell.short_segments segment hsegment)

/-- A name is put together from labels by dots exactly where its own segments are labels: no label
has a dot, so the segments are the labels again. -/
theorem exists_labels_iff :
    (∃ labels : List Text, labels ≠ [] ∧ (∀ label ∈ labels, Rule.label.IsName label) ∧
        name = ['.'].intercalate labels) ↔
      ∀ segment ∈ Text.pieces '.' name, Rule.label.IsName segment := by
  constructor
  · rintro ⟨labels, hne, hlabels, rfl⟩
    have hdotless (label : Text) (hlabel : label ∈ labels) : '.' ∉ label :=
      (Rule.isName_label_iff.mp (hlabels label hlabel)).2.2
    rwa [Text.pieces_eq_splitOn, List.splitOn_intercalate '.' hdotless hne]
  · intro hsegments
    exact ⟨_, Text.pieces_ne_nil '.' name, hsegments, (Text.intercalate_pieces '.' name).symm⟩

/-- Subdomains and dotted labels. Labels with dots between them are a subdomain as soon as there is
room for it, so at 253 bytes or fewer. A subdomain falls into segments that are labels, and can be
put together from labels at all, exactly where it has no two dots in a row, no hyphen beside a dot
and no segment of more than 63 bytes. -/
theorem accepts_dotted_labels :
    (∀ labels : List Text, labels ≠ [] → (∀ label ∈ labels, Rule.label.accepts label = true) →
      (Rule.subdomain.accepts (['.'].intercalate labels) = true ↔
        Text.byteLength (['.'].intercalate labels) ≤ 253)) ∧
    ∀ name, Rule.subdomain.accepts name = true →
      ((∀ segment ∈ Text.pieces '.' name, Rule.label.accepts segment = true) ↔ WellDotted name) ∧
      ((∃ labels : List Text, labels ≠ [] ∧ (∀ label ∈ labels, Rule.label.accepts label = true) ∧
          name = ['.'].intercalate labels) ↔ WellDotted name) := by
  simp only [Rule.accepts_iff_isName]
  refine ⟨fun labels hne hlabels ↦ ?_, fun name hname ↦ ?_⟩
  · rw [Rule.isName_iff_mem_grammar]
    exact and_iff_left (intercalate_mem_grammar hne hlabels)
  · have hsegments := forall_pieces_isName_iff hname
    exact ⟨hsegments, exists_labels_iff.trans hsegments⟩

/-- Each of the four names below is a subdomain by the rule, and avoids all of the patterns but one;
none of them can be put together from labels. -/
theorem accepts_dotted_labels_of_each_pattern :
    Rule.subdomain.accepts (['.'].intercalate ["web-1".toList, "example".toList, "io".toList]) =
        true ∧
      WellDotted "web-1.example.io".toList ∧
      ∀ name ∈ ["a..b".toList, "a.-b".toList, "a-.b".toList, List.replicate 64 'a' ++ ".b".toList],
        Rule.subdomain.accepts name = true ∧
          ¬∃ labels : List Text, labels ≠ [] ∧
            (∀ label ∈ labels, Rule.label.accepts label = true) ∧
              name = ['.'].intercalate labels := by
  obtain ⟨hjoined, hsplit⟩ := accepts_dotted_labels
  refine ⟨(hjoined _ (by simp) ?_).mpr (by decide +kernel), ?_, ?_⟩
  · exact List.all_eq_true.mp (by decide +kernel)
  · exact (hsplit _ (by decide +kernel)).1.mp (List.all_eq_true.mp (by decide +kernel))
  · simp only [List.forall_mem_cons]
    refine ⟨⟨by decide +kernel, fun h ↦ ?_⟩, ⟨by decide +kernel, fun h ↦ ?_⟩,
      ⟨by decide +kernel, fun h ↦ ?_⟩, ⟨by decide +kernel, fun h ↦ ?_⟩, by simp⟩
    · exact ((hsplit _ (by decide +kernel)).2.mp h).no_dots (by decide +kernel)
    · exact ((hsplit _ (by decide +kernel)).2.mp h).no_dot_hyphen (by decide +kernel)
    · exact ((hsplit _ (by decide +kernel)).2.mp h).no_hyphen_dot (by decide +kernel)
    · have hshort := ((hsplit _ (by decide +kernel)).2.mp h).short_segments (List.replicate 64 'a')
      exact absurd (hshort (by decide +kernel)) (by decide +kernel)

end Dns

end WorkloadNames
