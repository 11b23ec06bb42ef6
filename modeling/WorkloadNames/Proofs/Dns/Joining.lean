import WorkloadNames.Proofs.Dns.FirstBreach

/-!
Names put together and names cut out. Any number of names can stand one behind the other, with any
separators over the alphabet between them or with none: the ends of the whole are ends of names, so
nothing but its length can be wrong with it. In the other direction, whatever is cut out of a name
is a name again where the cuts fall beside letters or digits.

Both are laws of the grammar (`joined_mem_grammar`, `mem_grammar_of_isInfix`), and a check turns
them into laws about names (`accepts_joined_and_isInfix`): of a word of the grammar it looks at
nothing but the length.
-/

set_option autoImplicit false
set_option relaxedAutoImplicit false

namespace WorkloadNames.Dns

/-! ### Putting together -/

/-- A name behind the separator that stands between it and the name before it. -/
structure Link where
  separator : Text
  name : Text
  deriving DecidableEq, Repr

/-- A name with further names behind it, each behind a separator of its own. -/
def joined (first : Text) : List Link → Text
  | [] => first
  | link :: links => first ++ link.separator ++ joined link.name links

variable {marks : Set Char} {first front between back name part : Text} {links : List Link}

theorem ne_nil_of_mem_grammar (h : name ∈ grammar marks) : name ≠ [] := by
  rintro rfl
  exact absurd (mem_grammar_iff.mp h).2.1 (by simp)

/-- The whole begins as its first part does and ends as its last. -/
theorem append_mem_grammar (hfront : front ∈ grammar marks)
    (hbetween : ∀ c ∈ between, c ∈ lettersAndDigits ∪ marks) (hback : back ∈ grammar marks) :
    front ++ between ++ back ∈ grammar marks := by
  have hfrontne := ne_nil_of_mem_grammar hfront
  have hbackne := ne_nil_of_mem_grammar hback
  rw [mem_grammar_iff] at hfront hback ⊢
  obtain ⟨hfrontall, hstart, -⟩ := hfront
  obtain ⟨hbackall, -, hend⟩ := hback
  refine ⟨?_, ?_, ?_⟩
  · exact List.forall_mem_append.mpr
      ⟨List.forall_mem_append.mpr ⟨hfrontall, hbetween⟩, hbackall⟩
  · rwa [List.append_assoc, List.head?_append_of_ne_nil front hfrontne]
  · rwa [List.getLast?_append_of_ne_nil _ hbackne]

theorem joined_mem_grammar (hfirst : first ∈ grammar marks)
    (hlinks : ∀ link ∈ links,
      (∀ c ∈ link.separator, c ∈ lettersAndDigits ∪ marks) ∧ link.name ∈ grammar marks) :
    joined first links ∈ grammar marks := by
  -- the names behind the first are put together first, so the first name varies
  induction links generalizing first with
  | nil => exact hfirst
  | cons link links ih =>
    obtain ⟨⟨hseparator, hname⟩, hrest⟩ := List.forall_mem_cons.mp hlinks
    exact append_mem_grammar hfirst hseparator (ih hname hrest)

/-- One separator throughout is the case of `List.intercalate`. -/
theorem intercalate_cons_eq_joined (separator first : Text) (names : List Text) :
    separator.intercalate (first :: names) =
      joined first (names.map fun name ↦ ⟨separator, name⟩) := by
  induction names generalizing first with
  | nil => exact List.intercalate_singleton
  | cons name names ih => rw [List.intercalate_cons_cons, ih name, List.map_cons, joined]

/-! ### Cutting out -/

theorem mem_grammar_of_isInfix (h : name ∈ grammar marks) (hpart : part <:+: name)
    (hstart : part.head?.any Char.isAlphanum = true)
    (hend : part.getLast?.any Char.isAlphanum = true) : part ∈ grammar marks := by
  have hall := (mem_grammar_iff.mp h).1
  exact mem_grammar_iff.mpr ⟨fun c hc ↦ hall c (hpart.subset hc), hstart, hend⟩

theorem byteLength_le_of_isInfix (hpart : part <:+: name) :
    Text.byteLength part ≤ Text.byteLength name := by
  obtain ⟨front, back, rfl⟩ := hpart
  rw [Text.byteLength_append, Text.byteLength_append]
  omega

/-! ### Names -/

namespace Rule

variable {rule : Rule}

/-- Of a word of the grammar nothing but the length is left to check. -/
theorem accepts_or_tooLong_of_mem_grammar (h : name ∈ grammar rule.marks) :
    (Text.byteLength name ≤ rule.limit → rule.accepts name = true) ∧
      (rule.limit < Text.byteLength name →
        rule.violation? name = some (.tooLong (Text.byteLength name) rule.limit)) := by
  constructor
  · intro hfits
    exact accepts_iff_isName.mpr (isName_iff_mem_grammar.mpr ⟨hfits, h⟩)
  · intro hlong
    exact violation?_eq_tooLong_iff.mpr ⟨hlong, rfl, rfl⟩

theorem mem_grammar_of_accepts (h : rule.accepts name = true) : name ∈ grammar rule.marks :=
  (isName_iff_mem_grammar.mp (accepts_iff_isName.mp h)).2

theorem accepts_or_tooLong_joined (hfirst : rule.accepts first = true)
    (hlinks : ∀ link ∈ links, (∀ c ∈ link.separator, c ∈ lettersAndDigits ∪ rule.marks) ∧
      rule.accepts link.name = true) :
    (Text.byteLength (joined first links) ≤ rule.limit →
        rule.accepts (joined first links) = true) ∧
      (rule.limit < Text.byteLength (joined first links) →
        rule.violation? (joined first links) =
          some (.tooLong (Text.byteLength (joined first links)) rule.limit)) := by
  refine accepts_or_tooLong_of_mem_grammar
    (joined_mem_grammar (mem_grammar_of_accepts hfirst) fun link hlink ↦ ?_)
  exact ⟨(hlinks link hlink).1, mem_grammar_of_accepts (hlinks link hlink).2⟩

theorem IsName.of_isInfix (h : rule.IsName name) (hpart : part <:+: name)
    (hstart : part.head?.any Char.isAlphanum = true)
    (hend : part.getLast?.any Char.isAlphanum = true) : rule.IsName part := by
  obtain ⟨hfits, hword⟩ := isName_iff_mem_grammar.mp h
  exact isName_iff_mem_grammar.mpr
    ⟨(byteLength_le_of_isInfix hpart).trans hfits, mem_grammar_of_isInfix hword hpart hstart hend⟩

/-- Names are closed under putting together and under cutting out. Accepted subdomains with any
texts of letters, digits, dots and hyphens between them, a different one at each place or none, make
a subdomain that is accepted where its bytes stay within the limit, and told to be too long where
they do not; so do labels with letters, digits and hyphens. Of an accepted name every stretch that
has a letter or digit at both ends is accepted by the same rule. -/
theorem accepts_joined_and_isInfix :
    (∀ first links, Rule.subdomain.accepts first = true →
      (∀ link ∈ links, (∀ c ∈ link.separator, c ∈ lettersAndDigits ∪ {'.', '-'}) ∧
        Rule.subdomain.accepts link.name = true) →
      (Text.byteLength (joined first links) ≤ 253 →
          Rule.subdomain.accepts (joined first links) = true) ∧
        (253 < Text.byteLength (joined first links) →
          Rule.subdomain.violation? (joined first links) =
            some (.tooLong (Text.byteLength (joined first links)) 253))) ∧
    (∀ first links, Rule.label.accepts first = true →
      (∀ link ∈ links, (∀ c ∈ link.separator, c ∈ lettersAndDigits ∪ {'-'}) ∧
        Rule.label.accepts link.name = true) →
      (Text.byteLength (joined first links) ≤ 63 →
          Rule.label.accepts (joined first links) = true) ∧
        (63 < Text.byteLength (joined first links) →
          Rule.label.violation? (joined first links) =
            some (.tooLong (Text.byteLength (joined first links)) 63))) ∧
    ∀ (rule : Rule) (name part : Text), rule.accepts name = true → part <:+: name →
      part.head?.any Char.isAlphanum = true → part.getLast?.any Char.isAlphanum = true →
      rule.accepts part = true := by
  refine ⟨fun _ _ ↦ accepts_or_tooLong_joined, fun _ _ ↦ accepts_or_tooLong_joined, ?_⟩
  intro rule name part haccepted hpart hstart hend
  exact accepts_iff_isName.mpr ((accepts_iff_isName.mp haccepted).of_isInfix hpart hstart hend)

/-- Single characters are put together with nothing, with a dot and a hyphen, and with a letter
between them, and a stretch is cut out of the middle. Two labels of 32 bytes do not fit even with
nothing between them. -/
theorem accepts_joined_and_isInfix_of_short_names :
    Rule.subdomain.accepts (joined ['a'] [⟨[], ['7']⟩, ⟨".-".toList, ['b']⟩, ⟨['x'], "c.d".toList⟩])
        = true ∧
      Rule.label.violation? (joined (List.replicate 32 'a') [⟨[], List.replicate 32 'b'⟩]) =
        some (.tooLong 64 63) ∧
      "7.-b".toList <:+: "a7.-bxc.d".toList ∧ Rule.subdomain.accepts "7.-b".toList = true := by
  obtain ⟨hsubdomains, hlabels, hcut⟩ := accepts_joined_and_isInfix
  have hlinks : ∀ link ∈ [⟨[], ['7']⟩, ⟨".-".toList, ['b']⟩, ⟨['x'], "c.d".toList⟩],
      (∀ c ∈ link.separator, c ∈ lettersAndDigits ∪ {'.', '-'}) ∧
        Rule.subdomain.accepts (Link.name link) = true := by
    intro link hlink
    have hall : ([⟨[], ['7']⟩, ⟨".-".toList, ['b']⟩, ⟨['x'], "c.d".toList⟩].all fun link : Link ↦
        link.separator.all isNameChar && Rule.subdomain.accepts link.name) = true := by
      decide +kernel
    obtain ⟨hseparator, hname⟩ := Bool.and_eq_true_iff.mp (List.all_eq_true.mp hall link hlink)
    exact ⟨fun c hc ↦ isNameChar_iff_mem.mp (List.all_eq_true.mp hseparator c hc), hname⟩
  have hjoined := (hsubdomains ['a'] _ (by decide +kernel) hlinks).1 (by decide +kernel)
  have hinfix : "7.-b".toList <:+: "a7.-bxc.d".toList := ⟨['a'], "xc.d".toList, by decide +kernel⟩
  refine ⟨hjoined, ?_, hinfix, ?_⟩
  · refine (hlabels _ _ (by decide +kernel) ?_).2 (by decide +kernel)
    exact List.forall_mem_singleton.mpr ⟨List.forall_mem_nil _, by decide +kernel⟩
  · exact hcut .subdomain _ _ hjoined hinfix (by decide +kernel) (by decide +kernel)

end Rule

end WorkloadNames.Dns
