import WorkloadNames.Proofs.Json.Reader

/-!
Reading undoes writing. Whatever value is written, in either layout and at any depth, the reader
gives it back and leaves what follows it. The strings carry the argument: every character is
escaped in one of three ways, and reading takes the escape off again. Around them the layout puts
nothing but blanks, which the reader passes over, and a number ends at the first character that is
no digit.
-/

set_option autoImplicit false
set_option relaxedAutoImplicit false

namespace WorkloadNames.Json

variable {layout : Layout} {depth most : Nat} {ahead rest blanks : Text} {c : Char}

/-! ### Blanks -/

theorem skipBlanks_append (h : ∀ c ∈ blanks, isBlank c = true) (ahead : Text) :
    skipBlanks (blanks ++ ahead) = skipBlanks ahead :=
  List.dropWhile_append_of_pos h

theorem skipBlanks_cons (h : isBlank c = false) (rest : Text) :
    skipBlanks (c :: rest) = c :: rest :=
  List.dropWhile_cons_of_neg (Bool.not_eq_true _ ▸ h)

/-- A layout puts nothing but blanks in front of an item. -/
theorem isBlank_of_mem_lineBreak (layout : Layout) (depth : Nat) :
    ∀ c ∈ layout.lineBreak depth, isBlank c = true := by
  intro c hc
  cases layout with
  | compact => exact absurd hc List.not_mem_nil
  | indented =>
    rcases List.mem_cons.mp hc with rfl | hc
    · decide
    · obtain rfl := List.eq_of_mem_replicate hc
      decide

theorem isDigit_eq_false_of_isBlank (h : isBlank c = true) : c.isDigit = false := by
  simp only [isBlank, Bool.or_eq_true, beq_iff_eq] at h
  rcases h with ((rfl | rfl) | rfl) | rfl
  · decide
  · decide
  · decide
  · decide

theorem isBlank_eq_false_of_isDigit (h : c.isDigit = true) : isBlank c = false := by
  refine Bool.eq_false_iff.mpr fun hblank ↦ ?_
  rw [isDigit_eq_false_of_isBlank hblank] at h
  exact absurd h (by decide)

/-! ### Strings -/

theorem hexValue?_digitChar {value : Nat} (h : value < 16) :
    Text.hexValue? (Nat.digitChar value) = some value := by
  have hall : ∀ value < 16, Text.hexValue? (Nat.digitChar value) = some value := by decide
  exact hall value h

theorem guard_eq_some {condition : Prop} [Decidable condition] (h : condition) :
    (guard condition : Option Unit) = some () :=
  if_pos h

/-- Two zeros and two more digits are read as the number that those write. -/
theorem codeUnit?_digitChar {value : Nat} (h : value < 0x100) (rest : Text) :
    codeUnit? ('0' :: '0' :: Nat.digitChar (value / 16) :: Nat.digitChar (value % 16) :: rest) =
      some (value, rest) := by
  have hzero : Text.hexValue? '0' = some 0 := by decide
  have hupper := hexValue?_digitChar (show value / 16 < 16 by omega)
  have hlower := hexValue?_digitChar (show value % 16 < 16 by omega)
  have hvalues : ['0', '0', Nat.digitChar (value / 16), Nat.digitChar (value % 16)].mapM
      Text.hexValue? = some [0, 0, value / 16, value % 16] := by
    simp [hzero, hupper, hlower]
  have hlength : [0, 0, value / 16, value % 16].length = 4 := rfl
  have hvalue : [0, 0, value / 16, value % 16].foldl (fun code digit ↦ 16 * code + digit) 0 =
      value := by
    simpa using Nat.div_add_mod value 16
  rw [codeUnit?, List.take_succ_cons, List.take_succ_cons, List.take_succ_cons,
    List.take_succ_cons, List.take_zero, hvalues, Option.bind_eq_bind, Option.bind_some,
    guard_eq_some hlength, hvalue]
  rfl

/-- Four digits that write a control character are read as this character. -/
theorem codePoint?_digitChar (h : c.toNat < 0x20) (rest : Text) :
    codePoint? ('0' :: '0' :: Nat.digitChar (c.toNat / 16) ::
      Nat.digitChar (c.toNat % 16) :: rest) = some (c, rest) := by
  have hunit := codeUnit?_digitChar (show c.toNat < 0x100 by omega) rest
  have hvalid : c.toNat.isValidChar := c.valid
  have hsingle : ¬(0xd800 ≤ c.toNat ∧ c.toNat < 0xdc00) := by omega
  have hread : (guard c.toNat.isValidChar >>= fun _ ↦ some (Char.ofNat c.toNat, rest)) =
      some (c, rest) := by
    rw [guard_eq_some hvalid, Char.ofNat_toNat]
    rfl
  rw [codePoint?, hunit]
  exact (if_neg hsingle).trans hread

theorem escaped_ne_nil (c : Char) : escaped c ≠ [] := by
  fun_cases escaped c with
  | _ => exact List.cons_ne_nil _ _

/-- Reading takes the escape of a character off. -/
theorem content?_escaped (c : Char) (rest : Text) :
    content? (most + 1) (escaped c ++ rest) = do
      let (content, rest) ← content? most rest
      return (c :: content, rest) := by
  fun_cases escaped c with
  | case8 _ _ _ _ _ _ _ _ hcontrol =>
    have hescape : escape? ('u' :: '0' :: '0' :: Nat.digitChar (c.toNat / 16) ::
        Nat.digitChar (c.toNat % 16) :: rest) = some (c, rest) := codePoint?_digitChar hcontrol rest
    simp only [List.cons_append, List.nil_append, content?, hescape]
    rfl
  | case9 _ hquote hbackslash _ _ _ _ _ hplain =>
    rw [List.singleton_append, content?]
    · exact if_neg hplain
    · exact hquote
    · exact hbackslash
  | _ => rfl

/-- A string that is written is read, up to its closing quote. -/
theorem content?_flatMap_escaped (content rest : Text) (h : content.length < most) :
    content? most (content.flatMap escaped ++ '"' :: rest) = some (content, rest) := by
  induction content generalizing most with
  | nil =>
    obtain ⟨most, rfl⟩ := Nat.exists_eq_add_one.mpr h
    rfl
  | cons c content ih =>
    obtain ⟨most, rfl⟩ := Nat.exists_eq_add_one.mpr (Nat.zero_lt_of_lt h)
    rw [List.flatMap_cons, List.append_assoc, content?_escaped, ih (Nat.lt_of_succ_lt_succ h)]
    rfl

/-- Entries that all leave something written are no more than what is written. -/
theorem length_le_length_flatMap {α : Type} (shown : α → Text) (h : ∀ entry, shown entry ≠ [])
    (entries : List α) : entries.length ≤ (entries.flatMap shown).length := by
  induction entries with
  | nil => exact Nat.le_refl 0
  | cons entry entries ih =>
    have hpos := List.length_pos_iff.mpr (h entry)
    rw [List.flatMap_cons, List.length_append, List.length_cons]
    omega

theorem quoted_append (content rest : Text) :
    quoted content ++ rest = '"' :: (content.flatMap escaped ++ '"' :: rest) := by
  rw [quoted, List.append_assoc, List.cons_append, List.singleton_append]

theorem string?_quoted (content rest : Text) :
    string? (quoted content ++ rest) = some (content, rest) := by
  have hlength := length_le_length_flatMap escaped escaped_ne_nil content
  rw [quoted_append, string?, skipBlanks_cons (by decide)]
  refine content?_flatMap_escaped content rest ?_
  rw [List.length_append]
  omega

theorem string?_append (h : ∀ c ∈ blanks, isBlank c = true) (ahead : Text) :
    string? (blanks ++ ahead) = string? ahead := by
  rw [string?, string?, skipBlanks_append h]

/-! ### Numbers -/

/-- The text does not go on with a digit. -/
def NoDigit (rest : Text) : Prop := ∀ c ∈ rest.head?, c.isDigit = false

theorem noDigit_cons (h : c.isDigit = false) (rest : Text) : NoDigit (c :: rest) := by
  rintro _ ⟨rfl⟩
  exact h

/-- No number but zero is written with a zero in front. -/
theorem eq_zero_of_decimal_eq_cons {value : Nat} {rest : Text}
    (h : Text.decimal value = '0' :: rest) : value = 0 := by
  induction value using Nat.strongRecOn generalizing rest with
  | ind value ih =>
    by_cases hsmall : value < 10
    · rw [Text.decimal, Nat.toDigits_of_lt_base hsmall] at h
      exact Nat.digitChar_eq_zero.mp (List.cons.inj h).1
    · have hlarge : 10 ≤ value := Nat.le_of_not_lt hsmall
      rw [Text.decimal, Nat.toDigits_of_base_le (by decide) hlarge] at h
      obtain ⟨c, front, hfront⟩ := List.exists_cons_of_ne_nil
        (Nat.toDigits_ne_nil : Nat.toDigits 10 (value / 10) ≠ [])
      rw [hfront, List.cons_append] at h
      obtain ⟨rfl, -⟩ := List.cons.inj h
      have hzero := ih (value / 10) (by omega) hfront
      omega

theorem number?_decimal (value : Nat) (h : NoDigit rest) :
    number? (Text.decimal value ++ rest) = some (value, rest) := by
  have hdigits : ∀ c ∈ Text.decimal value, c.isDigit = true :=
    fun c hc ↦ Nat.isDigit_of_mem_toDigits (by decide) (by decide) hc
  have hstop : rest.takeWhile Char.isDigit = [] := by
    cases rest with
    | nil => rfl
    | cons c rest => exact List.takeWhile_cons_of_neg (by simp [h c rfl])
  have htake : (Text.decimal value ++ rest).takeWhile Char.isDigit = Text.decimal value := by
    rw [List.takeWhile_append_of_pos hdigits, hstop, List.append_nil]
  have hdrop : (Text.decimal value ++ rest).drop (Text.decimal value).length = rest :=
    List.drop_left
  have hread : Nat.ofDigitChars 10 (Text.decimal value) 0 = value :=
    Nat.ofDigitChars_ten_toDigits
  rw [number?, htake]
  split
  · rename_i hnil
    exact absurd hnil Nat.toDigits_ne_nil
  · rename_i second more hzeros
    obtain rfl := eq_zero_of_decimal_eq_cons hzeros
    have hzero : Text.decimal 0 = ['0'] := rfl
    rw [hzero] at hzeros
    exact absurd (List.cons.inj hzeros).2 (by simp)
  · rw [hread, hdrop]

/-! ### Entries of a bracket -/

section Entries

variable {α : Type} {closing : Char} {part? : Text → Option (α × Text)} {shown : α → Text}
  {first : α} {entries : List α}

/-- What follows an entry is a comma, a blank or the closing sign, and none of them is a digit. -/
theorem noDigit_further (hclosing : closing = ']' ∨ closing = '}')
    (hblanks : ∀ c ∈ blanks, isBlank c = true) (shown : α → Text) (entries : List α)
    (rest : Text) :
    NoDigit (entries.flatMap (fun entry ↦ ',' :: shown entry) ++ (blanks ++ closing :: rest)) := by
  cases entries with
  | cons entry more => exact noDigit_cons (by decide) _
  | nil =>
    cases blanks with
    | cons blank blanks =>
      exact noDigit_cons (isDigit_eq_false_of_isBlank (hblanks blank List.mem_cons_self)) _
    | nil =>
      rcases hclosing with rfl | rfl
      · exact noDigit_cons (by decide) _
      · exact noDigit_cons (by decide) _

theorem further?_flatMap (hclosing : closing = ']' ∨ closing = '}')
    (hblanks : ∀ c ∈ blanks, isBlank c = true)
    (hentry : ∀ entry ∈ entries, ∀ rest, NoDigit rest →
      part? (shown entry ++ rest) = some (entry, rest))
    (hmost : entries.length < most) (rest : Text) :
    further? closing part? most
      (entries.flatMap (fun entry ↦ ',' :: shown entry) ++ (blanks ++ closing :: rest)) =
        some (entries, rest) := by
  induction entries generalizing most with
  | nil =>
    obtain ⟨most, rfl⟩ := Nat.exists_eq_add_one.mpr hmost
    have hskip : skipBlanks (blanks ++ closing :: rest) = closing :: rest := by
      rw [skipBlanks_append hblanks]
      rcases hclosing with rfl | rfl
      · rfl
      · rfl
    rw [List.flatMap_nil, List.nil_append, further?, hskip]
    simp
  | cons entry entries ih =>
    obtain ⟨most, rfl⟩ := Nat.exists_eq_add_one.mpr (Nat.zero_lt_of_lt hmost)
    have hcomma : ',' ≠ closing := by
      rcases hclosing with rfl | rfl
      · decide
      · decide
    have hfirst := hentry entry List.mem_cons_self _
      (noDigit_further hclosing hblanks shown entries rest)
    have hmore := ih (fun other hother ↦ hentry other (List.mem_cons_of_mem entry hother))
      (Nat.lt_of_succ_lt_succ hmost)
    rw [List.flatMap_cons, List.cons_append, List.cons_append, List.append_assoc, further?,
      skipBlanks_cons (by decide)]
    simp [hcomma, hfirst, hmore]

/-- A bracket with entries is read up to its closing sign, unless its first entry is taken for
it. -/
theorem entries?_flatMap (hclosing : closing = ']' ∨ closing = '}')
    (hblanks : ∀ c ∈ blanks, isBlank c = true)
    (hentry : ∀ entry ∈ first :: entries, ∀ rest, NoDigit rest →
      part? (shown entry ++ rest) = some (entry, rest))
    (hstart : ∀ rest, ∃ c more, skipBlanks (shown first ++ rest) = c :: more ∧ c ≠ closing)
    (rest : Text) :
    entries? closing part? (shown first ++
      (entries.flatMap (fun entry ↦ ',' :: shown entry) ++ (blanks ++ closing :: rest))) =
        some (first :: entries, rest) := by
  have hfirst := hentry first List.mem_cons_self _
    (noDigit_further hclosing hblanks shown entries rest)
  have hlength : entries.length <
      (entries.flatMap (fun entry ↦ ',' :: shown entry) ++
        (blanks ++ closing :: rest)).length + 1 := by
    have hentries := length_le_length_flatMap (fun entry ↦ ',' :: shown entry)
      (fun entry ↦ List.cons_ne_nil ',' (shown entry)) entries
    rw [List.length_append]
    omega
  have hmore := further?_flatMap hclosing hblanks
    (fun other hother ↦ hentry other (List.mem_cons_of_mem first hother)) hlength rest
  obtain ⟨c, more, hskip, hother⟩ := hstart
    (entries.flatMap (fun entry ↦ ',' :: shown entry) ++ (blanks ++ closing :: rest))
  rw [entries?, hskip]
  simp only [if_neg hother, hfirst, Option.bind_eq_bind, Option.bind_some, hmore]
  rfl

end Entries

/-! ### Values -/

theorem writtenItems_eq_flatMap (items : List Json) :
    writtenItems layout depth items =
      items.flatMap fun item ↦ ',' :: (layout.lineBreak depth ++ written layout depth item) := by
  induction items with
  | nil => rw [writtenItems, List.flatMap_nil]
  | cons item items ih =>
    rw [writtenItems, ih, List.flatMap_cons]
    simp only [List.append_assoc, List.cons_append, List.nil_append]

theorem writtenMembers_eq_flatMap (members : List (Text × Json)) :
    writtenMembers layout depth members =
      members.flatMap fun member ↦
        ',' :: (layout.lineBreak depth ++ writtenMember layout depth member) := by
  induction members with
  | nil => rw [writtenMembers, List.flatMap_nil]
  | cons member members ih =>
    rw [writtenMembers, ih, List.flatMap_cons]
    simp only [List.append_assoc, List.cons_append, List.nil_append]

/-- A character that is neither a blank nor the sign that closes an array. -/
def isOpening (c : Char) : Bool := !isBlank c && c != ']'

theorem isOpening_of_isDigit (h : c.isDigit = true) : isOpening c = true := by
  have hother : c ≠ ']' := by
    rintro rfl
    exact absurd h (by decide)
  simp [isOpening, isBlank_eq_false_of_isDigit h, hother]

theorem decimal_eq_cons (value : Nat) :
    ∃ c rest, Text.decimal value = c :: rest ∧ c.isDigit = true := by
  obtain ⟨c, rest, hdigits⟩ := List.exists_cons_of_ne_nil
    (Nat.toDigits_ne_nil : Nat.toDigits 10 value ≠ [])
  have hc : c ∈ Nat.toDigits 10 value := by
    rw [hdigits]
    exact List.mem_cons_self
  exact ⟨c, rest, hdigits, Nat.isDigit_of_mem_toDigits (by decide) (by decide) hc⟩

/-- What is written of a value begins with neither a blank nor the sign that closes an array. -/
theorem written_eq_cons (layout : Layout) (depth : Nat) (value : Json) :
    ∃ c rest, written layout depth value = c :: rest ∧ isOpening c = true := by
  cases value with
  | text content =>
    rw [written]
    exact ⟨'"', _, rfl, by decide⟩
  | number value =>
    obtain ⟨c, rest, hdigits, hc⟩ := decimal_eq_cons value
    rw [written]
    exact ⟨c, rest, hdigits, isOpening_of_isDigit hc⟩
  | truth value =>
    rw [written]
    cases value with
    | false => exact ⟨'f', _, rfl, by decide⟩
    | true => exact ⟨'t', _, rfl, by decide⟩
  | array items =>
    cases items with
    | nil =>
      rw [written]
      exact ⟨'[', _, rfl, by decide⟩
    | cons item items =>
      rw [written]
      exact ⟨'[', _, rfl, by decide⟩
  | object members =>
    cases members with
    | nil =>
      rw [written]
      exact ⟨'{', _, rfl, by decide⟩
    | cons member members =>
      rw [written]
      exact ⟨'{', _, rfl, by decide⟩

theorem value?_append (h : ∀ c ∈ blanks, isBlank c = true) (ahead : Text) :
    value? most (blanks ++ ahead) = value? most ahead := by
  cases most with
  | zero => rfl
  | succ most => simp only [value?, skipBlanks_append h, string?_append h]

/-- Nothing but a number begins with a digit. -/
theorem value?_of_isDigit (h : c.isDigit = true) (rest : Text) :
    value? (most + 1) (c :: rest) = do
      let (value, rest) ← number? (c :: rest)
      return (.number value, rest) := by
  rw [value?, skipBlanks_cons (isBlank_eq_false_of_isDigit h)]
  split
  case h_6 => rfl
  all_goals
    rename_i heq
    obtain rfl := (List.cons.inj heq).1
    exact absurd h (by decide)

/-- A member is read where its value is. -/
theorem member?_writtenMember {member : Text × Json}
    (hvalue : value? most (written layout depth member.2 ++ rest) = some (member.2, rest)) :
    member? (value? most) (layout.lineBreak depth ++ writtenMember layout depth member ++ rest) =
      some (member, rest) := by
  obtain ⟨name, value⟩ := member
  obtain ⟨gap, hcolon, hgap⟩ : ∃ gap, layout.colon = ':' :: gap ∧ ∀ c ∈ gap, isBlank c = true := by
    cases layout with
    | compact => exact ⟨[], rfl, List.forall_mem_nil _⟩
    | indented => exact ⟨[' '], rfl, List.forall_mem_singleton.mpr (by decide)⟩
  have hstring := string?_quoted name (layout.colon ++ (written layout depth value ++ rest))
  rw [member?, writtenMember, List.append_assoc,
    string?_append (isBlank_of_mem_lineBreak layout depth), List.append_assoc, List.append_assoc,
    hstring]
  simp only [Option.bind_eq_bind, Option.bind_some, hcolon, List.cons_append]
  rw [skipBlanks_cons (by decide)]
  simp only [value?_append hgap, hvalue]
  rfl

/-- An entry takes no more than all that is written in the bracket. -/
theorem length_le_of_mem_entries {α : Type} (shown : α → Text) {first entry : α}
    {entries : List α} (h : entry ∈ first :: entries) :
    (shown entry).length ≤
      (shown first ++ entries.flatMap fun entry ↦ ',' :: shown entry).length := by
  rw [List.length_append]
  rcases List.mem_cons.mp h with rfl | h
  · omega
  · have hsublist := List.sublist_flatten_of_mem
      (List.mem_map_of_mem (f := fun entry ↦ ',' :: shown entry) h)
    have hlength := hsublist.length_le
    rw [← List.flatMap_def, List.length_cons] at hlength
    omega

theorem written_array_append (layout : Layout) (depth : Nat) (item : Json) (items : List Json)
    (rest : Text) :
    written layout depth (.array (item :: items)) ++ rest =
      '[' :: (layout.lineBreak (depth + 1) ++ written layout (depth + 1) item ++
        (items.flatMap (fun item ↦
          ',' :: (layout.lineBreak (depth + 1) ++ written layout (depth + 1) item)) ++
            (layout.lineBreak depth ++ ']' :: rest))) := by
  rw [written, writtenItems_eq_flatMap]
  simp only [List.append_assoc, List.cons_append, List.nil_append]

theorem written_object_append (layout : Layout) (depth : Nat) (member : Text × Json)
    (members : List (Text × Json)) (rest : Text) :
    written layout depth (.object (member :: members)) ++ rest =
      '{' :: (layout.lineBreak (depth + 1) ++ writtenMember layout (depth + 1) member ++
        (members.flatMap (fun member ↦
          ',' :: (layout.lineBreak (depth + 1) ++ writtenMember layout (depth + 1) member)) ++
            (layout.lineBreak depth ++ '}' :: rest))) := by
  rw [written, writtenMembers_eq_flatMap]
  simp only [List.append_assoc, List.cons_append, List.nil_append]

/-- An array is read if its items are. -/
theorem value?_written_array {item : Json} {items : List Json}
    (hitems : ∀ entry ∈ item :: items, ∀ rest, NoDigit rest →
      value? most (written layout (depth + 1) entry ++ rest) = some (entry, rest)) (rest : Text) :
    value? (most + 1) (written layout depth (.array (item :: items)) ++ rest) =
      some (.array (item :: items), rest) := by
  have hblanks := isBlank_of_mem_lineBreak layout (depth + 1)
  have hentry : ∀ entry ∈ item :: items, ∀ rest, NoDigit rest →
      value? most (layout.lineBreak (depth + 1) ++ written layout (depth + 1) entry ++ rest) =
        some (entry, rest) := by
    intro entry hmem rest hrest
    rw [List.append_assoc, value?_append hblanks]
    exact hitems entry hmem rest hrest
  have hstart : ∀ rest, ∃ c more, skipBlanks (layout.lineBreak (depth + 1) ++
      written layout (depth + 1) item ++ rest) = c :: more ∧ c ≠ ']' := by
    intro rest
    obtain ⟨c, more, hitem, hopening⟩ := written_eq_cons layout (depth + 1) item
    simp only [isOpening, Bool.and_eq_true, Bool.not_eq_true', bne_iff_ne] at hopening
    refine ⟨c, more ++ rest, ?_, hopening.2⟩
    rw [List.append_assoc, skipBlanks_append hblanks, hitem, List.cons_append,
      skipBlanks_cons hopening.1]
  rw [written_array_append, value?, skipBlanks_cons (by decide)]
  simp only [entries?_flatMap (Or.inl rfl) (isBlank_of_mem_lineBreak layout depth) hentry hstart]
  rfl

/-- An object is read if the values of its members are. -/
theorem value?_written_object {member : Text × Json} {members : List (Text × Json)}
    (hvalues : ∀ entry ∈ member :: members, ∀ rest, NoDigit rest →
      value? most (written layout (depth + 1) entry.2 ++ rest) = some (entry.2, rest))
    (rest : Text) :
    value? (most + 1) (written layout depth (.object (member :: members)) ++ rest) =
      some (.object (member :: members), rest) := by
  have hblanks := isBlank_of_mem_lineBreak layout (depth + 1)
  have hentry : ∀ entry ∈ member :: members, ∀ rest, NoDigit rest →
      member? (value? most)
        (layout.lineBreak (depth + 1) ++ writtenMember layout (depth + 1) entry ++ rest) =
        some (entry, rest) :=
    fun entry hmem rest hrest ↦ member?_writtenMember (hvalues entry hmem rest hrest)
  have hstart : ∀ rest, ∃ c more, skipBlanks (layout.lineBreak (depth + 1) ++
      writtenMember layout (depth + 1) member ++ rest) = c :: more ∧ c ≠ '}' := by
    intro rest
    rw [writtenMember, List.append_assoc, skipBlanks_append hblanks, List.append_assoc,
      List.append_assoc, quoted_append, skipBlanks_cons (by decide)]
    exact ⟨'"', _, rfl, by decide⟩
  rw [written_object_append, value?, skipBlanks_cons (by decide)]
  simp only [entries?_flatMap (Or.inr rfl) (isBlank_of_mem_lineBreak layout depth) hentry hstart]
  rfl

/-- An item is written shorter than its array. -/
theorem length_written_lt_of_mem_array (layout : Layout) (depth : Nat) {item entry : Json}
    {items : List Json} (h : entry ∈ item :: items) :
    (written layout (depth + 1) entry).length <
      (written layout depth (.array (item :: items))).length := by
  have hentry := length_le_of_mem_entries (fun item ↦
    layout.lineBreak (depth + 1) ++ written layout (depth + 1) item) h
  have hwhole := congrArg List.length
    (written_array_append layout depth item items [])
  simp only [List.length_append, List.length_cons, List.length_nil] at hentry hwhole
  omega

/-- The value of a member is written shorter than its object. -/
theorem length_written_lt_of_mem_object (layout : Layout) (depth : Nat)
    {member entry : Text × Json} {members : List (Text × Json)}
    (h : entry ∈ member :: members) :
    (written layout (depth + 1) entry.2).length <
      (written layout depth (.object (member :: members))).length := by
  have hentry := length_le_of_mem_entries (fun member ↦
    layout.lineBreak (depth + 1) ++ writtenMember layout (depth + 1) member) h
  have hwhole := congrArg List.length
    (written_object_append layout depth member members [])
  have hvalue : (written layout (depth + 1) entry.2).length ≤
      (writtenMember layout (depth + 1) entry).length := by
    rw [writtenMember]
    simp only [List.length_append]
    omega
  simp only [List.length_append, List.length_cons, List.length_nil] at hentry hwhole
  omega

/-- Reading gives back what has been written, whatever follows it. -/
theorem value?_written (value : Json) (layout : Layout) (depth most : Nat) (rest : Text)
    (hmost : (written layout depth value).length ≤ most) (hrest : NoDigit rest) :
    value? most (written layout depth value ++ rest) = some (value, rest) := by
  obtain ⟨c, more, hwritten, -⟩ := written_eq_cons layout depth value
  obtain ⟨most, rfl⟩ := Nat.exists_eq_add_one.mpr
    (show 0 < most by rw [hwritten, List.length_cons] at hmost; omega)
  cases value with
  | text content =>
    have hstring := string?_quoted content rest
    rw [quoted_append] at hstring
    rw [written, quoted_append, value?, skipBlanks_cons (by decide)]
    simp only [hstring]
    rfl
  | number value =>
    obtain ⟨c, digits, hdigits, hc⟩ := decimal_eq_cons value
    have hnumber := number?_decimal value hrest
    rw [hdigits] at hnumber
    rw [written, hdigits, List.cons_append, value?_of_isDigit hc, ← List.cons_append, hnumber]
    rfl
  | truth value =>
    rw [written]
    cases value with
    | false => rfl
    | true => rfl
  | array items =>
    cases items with
    | nil =>
      rw [written]
      rfl
    | cons item items =>
      refine value?_written_array (fun entry hmem rest hrest ↦ ?_) rest
      have hlength := length_written_lt_of_mem_array layout depth hmem
      exact value?_written entry layout (depth + 1) most rest (by omega) hrest
  | object members =>
    cases members with
    | nil =>
      rw [written]
      rfl
    | cons member members =>
      refine value?_written_object (fun entry hmem rest hrest ↦ ?_) rest
      have hlength := length_written_lt_of_mem_object layout depth hmem
      exact value?_written entry.2 layout (depth + 1) most rest (by omega) hrest
termination_by sizeOf value
decreasing_by
  · have hsmall := List.sizeOf_lt_of_mem hmem
    subst_vars
    rw [array.sizeOf_spec]
    omega
  · have hsmall := List.sizeOf_lt_of_mem hmem
    have hpair : sizeOf entry.2 < sizeOf entry := by
      cases entry with
      | mk name value =>
        rw [Prod.mk.sizeOf_spec]
        exact Nat.lt_add_of_pos_left (by omega)
    subst_vars
    rw [object.sizeOf_spec]
    omega

/-- A document that is written on one line or on several is read back as its value. -/
theorem read?_written (layout : Layout) (value : Json) :
    read? (value.written layout 0) = some value := by
  have hnone : NoDigit [] := fun _ hc ↦ absurd hc (by simp)
  have hread := value?_written value layout 0 _ [] (Nat.le_succ _) hnone
  rw [List.append_nil] at hread
  rw [read?, hread]
  rfl

end WorkloadNames.Json
