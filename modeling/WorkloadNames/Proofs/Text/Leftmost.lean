import WorkloadNames.Text.Offset

/-!
The leftmost character of a text that passes a test, with the number of bytes in front of it. A text
has at most one. In a text that is put together from parts it stands in the first part that has one,
and the bytes of the parts before it are counted in.
-/

set_option autoImplicit false
set_option relaxedAutoImplicit false

namespace WorkloadNames.Text

/-- The leftmost character of a text that passes a test, and the number of bytes in front of it. -/
def LeftmostAt (p : Char → Bool) (text : Text) (found : Char) (offset : Nat) : Prop :=
  ∃ front back, text = front ++ found :: back ∧ (∀ c ∈ front, p c = false) ∧ p found = true ∧
    byteLength front = offset

variable {p : Char → Bool} {text rest first second : Text} {c found : Char} {start offset : Nat}

theorem LeftmostAt.mem (h : LeftmostAt p text found offset) : found ∈ text := by
  obtain ⟨front, back, rfl, -⟩ := h
  exact List.mem_append_right front List.mem_cons_self

theorem LeftmostAt.passes (h : LeftmostAt p text found offset) : p found = true := by
  obtain ⟨-, -, -, -, hfound, -⟩ := h
  exact hfound

theorem LeftmostAt.lt_byteLength (h : LeftmostAt p text found offset) :
    offset < byteLength text := by
  obtain ⟨front, back, rfl, -, -, rfl⟩ := h
  have hfound := found.utf8Size_pos
  rw [byteLength_append, byteLength_cons]
  omega

theorem LeftmostAt.congr {q : Char → Bool} (h : LeftmostAt p text found offset)
    (heq : ∀ c ∈ text, p c = q c) : LeftmostAt q text found offset := by
  obtain ⟨front, back, rfl, hfront, hfound, rfl⟩ := h
  obtain ⟨hsame, hrest⟩ := List.forall_mem_append.mp heq
  exact ⟨front, back, rfl, fun c hc ↦ hsame c hc ▸ hfront c hc,
    (List.forall_mem_cons.mp hrest).1 ▸ hfound, rfl⟩

/-- What passes one of two tests first is the first to pass the one or the other. -/
theorem LeftmostAt.of_or {q : Char → Bool}
    (h : LeftmostAt (fun c ↦ p c || q c) text found offset) :
    LeftmostAt p text found offset ∨ p found = false ∧ LeftmostAt q text found offset := by
  obtain ⟨front, back, rfl, hfront, hfound, rfl⟩ := h
  have hneither (c : Char) (hc : c ∈ front) : p c = false ∧ q c = false :=
    Bool.or_eq_false_iff.mp (hfront c hc)
  cases hp : p found with
  | true => exact Or.inl ⟨front, back, rfl, fun c hc ↦ (hneither c hc).1, hp, rfl⟩
  | false =>
    have hq : q found = true := by simpa [hp] using hfound
    exact Or.inr ⟨rfl, front, back, rfl, fun c hc ↦ (hneither c hc).2, hq, rfl⟩

theorem not_leftmostAt_nil : ¬LeftmostAt p [] found offset :=
  fun h ↦ List.not_mem_nil h.mem

theorem leftmostAt_cons_of_pos (hc : p c = true) :
    LeftmostAt p (c :: rest) found offset ↔ found = c ∧ offset = 0 := by
  constructor
  · rintro ⟨front, back, htext, hfront, -, rfl⟩
    cases front with
    | nil => exact ⟨(List.cons.inj htext).1.symm, rfl⟩
    | cons d front =>
      obtain rfl := (List.cons.inj htext).1
      exact absurd hc (Bool.eq_false_iff.mp (hfront c List.mem_cons_self))
  · rintro ⟨rfl, rfl⟩
    exact ⟨[], rest, rfl, List.forall_mem_nil _, hc, rfl⟩

theorem leftmostAt_cons_of_neg (hc : p c = false) :
    LeftmostAt p (c :: rest) found offset ↔
      ∃ past, LeftmostAt p rest found past ∧ offset = c.utf8Size + past := by
  constructor
  · rintro ⟨front, back, htext, hfront, hfound, rfl⟩
    cases front with
    | nil =>
      obtain rfl := (List.cons.inj htext).1
      exact absurd hfound (Bool.eq_false_iff.mp hc)
    | cons d front =>
      obtain ⟨rfl, rfl⟩ := List.cons.inj htext
      exact ⟨byteLength front,
        ⟨front, back, rfl, fun e he ↦ hfront e (List.mem_cons_of_mem c he), hfound, rfl⟩, rfl⟩
  · rintro ⟨past, ⟨front, back, rfl, hfront, hfound, rfl⟩, rfl⟩
    exact ⟨c :: front, back, rfl, List.forall_mem_cons.mpr ⟨hc, hfront⟩, hfound, rfl⟩

/-- Looking through the characters beside their offsets finds the leftmost one. -/
theorem find?_offsetsFrom_eq_some_iff :
    ((offsetsFrom start text).find? fun entry ↦ p entry.2) = some (offset, found) ↔
      ∃ past, LeftmostAt p text found past ∧ offset = start + past := by
  induction text generalizing start with
  | nil => simp [offsetsFrom, not_leftmostAt_nil]
  | cons c rest ih =>
    rw [offsetsFrom, List.find?_cons]
    cases hc : p c with
    | true =>
      simp only [leftmostAt_cons_of_pos hc, Option.some.injEq, Prod.mk.injEq]
      constructor
      · rintro ⟨rfl, rfl⟩
        exact ⟨0, ⟨rfl, rfl⟩, rfl⟩
      · rintro ⟨past, ⟨rfl, rfl⟩, rfl⟩
        exact ⟨rfl, rfl⟩
    | false =>
      simp only [leftmostAt_cons_of_neg hc, ih]
      constructor
      · rintro ⟨past, hpast, rfl⟩
        exact ⟨c.utf8Size + past, ⟨past, hpast, rfl⟩, Nat.add_assoc _ _ _⟩
      · rintro ⟨_, ⟨past, hpast, rfl⟩, rfl⟩
        exact ⟨past, hpast, (Nat.add_assoc _ _ _).symm⟩

theorem find?_eq_some_iff_leftmostAt :
    text.find? p = some found ↔ ∃ offset, LeftmostAt p text found offset := by
  rw [List.find?_eq_some_iff_append]
  constructor
  · rintro ⟨hfound, front, back, htext, hfront⟩
    exact ⟨byteLength front, front, back, htext, fun c hc ↦ by simpa using hfront c hc, hfound, rfl⟩
  · rintro ⟨_, front, back, htext, hfront, hfound, -⟩
    exact ⟨hfound, front, back, htext, fun c hc ↦ by simp [hfront c hc]⟩

theorem exists_leftmostAt_iff :
    (∃ found offset, LeftmostAt p text found offset) ↔ ∃ c ∈ text, p c = true := by
  rw [← List.find?_isSome, Option.isSome_iff_exists]
  exact exists_congr fun found ↦ find?_eq_some_iff_leftmostAt.symm

/-- What passes more tests is found no later: at the same character, or in front of it. -/
theorem LeftmostAt.eq_or_lt {q : Char → Bool} {found' : Char} {offset' : Nat}
    (h : LeftmostAt p text found offset) (h' : LeftmostAt q text found' offset')
    (himp : ∀ c, q c = true → p c = true) :
    found = found' ∧ offset = offset' ∨ offset < offset' := by
  obtain ⟨front, back, rfl, hfront, -, rfl⟩ := h
  obtain ⟨front', back', htext, -, hfound', rfl⟩ := h'
  rcases List.append_eq_append_iff.mp htext with ⟨between, rfl, hrest⟩ | ⟨between, rfl, hrest⟩
  · cases between with
    | nil => exact Or.inl ⟨(List.cons.inj hrest).1, by rw [List.append_nil]⟩
    | cons d between =>
      have hd := d.utf8Size_pos
      refine Or.inr ?_
      rw [byteLength_append, byteLength_cons]
      omega
  · cases between with
    | nil => exact Or.inl ⟨(List.cons.inj hrest).1.symm, by rw [List.append_nil]⟩
    | cons d between =>
      -- the second character would stand in front of the first, where nothing passes its test
      obtain rfl := (List.cons.inj hrest).1
      have hnot := hfront found' (List.mem_append_right front' List.mem_cons_self)
      exact absurd (himp found' hfound') (by simp [hnot])

theorem LeftmostAt.unique {found' : Char} {offset' : Nat} (h : LeftmostAt p text found offset)
    (h' : LeftmostAt p text found' offset') : found = found' ∧ offset = offset' := by
  rcases h.eq_or_lt h' fun _ hc ↦ hc with heq | hbefore
  · exact heq
  · rcases h'.eq_or_lt h fun _ hc ↦ hc with ⟨-, heq⟩ | hbehind
    · exact absurd heq (Nat.ne_of_gt hbefore)
    · exact absurd hbehind (Nat.lt_asymm hbefore)

/-- The bytes of the first part count towards an offset in the second. -/
theorem leftmostAt_append_iff :
    LeftmostAt p (first ++ second) found offset ↔
      LeftmostAt p first found offset ∨
        (∀ c ∈ first, p c = false) ∧
          ∃ past, LeftmostAt p second found past ∧ offset = byteLength first + past := by
  induction first generalizing offset with
  | nil => simp [not_leftmostAt_nil]
  | cons c first ih =>
    rw [List.cons_append, List.forall_mem_cons]
    cases hc : p c with
    | true => simp [leftmostAt_cons_of_pos hc]
    | false =>
      simp only [leftmostAt_cons_of_neg hc, ih, true_and, byteLength_cons]
      constructor
      · rintro ⟨_, hfirst | ⟨hnone, past, hpast, rfl⟩, rfl⟩
        · exact Or.inl ⟨_, hfirst, rfl⟩
        · exact Or.inr ⟨hnone, past, hpast, (Nat.add_assoc _ _ _).symm⟩
      · rintro (⟨past, hpast, rfl⟩ | ⟨hnone, past, hpast, rfl⟩)
        · exact ⟨past, Or.inl hpast, rfl⟩
        · exact ⟨_, Or.inr ⟨hnone, past, hpast, rfl⟩, Nat.add_assoc _ _ _⟩

end WorkloadNames.Text
