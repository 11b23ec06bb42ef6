import WorkloadNames.Text.Basic

/-!
Cutting a text at byte offsets. An offset is a boundary of a text when it lies between two of its
characters or at one of its ends; a cut anywhere else has no answer. The main statements say that a
cut succeeds exactly at the boundaries, and which two pieces it leaves.
-/

set_option autoImplicit false
set_option relaxedAutoImplicit false

namespace WorkloadNames.Text

/-- Every character of a text beside the byte offset at which it begins, counted from `start`. -/
def offsetsFrom (start : Nat) : Text → List (Nat × Char)
  | [] => []
  | c :: rest => (start, c) :: offsetsFrom (start + c.utf8Size) rest

/-- Every character of a text beside the byte offset at which it begins. -/
def offsets (text : Text) : List (Nat × Char) := offsetsFrom 0 text

/-- The part of a text before a byte offset; nothing if the offset is no boundary. -/
def before? : Text → Nat → Option Text
  | [], offset => if offset = 0 then some [] else none
  | c :: rest, offset =>
    if offset = 0 then some []
    else if offset < c.utf8Size then none
    else (before? rest (offset - c.utf8Size)).map (c :: ·)

/-- The part of a text from a byte offset on; nothing if the offset is no boundary. -/
def after? : Text → Nat → Option Text
  | [], offset => if offset = 0 then some [] else none
  | c :: rest, offset =>
    if offset = 0 then some (c :: rest)
    else if offset < c.utf8Size then none
    else after? rest (offset - c.utf8Size)

/-- The part of a text between two byte offsets; nothing unless both are boundaries in order. -/
def between? (text : Text) (start stop : Nat) : Option Text :=
  if stop < start then none
  else (before? text stop).bind fun front ↦ after? front start

/-- An offset is a boundary when some prefix has exactly that many bytes. -/
def IsBoundary (text : Text) (offset : Nat) : Prop :=
  ∃ front back, text = front ++ back ∧ byteLength front = offset

/-! ### Cuts that hit -/

theorem before?_append (front back : Text) :
    before? (front ++ back) (byteLength front) = some front := by
  induction front with
  | nil => cases back <;> rfl
  | cons c front ih =>
    have hc := c.utf8Size_pos
    rw [List.cons_append, byteLength_cons, before?, if_neg (by omega), if_neg (by omega),
      Nat.add_sub_cancel_left, ih, Option.map_some]

theorem after?_append (front back : Text) :
    after? (front ++ back) (byteLength front) = some back := by
  induction front with
  | nil => cases back <;> rfl
  | cons c front ih =>
    have hc := c.utf8Size_pos
    rw [List.cons_append, byteLength_cons, after?, if_neg (by omega), if_neg (by omega),
      Nat.add_sub_cancel_left, ih]

/-! ### What a cut leaves -/

theorem before?_eq_some_iff {text front : Text} {offset : Nat} :
    before? text offset = some front ↔
      ∃ back, text = front ++ back ∧ byteLength front = offset := by
  constructor
  · intro h
    fun_induction before? text offset generalizing front with
    | case1 =>
      cases h
      exact ⟨[], rfl, rfl⟩
    | case2 => cases h
    | case3 c rest =>
      cases h
      exact ⟨c :: rest, rfl, rfl⟩
    | case4 => cases h
    | case5 c rest offset _ hfits ih =>
      obtain ⟨more, hmore, rfl⟩ := Option.map_eq_some_iff.mp h
      obtain ⟨back, rfl, hlength⟩ := ih hmore
      exact ⟨back, rfl, by rw [byteLength_cons]; omega⟩
  · rintro ⟨back, rfl, rfl⟩
    exact before?_append front back

theorem after?_eq_some_iff {text back : Text} {offset : Nat} :
    after? text offset = some back ↔
      ∃ front, text = front ++ back ∧ byteLength front = offset := by
  constructor
  · intro h
    fun_induction after? text offset with
    | case1 =>
      cases h
      exact ⟨[], rfl, rfl⟩
    | case2 => cases h
    | case3 c rest =>
      cases h
      exact ⟨[], rfl, rfl⟩
    | case4 => cases h
    | case5 c rest offset _ hfits ih =>
      obtain ⟨front, rfl, hlength⟩ := ih h
      exact ⟨c :: front, rfl, by rw [byteLength_cons]; omega⟩
  · rintro ⟨front, rfl, rfl⟩
    exact after?_append front back

/-! ### Boundaries -/

theorem exists_before?_eq_some_iff {text : Text} {offset : Nat} :
    (∃ front, text.before? offset = some front) ↔ text.IsBoundary offset := by
  simp only [before?_eq_some_iff, IsBoundary]

/-- A boundary lies inside the text or at one of its ends. -/
theorem IsBoundary.le_byteLength {text : Text} {offset : Nat} (h : text.IsBoundary offset) :
    offset ≤ byteLength text := by
  obtain ⟨front, back, rfl, rfl⟩ := h
  rw [byteLength_append]
  exact Nat.le_add_right (byteLength front) (byteLength back)

/-- Where a text is put together from three parts, the middle one is a slice of it. -/
theorem between?_append (front middle back : Text) :
    (front ++ (middle ++ back)).between? (byteLength front)
      (byteLength front + byteLength middle) = some middle := by
  have hbefore : (front ++ (middle ++ back)).before? (byteLength front + byteLength middle) =
      some (front ++ middle) := by
    rw [← List.append_assoc, ← byteLength_append, before?_append]
  rw [between?, if_neg (Nat.not_lt.mpr (Nat.le_add_right _ _)), hbefore, Option.bind_some,
    after?_append]

end WorkloadNames.Text
