import WorkloadNames.Text.Offset

/-!
The longest prefix of a text that stays within a number of bytes: every other prefix that does is a
prefix of it. A cut at a byte offset can fall inside a character and have no answer; staying within
a budget always has one. Where every character takes a single byte the two agree, and both are
`List.take`.
-/

set_option autoImplicit false
set_option relaxedAutoImplicit false

namespace WorkloadNames.Text

/-! ### Staying within a budget -/

/-- The longest prefix of a text that takes at most `budget` bytes. -/
def within : Text → Nat → Text
  | [], _ => []
  | c :: rest, budget =>
    if c.utf8Size ≤ budget then c :: within rest (budget - c.utf8Size) else []

theorem within_isPrefix (text : Text) (budget : Nat) : within text budget <+: text := by
  induction text generalizing budget with
  | nil => exact List.prefix_rfl
  | cons c rest ih =>
    rw [within]
    split
    · exact (List.prefix_cons_inj c).mpr (ih (budget - c.utf8Size))
    · exact List.nil_prefix

/-- No prefix within the budget is longer. -/
theorem isPrefix_within_of_le {text other : Text} {budget : Nat} (hinitial : other <+: text)
    (hfits : byteLength other ≤ budget) : other <+: within text budget := by
  induction text generalizing other budget with
  | nil => exact hinitial
  | cons c rest ih =>
    rcases List.prefix_cons_iff.mp hinitial with rfl | ⟨tail, rfl, htail⟩
    · exact List.nil_prefix
    · rw [byteLength_cons] at hfits
      rw [within, if_pos (by omega)]
      exact (List.prefix_cons_inj c).mpr (ih htail (by omega))

theorem within_eq_self {text : Text} {budget : Nat} (h : byteLength text ≤ budget) :
    within text budget = text :=
  (within_isPrefix text budget).eq_of_length_le (isPrefix_within_of_le List.prefix_rfl h).length_le

/-- One character fits into four bytes, so such a budget leaves something of every text. -/
theorem within_ne_nil {text : Text} {budget : Nat} (hne : text ≠ []) (hbudget : 4 ≤ budget) :
    within text budget ≠ [] := by
  obtain ⟨c, rest, rfl⟩ := List.exists_cons_of_ne_nil hne
  have hc := c.utf8Size_le_four
  rw [within, if_pos (by omega)]
  exact List.cons_ne_nil c _

/-! ### Texts of single bytes -/

/-- Every character of the text takes one byte. -/
def SingleByte (text : Text) : Prop := ∀ c ∈ text, c.utf8Size = 1

theorem SingleByte.of_isPrefix {first second : Text} (h : first <+: second)
    (hsecond : SingleByte second) : SingleByte first :=
  fun c hc ↦ hsecond c (h.subset hc)

theorem SingleByte.byteLength_eq {text : Text} (h : SingleByte text) :
    byteLength text = text.length := by
  induction text with
  | nil => rfl
  | cons c rest ih =>
    rw [byteLength_cons, h c List.mem_cons_self, ih fun d hd ↦ h d (List.mem_cons_of_mem c hd),
      List.length_cons, Nat.add_comm]

theorem SingleByte.within_eq_take {text : Text} (h : SingleByte text) (budget : Nat) :
    within text budget = text.take budget := by
  induction text generalizing budget with
  | nil => rw [within, List.take_nil]
  | cons c rest ih =>
    have hrest := ih fun d hd ↦ h d (List.mem_cons_of_mem c hd)
    rw [within, h c List.mem_cons_self]
    cases budget with
    | zero => rfl
    | succ budget => rw [if_pos (by omega), hrest, Nat.add_sub_cancel, List.take_succ_cons]

/-- Every offset of such a text is a boundary, and the cut there uses the budget up. -/
theorem SingleByte.byteLength_within {text : Text} (h : SingleByte text) (budget : Nat) :
    byteLength (within text budget) = min budget (byteLength text) := by
  rw [(h.of_isPrefix (within_isPrefix text budget)).byteLength_eq, h.within_eq_take, h.byteLength_eq,
    List.length_take]

theorem SingleByte.before?_eq_within {text : Text} (h : SingleByte text) {offset : Nat}
    (hoffset : offset ≤ byteLength text) : before? text offset = some (within text offset) := by
  obtain ⟨back, hback⟩ := within_isPrefix text offset
  exact before?_eq_some_iff.mpr ⟨back, hback.symm, by rw [h.byteLength_within]; omega⟩

end WorkloadNames.Text
