import Mathlib.Data.List.Infix
import WorkloadNames.Text.Basic

/-!
Reading a text apart that has been put together. Where one part ends and the next begins can be told
from a character that the part in front lacks (`append_cons_inj`), from a mark that the part behind
lacks (`append_mark_inj`), and from a beginning if there are only some to choose from and none of
them begins another (`PrefixFree.append_inj`). Decimal numbers are read off the front of a text that
goes on with something else than a digit.
-/

set_option autoImplicit false
set_option relaxedAutoImplicit false

namespace WorkloadNames.Text

variable {c : Char} {n : Nat} {front front' between back back' mark first second rest rest' : Text}

/-! ### Characters that the part in front lacks -/

/-- The first occurrence of a character ends what stands before it and does not hold it. -/
theorem append_cons_inj (hfront : c ∉ front) (hfront' : c ∉ front')
    (h : front ++ c :: back = front' ++ c :: back') : front = front' ∧ back = back' := by
  induction front generalizing front' with
  | nil =>
    cases front' with
    | nil => exact ⟨rfl, (List.cons.inj h).2⟩
    | cons d rest =>
      obtain rfl := (List.cons.inj h).1
      exact absurd List.mem_cons_self hfront'
  | cons a rest ih =>
    cases front' with
    | nil =>
      obtain rfl := (List.cons.inj h).1
      exact absurd List.mem_cons_self hfront
    | cons d more =>
      obtain ⟨rfl, hrest⟩ := List.cons.inj h
      obtain ⟨rfl, hback⟩ := ih (fun ha ↦ hfront (List.mem_cons_of_mem a ha))
        (fun hd ↦ hfront' (List.mem_cons_of_mem a hd)) hrest
      exact ⟨rfl, hback⟩

theorem isDigit_of_mem_decimal (h : c ∈ decimal n) : c.isDigit = true :=
  Nat.isDigit_of_mem_toDigits (by decide) (by decide) h

theorem decimal_injective : Function.Injective decimal :=
  Function.LeftInverse.injective fun _ ↦ Nat.ofDigitChars_ten_toDigits

/-- Of two numbers with words between them the first ends where its digits do. -/
theorem decimal_append_decimal_inj {m m' n n' : Nat}
    (hbetween : between.head?.any (fun c ↦ !c.isDigit) = true)
    (h : decimal m ++ between ++ decimal n = decimal m' ++ between ++ decimal n') :
    m = m' ∧ n = n' := by
  obtain ⟨c, hhead, hc⟩ := (Option.any_eq_true _ _).mp hbetween
  obtain ⟨more, rfl⟩ := List.head?_eq_some_iff.mp hhead
  have hlacks (value : Nat) : c ∉ decimal value := by
    intro hmem
    simp [isDigit_of_mem_decimal hmem] at hc
  rw [List.append_assoc, List.append_assoc] at h
  obtain ⟨hdigits, hrest⟩ := append_cons_inj (hlacks m) (hlacks m') h
  exact ⟨decimal_injective hdigits, decimal_injective (List.append_cancel_left hrest)⟩

/-! ### Marks that the part behind lacks -/

/-- A mark whose first character does not come again in it cannot stand in two places of a text if
nothing behind the first of them holds it. -/
theorem eq_nil_of_cons_mark_eq (hmark : c ∉ mark) (hback : ¬ mark <:+: back)
    (h : c :: (mark ++ back) = front ++ c :: (mark ++ back')) : front = [] := by
  cases front with
  | nil => rfl
  | cons a more =>
    have hrest : mark ++ back = more ++ c :: (mark ++ back') := (List.cons.inj h).2
    rcases List.append_eq_append_iff.mp hrest with ⟨between, -, hbehind⟩ | ⟨between, hinside, hover⟩
    · -- the second mark stands behind the first
      exact absurd ⟨between ++ [c], back', by simp [hbehind]⟩ hback
    · -- the second mark begins inside the first, or right behind it
      cases between with
      | nil => exact absurd ⟨[c], back', by simpa using hover⟩ hback
      | cons b between =>
        obtain ⟨rfl, -⟩ := List.cons.inj hover
        exact absurd (hinside ▸ List.mem_append_right more List.mem_cons_self) hmark

/-- The last occurrence of a mark ends what stands before it. -/
theorem append_mark_inj (hmark : c ∉ mark) (hback : ¬ mark <:+: back) (hback' : ¬ mark <:+: back')
    (h : front ++ c :: (mark ++ back) = front' ++ c :: (mark ++ back')) :
    front = front' ∧ back = back' := by
  rcases List.append_eq_append_iff.mp h with ⟨between, rfl, hrest⟩ | ⟨between, rfl, hrest⟩
  · obtain rfl := eq_nil_of_cons_mark_eq hmark hback hrest
    exact ⟨(List.append_nil front).symm, List.append_cancel_left (List.cons.inj hrest).2⟩
  · obtain rfl := eq_nil_of_cons_mark_eq hmark hback' hrest
    exact ⟨List.append_nil front', (List.append_cancel_left (List.cons.inj hrest).2).symm⟩

/-! ### Beginnings -/

/-- None of some texts begins another. -/
def PrefixFree (openings : List Text) : Prop :=
  ∀ first ∈ openings, ∀ second ∈ openings, first <+: second → first = second

instance (openings : List Text) : Decidable (PrefixFree openings) :=
  inferInstanceAs (Decidable (∀ first ∈ openings, ∀ second ∈ openings, first <+: second → _))

/-- A text begins in at most one of some ways of which none begins another. -/
theorem append_inj_of_free {α : Type*} {opening : α → Text} {ways : List α}
    (hfree : ∀ way ∈ ways, ∀ other ∈ ways, opening way <+: opening other → way = other)
    {way other : α} (hway : way ∈ ways) (hother : other ∈ ways)
    (h : opening way ++ rest = opening other ++ rest') : way = other ∧ rest = rest' := by
  have hsame : way = other := by
    have hinitial : opening way <+: opening other ++ rest' := ⟨rest, h⟩
    rcases List.prefix_or_prefix_of_prefix hinitial (List.prefix_append (opening other) rest') with
      hprefix | hprefix
    · exact hfree way hway other hother hprefix
    · exact (hfree other hother way hway hprefix).symm
  obtain rfl := hsame
  exact ⟨rfl, List.append_cancel_left h⟩

/-- A text ends in at most one of some ways of which none ends another. -/
theorem append_inj_of_free_endings {α : Type*} {ending : α → Text} {ways : List α}
    (hfree : ∀ way ∈ ways, ∀ other ∈ ways, ending way <:+ ending other → way = other)
    {way other : α} (hway : way ∈ ways) (hother : other ∈ ways)
    (h : front ++ ending way = front' ++ ending other) : front = front' ∧ way = other := by
  have hfree' : ∀ way ∈ ways, ∀ other ∈ ways,
      (ending way).reverse <+: (ending other).reverse → way = other :=
    fun way hway other hother hprefix ↦ hfree way hway other hother (List.reverse_prefix.mp hprefix)
  have hreversed := congrArg List.reverse h
  rw [List.reverse_append, List.reverse_append] at hreversed
  obtain ⟨rfl, hfront⟩ := append_inj_of_free hfree' hway hother hreversed
  exact ⟨List.reverse_inj.mp hfront, rfl⟩

/-- A text begins with at most one of them. -/
theorem PrefixFree.append_inj {openings : List Text} (hfree : PrefixFree openings)
    (hfirst : first ∈ openings) (hsecond : second ∈ openings)
    (h : first ++ rest = second ++ rest') : first = second ∧ rest = rest' :=
  append_inj_of_free hfree hfirst hsecond h

end WorkloadNames.Text
