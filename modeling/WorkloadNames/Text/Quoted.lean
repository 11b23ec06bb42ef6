import WorkloadNames.Text.Extending
import WorkloadNames.Text.Unprintable

/-!
Texts between quotes, so written that every character can be seen: quotes, backslashes and the
common controls are escaped by a letter, and characters without a mark of their own by their code
point.
-/

set_option autoImplicit false
set_option relaxedAutoImplicit false

namespace WorkloadNames.Text

/-- A character as it stands between quotes. -/
def visible (c : Char) : Text :=
  match c with
  | '\x00' => ['\\', '0']
  | '\t' => ['\\', 't']
  | '\r' => ['\\', 'r']
  | '\n' => ['\\', 'n']
  | '\'' => ['\\', '\'']
  | '"' => ['\\', '"']
  | '\\' => ['\\', '\\']
  | c =>
    if isExtending c || isUnprintable c then
      ['\\', 'u', '{'] ++ Nat.toDigits 16 c.toNat ++ ['}']
    else [c]

/-- A text between quotes. -/
def quoted (text : Text) : Text := '"' :: text.flatMap visible ++ ['"']

/-! ### One line -/

theorem newline_notMem_toDigits (n : Nat) : '\n' ∉ Nat.toDigits 16 n := by
  induction n using Nat.strongRecOn with
  | ind n ih =>
    rw [Nat.toDigits_eq_if (by decide)]
    split
    · simp
    · rename_i hlarge
      have hquotient := ih (n / 16) (Nat.div_lt_self (by omega) (by decide))
      simp [hquotient]

theorem newline_notMem_visible (c : Char) : '\n' ∉ visible c := by
  by_cases hnewline : c = '\n'
  · rw [hnewline]
    decide
  · unfold visible
    split
    any_goals decide
    split
    · simp [newline_notMem_toDigits]
    · simpa using Ne.symm hnewline

/-- Whatever is in it, a text between quotes stands on one line. -/
theorem newline_notMem_quoted (text : Text) : '\n' ∉ quoted text := by
  have hvisible : '\n' ∉ text.flatMap visible := by
    rw [List.mem_flatMap]
    rintro ⟨c, -, hc⟩
    exact newline_notMem_visible c hc
  simp [quoted, hvisible]

end WorkloadNames.Text
