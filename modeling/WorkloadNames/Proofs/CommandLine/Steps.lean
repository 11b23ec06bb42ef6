import WorkloadNames.CommandLine.Invocation

/-!
What reading does with one argument, told once. An argument with a meaning of its own settles what
is pending before it is taken itself: as a value, as a parameter that waits for one, as a flag or as
an operand. Each step is told as an equivalence, with its guards and with all that it leaves behind.
What reading preserves is read off these.
-/

set_option autoImplicit false
set_option relaxedAutoImplicit false

namespace WorkloadNames.CommandLine

variable {stretch : Stretch} {reading next : Reading} {parameter : Parameter} {flag : Flag}
  {argument value word : Text} {value? : Option Text} {divided : Bool}

theorem ok_bind {α β : Type} (value : α) (next : α → Except Halt β) :
    (Except.ok value >>= next) = next value :=
  rfl

theorem exists_of_bind_eq_ok {α β : Type} {found : Except Halt α} {next : α → Except Halt β}
    {result : β} (h : (found >>= next) = .ok result) :
    ∃ value, found = .ok value ∧ next value = .ok result := by
  cases found with
  | error halt => cases h
  | ok value => exact ⟨value, rfl, h⟩

/-- A flag that has a letter is no flag that only sets something. -/
theorem Stretch.kind_of_letterFlag? {letter : Char} (h : stretch.letterFlag? letter = some flag) :
    flag = .help ∨ flag = .version := by
  have hfind : stretch.flags.find? (fun flag ↦ flag.letter? = some letter) = some flag := h
  have hfound := List.find?_some hfind
  have hletter := of_decide_eq_true hfound
  cases flag with
  | help => exact Or.inl rfl
  | version => exact Or.inr rfl
  | logJson => exact absurd hletter (by simp [Flag.letter?])
  | label => exact absurd hletter (by simp [Flag.letter?])

namespace Reading

/-! ### Settling -/

/-- A value is settled once, and only if its parameter accepts it. -/
theorem give_eq_ok_iff :
    reading.give parameter value = .ok next ↔
      reading.value? parameter = none ∧ parameter.accepts value = true ∧
        next = { reading with values := reading.values ++ [(parameter, value)] } := by
  unfold Reading.give
  cases hvalue : reading.value? parameter with
  | some settled => simp
  | none =>
    cases haccepts : parameter.accepts value with
    | true => simp [eq_comm]
    | false => simp

theorem settle_eq_ok (h : reading.pending? = none) : reading.settle = .ok reading := by
  rw [settle, h]

/-- A parameter that waits for its value cannot be settled. -/
theorem settle_eq_ok_iff :
    reading.settle = .ok next ↔
      reading.pending? = none ∧ next = reading ∨
        ∃ parameter value, reading.pending? = some ⟨parameter, some value⟩ ∧
          { reading with pending? := none }.give parameter value = .ok next := by
  unfold Reading.settle
  cases hpending : reading.pending? with
  | none => simp [eq_comm]
  | some pending =>
    obtain ⟨parameter, value?⟩ := pending
    cases value? with
    | none => simp
    | some value =>
      constructor
      · intro h
        exact Or.inr ⟨parameter, value, rfl, h⟩
      · rintro (⟨⟨⟩, -⟩ | ⟨_, _, ⟨rfl, rfl⟩, h⟩)
        exact h

/-! ### Taking -/

/-- A flag is raised once, and only if it sets something. -/
theorem raise_eq_ok_iff :
    reading.raise flag = .ok next ↔
      (flag = .logJson ∨ flag = .label) ∧ ∃ settled, reading.settle = .ok settled ∧
        flag ∉ settled.flags ∧ next = { settled with flags := settled.flags ++ [flag] } := by
  constructor
  · intro h
    obtain ⟨settled, hsettle, hnext⟩ := exists_of_bind_eq_ok h
    cases flag with
    | help => cases hnext
    | version => cases hnext
    | _ =>
      simp only at hnext
      split at hnext
      · cases hnext
      · rename_i hnew
        exact ⟨by simp, settled, hsettle, hnew, (Except.ok.inj hnext).symm⟩
  · rintro ⟨hkind, settled, hsettle, hnew, rfl⟩
    rw [raise, hsettle, ok_bind]
    rcases hkind with rfl | rfl
    · exact if_neg hnew
    · exact if_neg hnew

/-- An operand comes behind the others as long as there is room. -/
theorem operand_eq_ok_iff :
    reading.operand stretch divided argument = .ok next ↔
      stretch.hasRoom reading.operands.length = true ∧ ∃ settled, reading.settle = .ok settled ∧
        next = { settled with operands := settled.operands ++ [argument] } := by
  unfold Reading.operand
  constructor
  · intro h
    split at h
    · rename_i hroom
      obtain ⟨settled, hsettle, hnext⟩ := exists_of_bind_eq_ok h
      exact ⟨hroom, settled, hsettle, (Except.ok.inj hnext).symm⟩
    · cases h
  · rintro ⟨hroom, settled, hsettle, rfl⟩
    rw [if_pos hroom, hsettle]
    rfl

/-- What is taken of a long argument: a parameter with its value, a parameter that waits for one, or
a flag. -/
inductive TakesLong (stretch : Stretch) (reading : Reading) (word : Text) :
    Option Text → Reading → Prop where
  | joined {parameter : Parameter} {value : Text} {settled next : Reading}
      (hparameter : stretch.parameter? word = some parameter)
      (hsettle : reading.settle = .ok settled) (hgive : settled.give parameter value = .ok next) :
    TakesLong stretch reading word (some value) next
  | waits {parameter : Parameter} {settled : Reading}
      (hparameter : stretch.parameter? word = some parameter)
      (hsettle : reading.settle = .ok settled) :
    TakesLong stretch reading word none { settled with pending? := some ⟨parameter, none⟩ }
  | raised {flag : Flag} {next : Reading} (hnone : stretch.parameter? word = none)
      (hflag : stretch.flag? word = some flag) (hraise : reading.raise flag = .ok next) :
    TakesLong stretch reading word none next

theorem long_eq_ok_iff :
    reading.long stretch word value? = .ok next ↔
      TakesLong stretch reading word value? next := by
  unfold Reading.long
  constructor
  · intro h
    split at h
    · rename_i parameter hparameter
      obtain ⟨settled, hsettle, hnext⟩ := exists_of_bind_eq_ok h
      cases value? with
      | some value => exact .joined hparameter hsettle hnext
      | none =>
        obtain rfl := Except.ok.inj hnext
        exact .waits hparameter hsettle
    · rename_i hnone
      split at h
      · rename_i flag hflag
        cases value? with
        | some value => cases h
        | none => exact .raised hnone hflag h
      · cases h
  · intro h
    cases h with
    | joined hparameter hsettle hgive =>
      simp only [hparameter, hsettle, ok_bind, hgive]
    | waits hparameter hsettle =>
      simp only [hparameter, hsettle, ok_bind]
      rfl
    | raised hnone hflag hraise =>
      simp only [hnone, hflag, hraise]

/-- No letters are taken: those that there are ask for help or for the version. -/
theorem letters_ne_ok {letter : Char} {letters : Text} :
    reading.letters stretch (letter :: letters) ≠ .ok next := by
  intro h
  unfold Reading.letters at h
  split at h
  · rename_i flag hflag
    obtain ⟨raised, hraise, -⟩ := exists_of_bind_eq_ok h
    obtain ⟨hkind, -⟩ := raise_eq_ok_iff.mp hraise
    rcases Stretch.kind_of_letterFlag? hflag with rfl | rfl
    · simp at hkind
    · simp at hkind
  · cases h

end Reading

end WorkloadNames.CommandLine
