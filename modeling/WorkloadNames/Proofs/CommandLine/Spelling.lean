import WorkloadNames.Proofs.CommandLine.Written

/-!
How the arguments of a stretch divide among values, flags and operands. A value is joined to its
parameter or is the argument behind it, flags are written as such, and everything else is an
operand, as is all that stands behind the divider (`Spelled`). The looks of an argument tell which
of these it is, so arguments divide in one way only (`Spelled.unique`), and two stretches of
arguments one behind the other divide one behind the other, unless there is a divider in the first
(`Spelled.append`).
-/

set_option autoImplicit false
set_option relaxedAutoImplicit false

namespace WorkloadNames.CommandLine

variable {stretch : Stretch} {parameter : Parameter} {flag : Flag} {argument value word : Text}
  {given more rest : List Text} {values values' : List (Parameter × Text)}
  {flags flags' : List Flag} {operands operands' : List Text}

/-- How the arguments of a stretch divide into the values of parameters, the flags and the operands,
each in their order. -/
inductive Spelled (stretch : Stretch) :
    List Text → List (Parameter × Text) → List Flag → List Text → Prop where
  | nothing : Spelled stretch [] [] [] []
  /-- A value is joined to its parameter. -/
  | joined {parameter : Parameter} {value : Text} {given : List Text}
      {values : List (Parameter × Text)} {flags : List Flag} {operands : List Text}
      (hparameter : parameter ∈ stretch.parameters)
      (h : Spelled stretch given values flags operands) :
    Spelled stretch (parameter.given value :: given) ((parameter, value) :: values) flags operands
  /-- A value is the argument behind its parameter. -/
  | apart {parameter : Parameter} {value : Text} {given : List Text}
      {values : List (Parameter × Text)} {flags : List Flag} {operands : List Text}
      (hparameter : parameter ∈ stretch.parameters) (hvalue : Look.ofArgument value = .plain)
      (h : Spelled stretch given values flags operands) :
    Spelled stretch (('-' :: '-' :: parameter.word) :: value :: given)
      ((parameter, value) :: values) flags operands
  | flag {flag : Flag} {given : List Text} {values : List (Parameter × Text)} {flags : List Flag}
      {operands : List Text} (hflag : flag ∈ stretch.flags)
      (h : Spelled stretch given values flags operands) :
    Spelled stretch (flag.shown :: given) values (flag :: flags) operands
  | operand {operand : Text} {given : List Text} {values : List (Parameter × Text)}
      {flags : List Flag} {operands : List Text} (hoperand : Look.ofArgument operand = .plain)
      (h : Spelled stretch given values flags operands) :
    Spelled stretch (operand :: given) values flags (operand :: operands)
  /-- Behind the divider there are operands only. -/
  | divided (operands : List Text) : Spelled stretch (['-', '-'] :: operands) [] [] operands

/-- The arguments in front of the divider. -/
def undivided (given : List Text) : List Text := given.takeWhile (· ≠ ['-', '-'])

/-- Behind the hyphens of a long argument stands its word, and behind an equals sign its value. -/
theorem Look.eq_of_ofArgument_eq_long {value? : Option Text}
    (h : Look.ofArgument argument = .long word value?) :
    argument = '-' :: '-' :: (word ++ value?.elim [] fun value ↦ '=' :: value) := by
  unfold Look.ofArgument at h
  split at h
  · cases h
  · rename_i rest _
    have hrest := @List.takeWhile_append_dropWhile Char (fun c ↦ c != '=') rest
    have hdrop : rest.drop (rest.takeWhile fun c ↦ c != '=').length =
        rest.dropWhile fun c ↦ c != '=' := by
      have hleft := @List.drop_left Char (rest.takeWhile fun c ↦ c != '=')
        (rest.dropWhile fun c ↦ c != '=')
      rwa [hrest] at hleft
    simp only [hdrop] at h
    split at h
    · rename_i hnil
      cases h
      rw [hnil, List.append_nil] at hrest
      simp [hrest]
    · rename_i sign value hsign
      cases h
      have hequals := List.head?_dropWhile_not (fun c ↦ c != '=') rest
      rw [hsign] at hequals hrest
      obtain rfl : sign = '=' := by simpa using hequals
      simp [hrest]
  · cases h
  · cases h

theorem Look.eq_of_ofArgument_eq_divider (h : Look.ofArgument argument = .divider) :
    argument = ['-', '-'] := by
  unfold Look.ofArgument at h
  split at h
  · rfl
  · simp only at h
    split at h
    · cases h
    · cases h
  · cases h
  · cases h

theorem Look.eq_cons_of_ofArgument_eq_letters {letters : Text}
    (h : Look.ofArgument argument = .letters letters) :
    ∃ letter rest, letters = letter :: rest := by
  unfold Look.ofArgument at h
  split at h
  · cases h
  · simp only at h
    split at h
    · cases h
    · cases h
  · cases h
    exact ⟨_, _, rfl⟩
  · cases h

theorem Stretch.word_of_parameter? (h : stretch.parameter? word = some parameter) :
    parameter.word = word := by
  have hfound := List.find?_some h
  exact of_decide_eq_true hfound

theorem Stretch.word_of_flag? (h : stretch.flag? word = some flag) : flag.word = word := by
  have hfind : stretch.flags.find? (fun flag ↦ flag.word = word) = some flag := h
  have hfound := List.find?_some hfind
  exact of_decide_eq_true hfound

theorem Stretch.mem_of_parameter? (h : stretch.parameter? word = some parameter) :
    parameter ∈ stretch.parameters :=
  List.mem_of_find?_eq_some h

theorem Stretch.mem_of_flag? (h : stretch.flag? word = some flag) : flag ∈ stretch.flags :=
  List.mem_of_find?_eq_some h

/-- The flag for log lines may stand anywhere. -/
theorem Stretch.logJson_mem_flags (stretch : Stretch) : Flag.logJson ∈ stretch.flags := by
  cases stretch with
  | before => decide
  | after verb => cases verb <;> decide

theorem Look.ofArgument_parameter (parameter : Parameter) :
    Look.ofArgument ('-' :: '-' :: parameter.word) = .long parameter.word none := by
  cases parameter <;> rfl

/-- Parameters of a stretch are told apart by their words. -/
theorem Stretch.parameter_eq_of_word_eq {other : Parameter} (h : parameter ∈ stretch.parameters)
    (hother : other ∈ stretch.parameters) (hword : parameter.word = other.word) :
    parameter = other := by
  have hfound := Stretch.parameter?_word h
  rw [hword, Stretch.parameter?_word hother] at hfound
  exact (Option.some.inj hfound).symm

/-- No parameter of a stretch has the word of a flag. -/
theorem Stretch.word_ne_word (h : parameter ∈ stretch.parameters) (flag : Flag) :
    parameter.word ≠ flag.word := by
  intro hword
  have hnone := stretch.parameter?_word_flag flag
  rw [← hword, Stretch.parameter?_word h] at hnone
  cases hnone

/-- Flags are told apart by their words. -/
theorem Flag.eq_of_word_eq {other : Flag} (hflag : flag ∈ stretch.flags)
    (hother : other ∈ stretch.flags) (hword : flag.word = other.word) : flag = other := by
  have hfound := Stretch.flag?_word hflag
  rw [hword, Stretch.flag?_word hother] at hfound
  exact (Option.some.inj hfound).symm

theorem ne_divider_of_look (h : Look.ofArgument argument ≠ .divider) : argument ≠ ['-', '-'] := by
  rintro rfl
  exact h rfl

theorem given_ne_divider (parameter : Parameter) (value : Text) :
    parameter.given value ≠ ['-', '-'] :=
  ne_divider_of_look (by simp [Look.ofArgument_given])

theorem word_ne_divider (parameter : Parameter) : '-' :: '-' :: parameter.word ≠ ['-', '-'] :=
  ne_divider_of_look (by simp [Look.ofArgument_parameter])

theorem Flag.shown_ne_divider (flag : Flag) : flag.shown ≠ ['-', '-'] :=
  ne_divider_of_look (by simp [Look.ofArgument_shown])

theorem plain_ne_divider (h : Look.ofArgument argument = .plain) : argument ≠ ['-', '-'] :=
  ne_divider_of_look (by simp [h])

/-! ### One way only -/

namespace Spelled

/-- The looks of the first argument tell what it is. -/
theorem uncons (h : Spelled stretch (argument :: rest) values flags operands) :
    match Look.ofArgument argument with
    | .divider => values = [] ∧ flags = [] ∧ operands = rest
    | .long word (some value) => ∃ parameter more, parameter ∈ stretch.parameters ∧
        parameter.word = word ∧ values = (parameter, value) :: more ∧
        Spelled stretch rest more flags operands
    | .long word none =>
        (∃ parameter value later more, parameter ∈ stretch.parameters ∧ parameter.word = word ∧
          rest = value :: later ∧ values = (parameter, value) :: more ∧
          Spelled stretch later more flags operands) ∨
        ∃ flag more, flag ∈ stretch.flags ∧ flag.word = word ∧ flags = flag :: more ∧
          Spelled stretch rest values more operands
    | .letters _ => False
    | .plain => ∃ more, operands = argument :: more ∧ Spelled stretch rest values flags more := by
  cases h with
  | joined hparameter h =>
    rw [Look.ofArgument_given]
    exact ⟨_, _, hparameter, rfl, rfl, h⟩
  | apart hparameter hvalue h =>
    rw [Look.ofArgument_parameter]
    exact Or.inl ⟨_, _, _, _, hparameter, rfl, rfl, rfl, h⟩
  | flag hflag h =>
    rw [Look.ofArgument_shown]
    exact Or.inr ⟨_, _, hflag, rfl, rfl, h⟩
  | operand hoperand h =>
    rw [hoperand]
    exact ⟨_, rfl, h⟩
  | divided => exact ⟨rfl, rfl, rfl⟩

/-- Arguments divide as they do by themselves, whatever stands behind them, and so does what stands
behind them. Behind a divider there may be nothing here. The induction is on how the arguments in
front divide. -/
theorem exists_of_append (h : Spelled stretch given values flags operands)
    (hmore : ['-', '-'] ∈ given → more = [])
    (hall : Spelled stretch (given ++ more) values' flags' operands') :
    ∃ laterValues laterFlags laterOperands, values' = values ++ laterValues ∧
      flags' = flags ++ laterFlags ∧ operands' = operands ++ laterOperands ∧
      Spelled stretch more laterValues laterFlags laterOperands := by
  induction h generalizing values' flags' operands' with
  | nothing => exact ⟨_, _, _, rfl, rfl, rfl, hall⟩
  | joined hparameter _ ih =>
    have hfirst := hall.uncons
    rw [Look.ofArgument_given] at hfirst
    obtain ⟨other, later, hother, hword, rfl, hrest⟩ := hfirst
    obtain rfl := Stretch.parameter_eq_of_word_eq hother hparameter hword
    obtain ⟨_, _, _, rfl, rfl, rfl, hlater⟩ :=
      ih (fun hmem ↦ hmore (List.mem_cons_of_mem _ hmem)) hrest
    exact ⟨_, _, _, rfl, rfl, rfl, hlater⟩
  | apart hparameter _ _ ih =>
    have hfirst := hall.uncons
    rw [Look.ofArgument_parameter] at hfirst
    rcases hfirst with ⟨other, value, later, laterValues, hother, hword, hvalue, rfl, hrest⟩ |
      ⟨flag, later, -, hword, -, -⟩
    · obtain rfl := Stretch.parameter_eq_of_word_eq hother hparameter hword
      obtain ⟨rfl, rfl⟩ := List.cons.inj hvalue
      obtain ⟨_, _, _, rfl, rfl, rfl, hlater⟩ :=
        ih (fun hmem ↦ hmore (List.mem_cons_of_mem _ (List.mem_cons_of_mem _ hmem))) hrest
      exact ⟨_, _, _, rfl, rfl, rfl, hlater⟩
    · exact absurd hword.symm (Stretch.word_ne_word hparameter flag)
  | flag hflag _ ih =>
    have hfirst := hall.uncons
    rw [Look.ofArgument_shown] at hfirst
    rcases hfirst with ⟨parameter, value, later, laterValues, hparameter, hword, -, -, -⟩ |
      ⟨other, later, hother, hword, rfl, hrest⟩
    · exact absurd hword (Stretch.word_ne_word hparameter _)
    · obtain rfl := Flag.eq_of_word_eq hother hflag hword
      obtain ⟨_, _, _, rfl, rfl, rfl, hlater⟩ :=
        ih (fun hmem ↦ hmore (List.mem_cons_of_mem _ hmem)) hrest
      exact ⟨_, _, _, rfl, rfl, rfl, hlater⟩
  | operand hoperand _ ih =>
    have hfirst := hall.uncons
    rw [hoperand] at hfirst
    obtain ⟨later, rfl, hrest⟩ := hfirst
    obtain ⟨_, _, _, rfl, rfl, rfl, hlater⟩ :=
      ih (fun hmem ↦ hmore (List.mem_cons_of_mem _ hmem)) hrest
    exact ⟨_, _, _, rfl, rfl, rfl, hlater⟩
  | divided operands =>
    obtain rfl := hmore List.mem_cons_self
    obtain ⟨rfl, rfl, rfl⟩ := hall.uncons
    exact ⟨[], [], [], rfl, rfl, rfl, .nothing⟩

/-- Arguments divide in one way only. -/
theorem unique (h : Spelled stretch given values flags operands)
    (h' : Spelled stretch given values' flags' operands') :
    values' = values ∧ flags' = flags ∧ operands' = operands := by
  rw [← List.append_nil given] at h'
  obtain ⟨_, _, _, rfl, rfl, rfl, hnothing⟩ := h.exists_of_append (fun _ ↦ rfl) h'
  cases hnothing
  exact ⟨List.append_nil _, List.append_nil _, List.append_nil _⟩

/-- The verb is the first operand of the program: arguments without operands in front of it end at
one place only. -/
theorem verb_unique {front front' : List Text} {verb verb' : Verb}
    (h : Spelled .before front values flags []) (h' : Spelled .before front' values' flags' [])
    (hdivider : ['-', '-'] ∉ front) (hdivider' : ['-', '-'] ∉ front')
    (heq : front ++ verb.word :: given = front' ++ verb'.word :: more) :
    front = front' ∧ verb.word = verb'.word ∧ given = more := by
  have hshorter {front between : List Text} {verb : Verb} {values values' : List (Parameter × Text)}
      {flags flags' : List Flag} (h : Spelled .before front values flags [])
      (hdivider : ['-', '-'] ∉ front) :
      ¬ Spelled .before (front ++ verb.word :: between) values' flags' [] := by
    intro hall
    obtain ⟨_, _, operands, -, -, hnone, hrest⟩ :=
      h.exists_of_append (fun hmem ↦ absurd hmem hdivider) hall
    have hfirst := hrest.uncons
    rw [Look.ofArgument_word] at hfirst
    obtain ⟨later, rfl, -⟩ := hfirst
    cases hnone
  rcases List.append_eq_append_iff.mp heq with ⟨between, rfl, hrest⟩ | ⟨between, rfl, hrest⟩
  · cases between with
    | nil =>
      obtain ⟨hverb, hgiven⟩ := List.cons.inj hrest
      exact ⟨(List.append_nil _).symm, hverb, hgiven⟩
    | cons argument between =>
      obtain ⟨rfl, -⟩ := List.cons.inj hrest
      exact absurd h' (hshorter h hdivider)
  · cases between with
    | nil =>
      obtain ⟨hverb, hgiven⟩ := List.cons.inj hrest
      exact ⟨List.append_nil _, hverb.symm, hgiven.symm⟩
    | cons argument between =>
      obtain ⟨rfl, -⟩ := List.cons.inj hrest
      exact absurd h (hshorter h' hdivider')

/-! ### More arguments -/

/-- Arguments behind others divide as by themselves, unless there is a divider in front of them. -/
theorem append (h : Spelled stretch given values flags operands) (hdivider : ['-', '-'] ∉ given)
    (hmore : Spelled stretch more values' flags' operands') :
    Spelled stretch (given ++ more) (values ++ values') (flags ++ flags')
      (operands ++ operands') := by
  induction h with
  | nothing => exact hmore
  | joined hparameter _ ih => exact .joined hparameter (ih (List.not_mem_of_not_mem_cons hdivider))
  | apart hparameter hvalue _ ih =>
    have hrest := List.not_mem_of_not_mem_cons (List.not_mem_of_not_mem_cons hdivider)
    exact .apart hparameter hvalue (ih hrest)
  | flag hflag _ ih => exact .flag hflag (ih (List.not_mem_of_not_mem_cons hdivider))
  | operand hoperand _ ih => exact .operand hoperand (ih (List.not_mem_of_not_mem_cons hdivider))
  | divided operands => exact absurd List.mem_cons_self hdivider

/-- One more argument behind the divider is one more operand. -/
theorem concat (h : Spelled stretch given values flags operands) (hdivider : ['-', '-'] ∈ given)
    (argument : Text) :
    Spelled stretch (given ++ [argument]) values flags (operands ++ [argument]) := by
  induction h with
  | nothing => cases hdivider
  | joined hparameter _ ih =>
    exact .joined hparameter (ih (List.mem_of_ne_of_mem (given_ne_divider _ _).symm hdivider))
  | apart hparameter hvalue _ ih =>
    have hvalues := List.mem_of_ne_of_mem (word_ne_divider _).symm hdivider
    exact .apart hparameter hvalue
      (ih (List.mem_of_ne_of_mem (plain_ne_divider hvalue).symm hvalues))
  | flag hflag _ ih =>
    exact .flag hflag (ih (List.mem_of_ne_of_mem (Flag.shown_ne_divider _).symm hdivider))
  | operand hoperand _ ih =>
    exact .operand hoperand (ih (List.mem_of_ne_of_mem (plain_ne_divider hoperand).symm hdivider))
  | divided operands => exact .divided (operands ++ [argument])

/-! ### Flags in front of the divider -/

theorem undivided_cons (h : argument ≠ ['-', '-']) (given : List Text) :
    undivided (argument :: given) = argument :: undivided given :=
  List.takeWhile_cons_of_pos (decide_eq_true h)

/-- The flags are those that stand in front of the divider. -/
theorem mem_flags_iff (h : Spelled stretch given values flags operands) :
    ∀ flag ∈ stretch.flags, (flag ∈ flags ↔ flag.shown ∈ undivided given) := by
  intro flag hflag
  -- a flag is shown by an argument only if the argument looks like it
  have hne (argument : Text) (hlook : Look.ofArgument argument ≠ .long flag.word none) :
      flag.shown ≠ argument := by
    rintro rfl
    exact hlook (Look.ofArgument_shown flag)
  induction h with
  | nothing => simp [undivided]
  | @joined parameter value _ _ _ _ hparameter _ ih =>
    have hfirst := hne (parameter.given value) (by simp [Look.ofArgument_given])
    rw [undivided_cons (given_ne_divider _ _), List.mem_cons, or_iff_right hfirst]
    exact ih
  | @apart parameter value _ _ _ _ hparameter hvalue _ ih =>
    have hword := Stretch.word_ne_word hparameter flag
    have hfirst := hne ('-' :: '-' :: parameter.word) (by simp [Look.ofArgument_parameter, hword])
    have hsecond := hne value (by simp [hvalue])
    rw [undivided_cons (word_ne_divider _), List.mem_cons, or_iff_right hfirst,
      undivided_cons (plain_ne_divider hvalue), List.mem_cons, or_iff_right hsecond]
    exact ih
  | flag hother _ ih =>
    rw [undivided_cons (Flag.shown_ne_divider _), List.mem_cons, List.mem_cons]
    refine or_congr ⟨congrArg Flag.shown, fun hshown ↦ ?_⟩ ih
    exact Flag.eq_of_word_eq hflag hother (List.append_cancel_left hshown)
  | @operand operand _ _ _ _ hoperand _ ih =>
    have hfirst := hne operand (by simp [hoperand])
    rw [undivided_cons (plain_ne_divider hoperand), List.mem_cons, or_iff_right hfirst]
    exact ih
  | divided operands => simp [undivided]

end Spelled

end WorkloadNames.CommandLine
