import WorkloadNames.Proofs.CommandLine.Provenance

/-!
Two readings side by side, one with the flag for log lines in JSON and one without. The flag means
nothing to the rest of the command line: one argument after the other, both readings hold the same
but for the flag. They may differ in one more thing, and not for long. A value is settled late, with
the next argument that has a meaning of its own, and the flag is one; so the reading that comes
across it may have settled a value which the other one still has pending.
-/

set_option autoImplicit false
set_option relaxedAutoImplicit false

namespace WorkloadNames.CommandLine

variable {stretch : Stretch} {reading other next : Reading} {parameter : Parameter} {flag : Flag}
  {argument value word : Text} {arguments rest : List Text} {divided : Bool}

/-- The arguments without the flag for log lines in JSON. Behind the divider the same word is an
operand and stays. -/
def withoutLogJson : List Text → List Text
  | [] => []
  | argument :: rest =>
    if argument = ['-', '-'] then argument :: rest
    else if argument = Flag.logJson.shown then withoutLogJson rest
    else argument :: withoutLogJson rest

theorem withoutLogJson_cons (hdivider : argument ≠ ['-', '-'])
    (hflag : argument ≠ Flag.logJson.shown) (rest : List Text) :
    withoutLogJson (argument :: rest) = argument :: withoutLogJson rest := by
  rw [withoutLogJson, if_neg hdivider, if_neg hflag]

theorem exists_of_map_eq_ok {α β : Type} {found : Except Halt α} {f : α → β} {result : β}
    (h : found.map f = .ok result) : ∃ value, found = .ok value ∧ f value = result := by
  cases found with
  | error halt => cases h
  | ok value => exact ⟨value, rfl, Except.ok.inj h⟩

namespace Reading

/-- What has been read, but for the flag. -/
def muted (reading : Reading) : Reading :=
  { reading with flags := reading.flags.filter (· ≠ .logJson) }

/-! ### Settling -/

theorem kept_of_give (h : reading.give parameter value = .ok next) :
    next.pending? = reading.pending? ∧ next.operands = reading.operands := by
  obtain ⟨-, -, rfl⟩ := give_eq_ok_iff.mp h
  exact ⟨rfl, rfl⟩

theorem kept_of_settle (h : reading.settle = .ok next) :
    next.pending? = none ∧ next.operands = reading.operands := by
  rcases settle_eq_ok_iff.mp h with ⟨hpending, rfl⟩ | ⟨parameter, value, -, hgive⟩
  · exact ⟨hpending, rfl⟩
  · exact kept_of_give hgive

theorem waiting?_of_settle (h : reading.settle = .ok next) : reading.waiting? = none := by
  unfold Reading.waiting?
  rcases settle_eq_ok_iff.mp h with ⟨hpending, -⟩ | ⟨parameter, value, hpending, -⟩
  · rw [hpending]
    rfl
  · rw [hpending]
    rfl

theorem waiting?_of_pending? (h : reading.pending? = none) : reading.waiting? = none := by
  rw [waiting?, h]
  rfl

theorem give_muted (reading : Reading) (parameter : Parameter) (value : Text) :
    reading.muted.give parameter value = (reading.give parameter value).map muted := by
  have hvalue : reading.muted.value? parameter = reading.value? parameter := rfl
  unfold Reading.give
  rw [hvalue]
  split
  · rfl
  · split
    · rfl
    · rfl

theorem settle_muted (reading : Reading) :
    reading.muted.settle = reading.settle.map muted := by
  have hpending : reading.muted.pending? = reading.pending? := rfl
  unfold Reading.settle
  rw [hpending]
  split
  · rfl
  · rfl
  · exact give_muted { reading with pending? := none } _ _

theorem operands_of_muted (h : other.muted = reading.muted) :
    other.operands = reading.operands := by
  have hoperands := congrArg Reading.operands h
  exact hoperands

theorem waiting?_of_muted (h : other.muted = reading.muted) :
    other.waiting? = reading.waiting? := by
  have hwaiting := congrArg Reading.waiting? h
  exact hwaiting

theorem exists_give_of_muted (h : other.muted = reading.muted)
    (hgive : reading.give parameter value = .ok next) :
    ∃ after, other.give parameter value = .ok after ∧ after.muted = next.muted := by
  refine exists_of_map_eq_ok ?_
  rw [← give_muted, h, give_muted, hgive]
  rfl

theorem exists_settle_of_muted (h : other.muted = reading.muted)
    (hsettle : reading.settle = .ok next) :
    ∃ after, other.settle = .ok after ∧ after.muted = next.muted := by
  refine exists_of_map_eq_ok ?_
  rw [← settle_muted, h, settle_muted, hsettle]
  rfl

/-! ### Two readings side by side -/

/-- Two readings hold the same but for the flag, or will do so as soon as one of them has settled
what the other one has settled already. -/
inductive Abreast (reading other : Reading) : Prop where
  | level (h : other.muted = reading.muted)
  | ahead {settled : Reading} (h : reading.pending? = none) (hsettle : other.settle = .ok settled)
      (hmuted : settled.muted = reading.muted)
  | behind {settled : Reading} (h : other.pending? = none)
      (hsettle : reading.settle = .ok settled) (hmuted : settled.muted = other.muted)

namespace Abreast

theorem symm (h : Abreast reading other) : Abreast other reading := by
  cases h with
  | level hlevel => exact .level hlevel.symm
  | ahead hpending hsettle hmuted => exact .behind hpending hsettle hmuted
  | behind hpending hsettle hmuted => exact .ahead hpending hsettle hmuted

theorem settle (h : Abreast reading other) (hsettle : reading.settle = .ok next) :
    ∃ after, other.settle = .ok after ∧ after.muted = next.muted := by
  cases h with
  | level hlevel => exact exists_settle_of_muted hlevel hsettle
  | ahead hpending hother hmuted =>
    rw [settle_eq_ok hpending] at hsettle
    obtain rfl := Except.ok.inj hsettle
    exact ⟨_, hother, hmuted⟩
  | behind hpending hreading hmuted =>
    rw [hreading] at hsettle
    obtain rfl := Except.ok.inj hsettle
    exact ⟨other, settle_eq_ok hpending, hmuted.symm⟩

theorem operands (h : Abreast reading other) : other.operands = reading.operands := by
  cases h with
  | level hlevel => exact operands_of_muted hlevel
  | ahead hpending hsettle hmuted =>
    exact (kept_of_settle hsettle).2.symm.trans (operands_of_muted hmuted)
  | behind hpending hsettle hmuted =>
    exact (operands_of_muted hmuted).symm.trans (kept_of_settle hsettle).2

/-- A parameter that waits for its value does so in both. -/
theorem waiting? (h : Abreast reading other) : other.waiting? = reading.waiting? := by
  cases h with
  | level hlevel => exact waiting?_of_muted hlevel
  | ahead hpending hsettle hmuted =>
    rw [waiting?_of_settle hsettle, waiting?_of_pending? hpending]
  | behind hpending hsettle hmuted =>
    rw [waiting?_of_settle hsettle, waiting?_of_pending? hpending]

theorem muted_eq (h : Abreast reading other) (hwaiting : reading.waiting? ≠ none) :
    other.muted = reading.muted := by
  cases h with
  | level hlevel => exact hlevel
  | ahead hpending hsettle hmuted => exact absurd (waiting?_of_pending? hpending) hwaiting
  | behind hpending hsettle hmuted => exact absurd (waiting?_of_settle hsettle) hwaiting

end Abreast

/-! ### One argument -/

/-- The flag itself only settles what is pending. -/
theorem Abreast.raise_logJson (h : Abreast reading other)
    (hraise : reading.raise .logJson = .ok next) : Abreast next other := by
  obtain ⟨-, settled, hsettle, -, rfl⟩ := raise_eq_ok_iff.mp hraise
  obtain ⟨after, hafter, hmuted⟩ := h.settle hsettle
  refine .ahead (kept_of_settle hsettle).1 hafter ?_
  rw [hmuted]
  simp [muted]

theorem long_logJson (stretch : Stretch) (reading : Reading) :
    reading.long stretch Flag.logJson.word none = reading.raise .logJson := by
  unfold Reading.long
  rw [Stretch.parameter?_word_flag, Stretch.flag?_word stretch.logJson_mem_flags]

theorem label_mem_iff_of_muted (h : other.muted = reading.muted) :
    Flag.label ∈ other.flags ↔ Flag.label ∈ reading.flags := by
  have hkeeps : ∀ reading : Reading, Flag.label ∈ reading.muted.flags ↔ .label ∈ reading.flags := by
    intro reading
    simp [muted]
  rw [← hkeeps, h, hkeeps]

theorem Abreast.raise_label (h : Abreast reading other)
    (hraise : reading.raise .label = .ok next) :
    ∃ after, other.raise .label = .ok after ∧ after.muted = next.muted := by
  obtain ⟨hkind, settled, hsettle, hnew, rfl⟩ := raise_eq_ok_iff.mp hraise
  obtain ⟨after, hafter, hmuted⟩ := h.settle hsettle
  have hraised : ∀ reading : Reading, muted { reading with flags := reading.flags ++ [.label] } =
      { reading.muted with flags := reading.muted.flags ++ [.label] } := by
    intro reading
    simp [muted]
  refine ⟨{ after with flags := after.flags ++ [.label] }, ?_, ?_⟩
  · have hnone : Flag.label ∉ after.flags := mt (label_mem_iff_of_muted hmuted).mp hnew
    exact raise_eq_ok_iff.mpr ⟨hkind, after, hafter, hnone, rfl⟩
  · rw [hraised, hraised, hmuted]

/-- A long argument that is not the flag. -/
theorem Abreast.long {value? : Option Text} (h : Abreast reading other)
    (hlook : Look.ofArgument argument = .long word value?)
    (hother : argument ≠ Flag.logJson.shown)
    (hlong : reading.long stretch word value? = .ok next) :
    ∃ after, other.long stretch word value? = .ok after ∧ after.muted = next.muted := by
  cases long_eq_ok_iff.mp hlong with
  | joined hparameter hsettle hgive =>
    obtain ⟨after, hafter, hmuted⟩ := h.settle hsettle
    obtain ⟨given, hgiven, hnext⟩ := exists_give_of_muted hmuted hgive
    exact ⟨given, long_eq_ok_iff.mpr (.joined hparameter hafter hgiven), hnext⟩
  | @waits parameter settled hparameter hsettle =>
    obtain ⟨after, hafter, hmuted⟩ := h.settle hsettle
    refine ⟨_, long_eq_ok_iff.mpr (.waits hparameter hafter), ?_⟩
    exact congrArg (fun reading : Reading ↦
      { reading with pending? := some ⟨parameter, none⟩ }) hmuted
  | @raised flag _ hnone hflag hraise =>
    obtain rfl := Stretch.word_of_flag? hflag
    have hargument := Look.eq_of_ofArgument_eq_long hlook
    rw [Option.elim_none, List.append_nil] at hargument
    rcases (raise_eq_ok_iff.mp hraise).1 with rfl | rfl
    · exact absurd hargument hother
    · obtain ⟨after, hafter, hmuted⟩ := h.raise_label hraise
      exact ⟨after, long_eq_ok_iff.mpr (.raised hnone hflag hafter), hmuted⟩

theorem Abreast.operand (h : Abreast reading other)
    (hoperand : reading.operand stretch divided argument = .ok next) :
    ∃ after, other.operand stretch divided argument = .ok after ∧ after.muted = next.muted := by
  obtain ⟨hroom, settled, hsettle, rfl⟩ := operand_eq_ok_iff.mp hoperand
  obtain ⟨after, hafter, hmuted⟩ := h.settle hsettle
  rw [← h.operands] at hroom
  refine ⟨_, operand_eq_ok_iff.mpr ⟨hroom, after, hafter, rfl⟩, ?_⟩
  exact congrArg (fun reading : Reading ↦
    { reading with operands := reading.operands ++ [argument] }) hmuted

/-- The flag only settles what is pending, so the reading without it need not read on. -/
theorem Abreast.passes_logJson {later : Bool} (h : Abreast reading other)
    (hpasses : Passes stretch reading Flag.logJson.shown false later next) :
    later = false ∧ Abreast next other := by
  cases hpasses with
  | divider hargument => exact absurd hargument (Flag.shown_ne_divider .logJson)
  | long hlook hlong =>
    obtain ⟨rfl, rfl⟩ := Look.long.inj ((Look.ofArgument_shown .logJson).symm.trans hlook)
    rw [long_logJson] at hlong
    exact ⟨rfl, h.raise_logJson hlong⟩
  | awaited hlook hwaiting => cases (Look.ofArgument_shown .logJson).symm.trans hlook
  | operand hlook hwaiting hgoes hoperand =>
    cases (Look.ofArgument_shown .logJson).symm.trans hlook

/-- Any other argument is passed by both, and so is the flag behind the divider. -/
theorem Abreast.passes {later : Bool} (h : Abreast reading other)
    (hpasses : Passes stretch reading argument divided later next)
    (hother : divided = false → argument ≠ Flag.logJson.shown) :
    ∃ after, Passes stretch other argument divided later after ∧ Abreast next after := by
  cases hpasses with
  | divided hoperand =>
    obtain ⟨after, hafter, hmuted⟩ := h.operand hoperand
    exact ⟨after, .divided hafter, .level hmuted⟩
  | divider hargument => exact ⟨other, .divider hargument, h⟩
  | long hlook hlong =>
    obtain ⟨after, hafter, hmuted⟩ := h.long hlook (hother rfl) hlong
    exact ⟨after, .long hlook hafter, .level hmuted⟩
  | awaited hlook hwaiting =>
    rename_i parameter
    have hmuted := h.muted_eq (by simp [hwaiting])
    refine ⟨_, .awaited hlook (h.waiting?.trans hwaiting), .level ?_⟩
    exact congrArg (fun reading : Reading ↦
      { reading with pending? := some ⟨parameter, some argument⟩ }) hmuted
  | operand hlook hwaiting hgoes hoperand =>
    obtain ⟨after, hafter, hmuted⟩ := h.operand hoperand
    exact ⟨after, .operand hlook (h.waiting?.trans hwaiting) hgoes hafter, .level hmuted⟩

/-! ### All arguments -/

theorem Passes.ne_divider (h : Passes stretch reading argument false false next) :
    argument ≠ ['-', '-'] := by
  rintro rfl
  cases h with
  | long hlook hlong => cases hlook
  | awaited hlook hwaiting => cases hlook
  | operand hlook hwaiting hgoes hoperand => cases hlook

/-- What is left out of the arguments is left out behind an argument that is passed. -/
theorem Passes.withoutLogJson_cons {later : Bool}
    (h : Passes stretch reading argument divided later next)
    (hother : divided = false → argument ≠ Flag.logJson.shown) (rest : List Text) :
    (if divided then argument :: rest else withoutLogJson (argument :: rest)) =
      argument :: if later then rest else withoutLogJson rest := by
  cases divided with
  | true =>
    cases h
    rfl
  | false =>
    cases later with
    | true =>
      cases h with
      | divider hargument =>
        subst hargument
        rfl
    | false => exact CommandLine.withoutLogJson_cons h.ne_divider (hother rfl) rest

/-- Reading without the flag keeps up with reading, argument by argument, and ends where it does.
The induction is on the arguments that are left. -/
theorem Abreast.read {ending : Ending} (h : Abreast reading other)
    (hread : read stretch divided reading arguments = .ok (next, ending)) :
    ∃ after, read stretch divided other
        (if divided then arguments else withoutLogJson arguments) =
          .ok (after, ending.map withoutLogJson) ∧ Abreast next after := by
  induction arguments generalizing divided reading other with
  | nil =>
    obtain ⟨rfl, rfl⟩ := Prod.mk.inj (Except.ok.inj hread)
    refine ⟨other, ?_, h⟩
    rw [withoutLogJson, ite_self]
    rfl
  | cons argument rest ih =>
    rcases passes_or_ends hread with ⟨later, taken, hpasses, hread⟩ | ⟨rfl, rfl, hends⟩
    · -- the reading without the flag stays where it is while the other one passes the flag
      by_cases hflag : divided = false ∧ argument = Flag.logJson.shown
      · obtain ⟨rfl, rfl⟩ := hflag
        obtain ⟨rfl, habreast⟩ := h.passes_logJson hpasses
        exact ih habreast hread
      · have hother : divided = false → argument ≠ Flag.logJson.shown := not_and.mp hflag
        obtain ⟨taken', hpasses', habreast⟩ := h.passes hpasses hother
        rw [hpasses.withoutLogJson_cons hother, hpasses'.read_cons]
        exact ih habreast hread
    · have hdivider : argument ≠ ['-', '-'] := by
        rintro rfl
        cases hends.look
      have hother : argument ≠ Flag.logJson.shown := by
        rintro rfl
        cases (Look.ofArgument_shown .logJson).symm.trans hends.look
      have hends' : Ends stretch other argument (withoutLogJson rest)
          (ending.map withoutLogJson) := by
        refine ⟨hends.look, h.waiting?.trans hends.waiting, ?_⟩
        rw [ending?_map, hends.ends]
        rfl
      rw [if_neg Bool.false_ne_true, withoutLogJson_cons hdivider hother]
      exact ⟨other, hends'.read_cons, h⟩

end Reading

end WorkloadNames.CommandLine
