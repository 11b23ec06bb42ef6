import WorkloadNames.Proofs.CommandLine.Abreast

/-!
The flag for log lines in JSON and what a command line asks for. A command line that can be read
with the flag can be read without it and asks for the same. The converse needs a place for the flag:
in front of the divider, not in the place of a value, and not a second time. Wherever there is one,
before the command or after it, the flag can be added.
-/

set_option autoImplicit false
set_option relaxedAutoImplicit false

namespace WorkloadNames.CommandLine

variable {stretch : Stretch} {reading other next : Reading} {argument : Text}
  {arguments given front back rest : List Text} {divided : Bool}

/-! ### Places for the flag -/

theorem withoutLogJson_sublist (arguments : List Text) :
    (withoutLogJson arguments).Sublist arguments := by
  induction arguments with
  | nil => exact List.Sublist.refl []
  | cons argument rest ih =>
    unfold withoutLogJson
    split
    · exact List.Sublist.refl _
    · split
      · exact ih.cons argument
      · exact ih.cons_cons argument

/-- Where nothing is left out, the flag is not the first argument, nor is it left out further on. -/
theorem ne_and_eq_of_withoutLogJson_cons (hdivider : argument ≠ ['-', '-'])
    (h : withoutLogJson (argument :: rest) = argument :: rest) :
    argument ≠ Flag.logJson.shown ∧ withoutLogJson rest = rest := by
  by_cases hflag : argument = Flag.logJson.shown
  · rw [withoutLogJson, if_neg hdivider, if_pos hflag] at h
    have hlength := (withoutLogJson_sublist rest).length_le
    rw [h, List.length_cons] at hlength
    omega
  · rw [withoutLogJson_cons hdivider hflag] at h
    exact ⟨hflag, (List.cons.inj h).2⟩

theorem withoutLogJson_of_append (h : ['-', '-'] ∉ front)
    (hnone : withoutLogJson (front ++ rest) = front ++ rest) : withoutLogJson rest = rest := by
  induction front with
  | nil => exact hnone
  | cons argument front ih =>
    have hdivider : argument ≠ ['-', '-'] := fun heq ↦ h (heq ▸ List.mem_cons_self)
    have hdivided : ['-', '-'] ∉ front := fun hmem ↦ h (List.mem_cons_of_mem argument hmem)
    exact ih hdivided (ne_and_eq_of_withoutLogJson_cons hdivider hnone).2

/-- Behind some arguments there is a place for an argument of its own: it stands in front of the
divider and is not taken for the value of a parameter. -/
structure IsPlace (front : List Text) : Prop where
  undivided : ['-', '-'] ∉ front
  free : ∀ parameter : Parameter, front.getLast? ≠ some ('-' :: '-' :: parameter.word)

theorem IsPlace.of_suffix (h : IsPlace front) {later : List Text} (hlater : later <:+ front) :
    IsPlace later := by
  refine ⟨fun hmem ↦ h.undivided (hlater.subset hmem), fun parameter hlast ↦ ?_⟩
  obtain ⟨before, rfl⟩ := hlater
  refine h.free parameter ?_
  rw [List.getLast?_append, hlast, Option.some_or]

/-- One ending stands for another as the flag is added between some arguments: it has been passed,
or it is left unread with what is left of the arguments in front. -/
inductive Ending.Added (front back : List Text) : Ending → Ending → Prop where
  | passed (ending : Ending) : Ending.Added front back ending (ending.map withoutLogJson)
  | unread (verb : Verb) {later : List Text} (h : later <:+ front) :
    Ending.Added front back (.verb verb (later ++ back))
      (.verb verb (later ++ Flag.logJson.shown :: back))

theorem Ending.Added.cons {ending found : Ending} (h : Ending.Added front back ending found)
    (argument : Text) : Ending.Added (argument :: front) back ending found := by
  cases h with
  | passed => exact .passed ending
  | unread verb hlater => exact .unread verb (hlater.trans (List.suffix_cons argument front))

namespace Reading

/-- An argument that is passed settles what is pending, unless it is the divider. -/
theorem Passes.eq_or_exists_settle {later : Bool} (hwaiting : reading.waiting? = none)
    (h : Passes stretch reading argument divided later next) :
    next = reading ∨ ∃ settled, reading.settle = .ok settled := by
  cases h with
  | divided hoperand =>
    obtain ⟨-, settled, hsettle, -⟩ := operand_eq_ok_iff.mp hoperand
    exact Or.inr ⟨settled, hsettle⟩
  | divider hargument => exact Or.inl rfl
  | long hlook hlong =>
    cases long_eq_ok_iff.mp hlong with
    | joined _ hsettle => exact Or.inr ⟨_, hsettle⟩
    | waits _ hsettle => exact Or.inr ⟨_, hsettle⟩
    | raised _ _ hraise =>
      obtain ⟨-, settled, hsettle, -⟩ := raise_eq_ok_iff.mp hraise
      exact Or.inr ⟨settled, hsettle⟩
  | awaited hlook hparameter => cases hwaiting.symm.trans hparameter
  | operand hlook hwaiting hgoes hoperand =>
    obtain ⟨-, settled, hsettle, -⟩ := operand_eq_ok_iff.mp hoperand
    exact Or.inr ⟨settled, hsettle⟩

/-- What is pending can be settled at once if it can be settled later. -/
theorem exists_settle_of_read {ending : Ending} {settled : Reading}
    (hwaiting : reading.waiting? = none)
    (hread : read stretch divided reading arguments = .ok (next, ending))
    (hsettle : next.settle = .ok settled) : ∃ settled, reading.settle = .ok settled := by
  induction arguments generalizing divided with
  | nil =>
    obtain ⟨rfl, -⟩ := Prod.mk.inj (Except.ok.inj hread)
    exact ⟨settled, hsettle⟩
  | cons argument rest ih =>
    rcases passes_or_ends hread with ⟨later, taken, hpasses, hrest⟩ | ⟨-, rfl, hends⟩
    · rcases hpasses.eq_or_exists_settle hwaiting with rfl | hsettled
      · exact ih hrest
      · exact hsettled
    · exact ⟨settled, hsettle⟩

/-- Where an argument of its own may stand, nothing waits for a value. -/
theorem Drawn.waiting?_of_isPlace (h : Drawn stretch given false reading) (hplace : IsPlace given) :
    reading.waiting? = none := by
  cases hwaiting : reading.waiting? with
  | none => rfl
  | some parameter =>
    obtain ⟨-, before, rfl, -⟩ := h.waiting parameter hwaiting rfl
    exact absurd List.getLast?_concat (hplace.free parameter)

/-- A flag that has not been given has not been raised. -/
theorem Settled.logJson_not_mem (h : Settled stretch given reading)
    (hgiven : Flag.logJson.shown ∉ given) : Flag.logJson ∉ reading.flags := by
  intro hmem
  have hshown := (h.spelled.mem_flags_iff .logJson stretch.logJson_mem_flags).mp hmem
  exact hgiven ((List.takeWhile_sublist _).subset hshown)

/-- The flag can be added at a place for it. What is read in front of the place is read as before,
and what comes behind it is read abreast. The induction is on the arguments in front. -/
theorem exists_read_added {ending : Ending} {settled : Reading}
    (h : Drawn stretch given false reading)
    (hgiven : Flag.logJson.shown ∉ given) (hplace : IsPlace (given ++ front))
    (hnone : withoutLogJson (front ++ back) = front ++ back)
    (hread : read stretch false reading (front ++ back) = .ok (next, ending))
    (hsettle : next.settle = .ok settled) (hhelp : ∀ rest, ending ≠ .help rest) :
    ∃ after found, read stretch false reading (front ++ Flag.logJson.shown :: back) =
      .ok (after, found) ∧ Abreast next after ∧ Ending.Added front back ending found := by
  induction front generalizing given reading with
  | nil =>
    rw [List.append_nil] at hplace
    -- nothing waits for a value here, and what is pending is settled sooner or later anyway
    obtain ⟨settled, hreading⟩ :=
      exists_settle_of_read (h.waiting?_of_isPlace hplace) hread hsettle
    have hnew := (h.settle hreading).logJson_not_mem hgiven
    have hraise : reading.raise .logJson =
        .ok { settled with flags := settled.flags ++ [.logJson] } :=
      raise_eq_ok_iff.mpr ⟨Or.inl rfl, settled, hreading, hnew, rfl⟩
    obtain ⟨after, hafter, habreast⟩ := (Abreast.raise_logJson (.level rfl) hraise).symm.read hread
    rw [if_neg Bool.false_ne_true, hnone] at hafter
    refine ⟨after, _, ?_, habreast, .passed ending⟩
    rw [List.nil_append, Reading.read, if_neg Bool.false_ne_true, Look.ofArgument_shown]
    simp only [long_logJson, hraise, ok_bind]
    exact hafter
  | cons argument front ih =>
    have hdivider : argument ≠ ['-', '-'] := by
      rintro rfl
      exact hplace.undivided (by simp)
    obtain ⟨hflag, hnone⟩ := ne_and_eq_of_withoutLogJson_cons hdivider hnone
    rw [List.cons_append] at hread ⊢
    rcases passes_or_ends hread with ⟨later, taken, hpasses, hread⟩ | ⟨-, rfl, hends⟩
    · have hdrawn := h.passes hpasses
      rw [List.append_cons] at hplace
      have hlater : later = false := by
        rw [← Bool.not_eq_true, hdrawn.divider]
        exact fun hmem ↦ hplace.undivided (List.mem_append_left front hmem)
      subst hlater
      have hpassed : Flag.logJson.shown ∉ given ++ [argument] := by
        simp [hgiven, hflag.symm]
      obtain ⟨after, found, hafter, habreast, hadded⟩ := ih hdrawn hpassed hplace hnone hread
      rw [hpasses.read_cons]
      exact ⟨after, found, hafter, habreast, hadded.cons argument⟩
    · -- the command stands in front of the place, so the flag is among what it leaves unread
      cases ending with
      | line => cases unread_of_ending? hends.ends
      | help rest => exact absurd rfl (hhelp rest)
      | verb verb rest =>
        obtain rfl : rest = front ++ back := (List.cons.inj (unread_of_ending? hends.ends)).2
        have hends' : Ends stretch next argument (front ++ Flag.logJson.shown :: back)
            (.verb verb (front ++ Flag.logJson.shown :: back)) := by
          refine ⟨hends.look, hends.waiting, ?_⟩
          have hmap := ending?_map (fun _ ↦ front ++ Flag.logJson.shown :: back) stretch argument
            (front ++ back)
          rwa [hends.ends] at hmap
        exact ⟨next, _, hends'.read_cons, .level rfl,
          .unread verb (List.suffix_cons argument front)⟩

/-! ### What is asked for -/

theorem checkConfig_of_muted (h : other.muted = reading.muted) (environment? : Option Text) :
    other.checkConfig environment? = reading.checkConfig environment? := by
  have hcheck := congrArg (fun reading ↦ Reading.checkConfig reading environment?) h
  exact hcheck

theorem value?_of_muted (h : other.muted = reading.muted) (parameter : Parameter) :
    other.value? parameter = reading.value? parameter := by
  have hvalue := congrArg (fun reading ↦ Reading.value? reading parameter) h
  exact hvalue

theorem command?_of_muted (h : other.muted = reading.muted) (verb : Verb) :
    other.command? verb = reading.command? verb := by
  have hlabel : decide (Flag.label ∈ other.flags) = decide (Flag.label ∈ reading.flags) :=
    decide_eq_decide.mpr (label_mem_iff_of_muted h)
  cases verb with
  | check => simp only [command?, operands_of_muted h, hlabel]
  | nameInstance => simp only [command?, operands_of_muted h, value?_of_muted h]
  | _ => simp only [command?, operands_of_muted h]

end Reading

open Reading

/-- An invocation, but for the flag. -/
def Invocation.muted (invocation : Invocation) : Invocation := { invocation with logJson := false }

theorem Invocation.asks_of_muted {invocation invocation' : Invocation}
    (h : invocation'.muted = invocation.muted) :
    invocation'.format? = invocation.format? ∧ invocation'.config? = invocation.config? ∧
      invocation'.command = invocation.command := by
  obtain ⟨hformat, hconfig, -, hcommand⟩ := Invocation.mk.inj h
  exact ⟨hformat, hconfig, hcommand⟩

/-- The arguments behind a verb, read abreast, ask for the same command. -/
theorem exists_readCommand_of_abreast {verb : Verb} {environment? : Option Text}
    {command : Command} {drawn : Reading} {ending : Ending} (h : Abreast drawn other)
    (hread : Reading.read (.after verb) false .fresh arguments = .ok (other, ending))
    (hsettle : drawn.settle = .ok reading) (hconfig : reading.checkConfig environment? = .ok ())
    (hcommand : reading.command? verb = some command) :
    ∃ after, readCommand verb environment? arguments = .ok (after, command) ∧
      after.muted = reading.muted := by
  obtain ⟨after, hafter, hmuted⟩ := h.settle hsettle
  refine ⟨after, readCommand_eq_ok_iff.mpr ⟨other, ending, hread, hafter, ?_, ?_⟩, hmuted⟩
  · rw [checkConfig_of_muted hmuted, hconfig]
  · rw [command?_of_muted hmuted, hcommand]

theorem exists_readCommand_withoutLogJson {verb : Verb} {environment? : Option Text}
    {command : Command} (h : readCommand verb environment? arguments = .ok (reading, command)) :
    ∃ after, readCommand verb environment? (withoutLogJson arguments) = .ok (after, command) ∧
      after.muted = reading.muted := by
  obtain ⟨drawn, ending, hread, hsettle, hconfig, hcommand⟩ := readCommand_eq_ok_iff.mp h
  obtain ⟨other, hother, habreast⟩ := Abreast.read (.level rfl) hread
  exact exists_readCommand_of_abreast habreast hother hsettle hconfig hcommand

theorem exists_readCommand_added {verb : Verb} {environment? : Option Text}
    {command : Command} (hplace : IsPlace front)
    (hnone : withoutLogJson (front ++ back) = front ++ back)
    (h : readCommand verb environment? (front ++ back) = .ok (reading, command)) :
    ∃ after, readCommand verb environment? (front ++ Flag.logJson.shown :: back) =
      .ok (after, command) ∧ after.muted = reading.muted := by
  obtain ⟨drawn, ending, hread, hsettle, hconfig, hcommand⟩ := readCommand_eq_ok_iff.mp h
  have hline : ending = .line := (drawn_fresh.read hread).1 verb rfl
  obtain ⟨other, found, hother, habreast, -⟩ := exists_read_added drawn_fresh List.not_mem_nil
    hplace hnone hread hsettle (by simp [hline])
  exact exists_readCommand_of_abreast habreast hother hsettle hconfig hcommand

/-- Two command lines that are read abreast ask for the same but for the flag. -/
theorem exists_parse_of_abreast {verb : Verb} {environment? : Option Text} {command : Command}
    {drawn front back : Reading} (h : Abreast drawn other)
    (hread : Reading.read .before false .fresh arguments = .ok (other, .verb verb rest))
    (hcommand : ∃ after, readCommand verb environment? rest = .ok (after, command) ∧
      after.muted = back.muted)
    (hsettle : drawn.settle = .ok front) (hconfig : front.checkConfig environment? = .ok ()) :
    ∃ invocation, parse environment? arguments = .ok invocation ∧
      invocation.muted = (asked environment? front back command).muted := by
  obtain ⟨back', hback, hmutedBack⟩ := hcommand
  obtain ⟨front', hfront, hmutedFront⟩ := h.settle hsettle
  have hconfig' : front'.checkConfig environment? = .ok () := by
    rw [checkConfig_of_muted hmutedFront, hconfig]
  refine ⟨asked environment? front' back' command, parse_eq_ok_iff.mpr
    ⟨other, front', back', verb, rest, command, hread, hback, hfront, hconfig', rfl⟩, ?_⟩
  simp only [asked, Invocation.muted, value?_of_muted hmutedBack, value?_of_muted hmutedFront]

/-- A command line that can be read with the flag can be read without it, and asks for the same. -/
theorem exists_parse_withoutLogJson {environment? : Option Text} {invocation : Invocation}
    (h : parse environment? arguments = .ok invocation) :
    ∃ other, parse environment? (withoutLogJson arguments) = .ok other ∧
      other.muted = invocation.muted := by
  obtain ⟨drawn, front, back, verb, rest, command, hread, hcommand, hsettle, hconfig, rfl⟩ :=
    parse_eq_ok_iff.mp h
  obtain ⟨other, hother, habreast⟩ := Abreast.read (.level rfl) hread
  exact exists_parse_of_abreast habreast hother (exists_readCommand_withoutLogJson hcommand) hsettle
    hconfig

/-- The flag can be added at a place for it to a command line that can be read without it, and the
command line asks for the same. -/
theorem exists_parse_added {environment? : Option Text} {invocation : Invocation}
    (hplace : IsPlace front) (hnone : withoutLogJson (front ++ back) = front ++ back)
    (h : parse environment? (front ++ back) = .ok invocation) :
    ∃ other, parse environment? (front ++ Flag.logJson.shown :: back) = .ok other ∧
      other.muted = invocation.muted := by
  obtain ⟨drawn, front', back', verb, rest, command, hread, hcommand, hsettle, hconfig, rfl⟩ :=
    parse_eq_ok_iff.mp h
  obtain ⟨other, found, hother, habreast, hadded⟩ := exists_read_added drawn_fresh
    List.not_mem_nil hplace hnone hread hsettle (by simp)
  cases hadded with
  | passed =>
    exact exists_parse_of_abreast habreast hother (exists_readCommand_withoutLogJson hcommand)
      hsettle hconfig
  | unread verb hlater =>
    have hlaterPlace := hplace.of_suffix hlater
    obtain ⟨before, rfl⟩ := hlater
    have hbefore : ['-', '-'] ∉ before := fun hmem ↦
      hplace.undivided (List.mem_append_left _ hmem)
    rw [List.append_assoc] at hnone
    exact exists_parse_of_abreast habreast hother
      (exists_readCommand_added hlaterPlace (withoutLogJson_of_append hbefore hnone) hcommand)
      hsettle hconfig

/-- Two command lines that differ in nothing but the flag. Unless they are the same, both can be
read: the flag has been added at a place for it, or is left out in other places. -/
inductive SameButLogJson (environment? : Option Text) : List Text → List Text → Prop where
  | same (arguments : List Text) : SameButLogJson environment? arguments arguments
  | added {front back : List Text} {invocation : Invocation} (hplace : IsPlace front)
      (hnone : withoutLogJson (front ++ back) = front ++ back)
      (h : parse environment? (front ++ back) = .ok invocation) :
    SameButLogJson environment? (front ++ back) (front ++ Flag.logJson.shown :: back)
  | read {arguments arguments' : List Text} {invocation invocation' : Invocation}
      (hsame : withoutLogJson arguments' = withoutLogJson arguments)
      (h : parse environment? arguments = .ok invocation)
      (h' : parse environment? arguments' = .ok invocation') :
    SameButLogJson environment? arguments arguments'
  | symm {arguments arguments' : List Text} (h : SameButLogJson environment? arguments arguments') :
    SameButLogJson environment? arguments' arguments

/-- Such command lines ask for the same. -/
theorem SameButLogJson.eq_or_exists_parse {environment? : Option Text}
    {arguments arguments' : List Text} (h : SameButLogJson environment? arguments arguments') :
    arguments' = arguments ∨ ∃ invocation invocation',
      parse environment? arguments = .ok invocation ∧
      parse environment? arguments' = .ok invocation' ∧ invocation'.muted = invocation.muted := by
  induction h with
  | same arguments => exact Or.inl rfl
  | added hplace hnone h =>
    obtain ⟨invocation', h', hmuted⟩ := exists_parse_added hplace hnone h
    exact Or.inr ⟨_, invocation', h, h', hmuted⟩
  | read hsame h h' =>
    obtain ⟨bare, hbare, hmuted⟩ := exists_parse_withoutLogJson h
    obtain ⟨bare', hbare', hmuted'⟩ := exists_parse_withoutLogJson h'
    rw [hsame, hbare] at hbare'
    obtain rfl := Except.ok.inj hbare'
    exact Or.inr ⟨_, _, h, h', hmuted'.symm.trans hmuted⟩
  | symm h ih =>
    refine ih.imp Eq.symm ?_
    rintro ⟨invocation, invocation', h, h', hmuted⟩
    exact ⟨invocation', invocation, h', h, hmuted.symm⟩

end WorkloadNames.CommandLine
