import WorkloadNames.Proofs.Dns.Acceptance
import WorkloadNames.Proofs.Grid.Reader
import WorkloadNames.Proofs.Json.RoundTrip
import WorkloadNames.Proofs.Program.Completion

/-!
What a check of names reports and how it ends. The report has a record for every name in its place,
whether the names are valid or not, and it is printed before anything else is decided. Either format
is read back as these records, an object from its text and a table from its drawing. The records
then decide the exit code, and those that are invalid are counted in the explanation. In a JSON
report the problem of a record is left out where it has no wording; since every violation has one,
this is where the name is valid.
-/

set_option autoImplicit false
set_option relaxedAutoImplicit false

namespace WorkloadNames

/-- No violation is told in no words. -/
theorem Dns.Violation.message_ne_nil (violation : Dns.Violation) : violation.message ≠ [] := by
  cases violation <;> exact List.cons_ne_nil _ _

namespace Program

open CommandLine

variable {label : Bool} {names : List Text}

/-! ### Records -/

/-- What a report is to say of a name. -/
structure Record where
  name : Text
  rule : Text
  valid : Bool
  /-- The wording of what is wrong with the name; empty if nothing is. -/
  problem : Text
  deriving DecidableEq, Repr

namespace Record

/-- The rule that a check holds its names to. -/
def ruleOf (label : Bool) : Dns.Rule := if label then .label else .subdomain

/-- The record of a name. -/
def ofName (label : Bool) (name : Text) : Record where
  name := name
  rule := (if label then "dns-label" else "dns-subdomain").toList
  valid := (ruleOf label).accepts name
  problem := (((ruleOf label).violation? name).map Dns.Violation.message).getD []

/-- A record as a row of a table. -/
def row (record : Record) : List Text :=
  [record.name, record.rule, (if record.valid then "true" else "false").toList, record.problem]

/-- A record as an object, with a problem exactly if the name is invalid. -/
def toJson (record : Record) : Json :=
  .object
    ([("name".toList, .text record.name), ("rule".toList, .text record.rule),
      ("valid".toList, .truth record.valid)]
      ++ if record.valid then [] else [("problem".toList, .text record.problem)])

/-- A record has the wording of a problem exactly if its name is invalid. -/
theorem problem_ofName_eq_nil_iff (label : Bool) (name : Text) :
    (ofName label name).problem = [] ↔ (ofName label name).valid = true := by
  simp only [ofName, Dns.Rule.accepts]
  cases (ruleOf label).violation? name with
  | none => simp
  | some violation => simp [Dns.Violation.message_ne_nil]

/-- A drawing tells all of the record of a valid name. -/
theorem map_visible_row (label : Bool) {name : Text} (h : (ofName label name).valid = true) :
    (ofName label name).row.map Grid.visible = (ofName label name).row := by
  have hname := Dns.Rule.accepts_iff_isName.mp h
  have hvisible : Grid.visible name = name := by
    refine Grid.visible_eq_self (fun hmem ↦ ?_) fun hlast ↦ ?_
    · exact absurd (hname.isNameText '\n' hmem) (by decide)
    · exact absurd hname.last (by simp [hlast])
  have hproblem := (problem_ofName_eq_nil_iff label name).mpr h
  have hrule : Grid.visible (ofName label name).rule = (ofName label name).rule := by
    cases label with
    | true => exact @Grid.visible_eq_self "dns-label".toList (by decide) (by decide)
    | false => exact @Grid.visible_eq_self "dns-subdomain".toList (by decide) (by decide)
  have htrue : Grid.visible "true".toList = "true".toList := by decide
  have hnothing : Grid.visible [] = [] := by decide
  simp only [row, hproblem, h, if_true, List.map_cons, List.map_nil, hrule, htrue, hnothing]
  rw [show (ofName label name).name = name from rfl, hvisible]

end Record

/-! ### Findings -/

namespace Finding

theorem title_ruleOf (label : Bool) :
    (Record.ruleOf label).title = (if label then "dns-label" else "dns-subdomain").toList := by
  cases label <;> rfl

theorem problem_ofName (label : Bool) (name : Text) :
    (ofName (Record.ruleOf label) name).problem = (Record.ofName label name).problem := by
  simp only [problem, ofName, Record.ofName]
  cases (Record.ruleOf label).violation? name <;> rfl

theorem row_ofName (label : Bool) (name : Text) :
    (ofName (Record.ruleOf label) name).row = (Record.ofName label name).row := by
  rw [row, problem_ofName, Record.row]
  simp only [ofName, title_ruleOf]
  rfl

/-- A problem is left out where it has no wording, which is where the name is valid. -/
theorem toJson_ofName (label : Bool) (name : Text) :
    (ofName (Record.ruleOf label) name).toJson = (Record.ofName label name).toJson := by
  rw [toJson, problem_ofName, Record.toJson]
  simp only [ofName, title_ruleOf]
  have hempty : (Record.ofName label name).problem.isEmpty = (Record.ofName label name).valid := by
    rw [Bool.eq_iff_iff, List.isEmpty_iff, Record.problem_ofName_eq_nil_iff]
  rw [hempty]
  rfl

end Finding

/-! ### The command -/

/-- How many of some names are invalid. -/
def invalidCount (label : Bool) (names : List Text) : Nat :=
  (names.map (Record.ofName label)).countP fun record ↦ !record.valid

theorem invalidCount_eq_zero_iff :
    invalidCount label names = 0 ↔ ∀ name ∈ names, (Record.ofName label name).valid = true := by
  rw [invalidCount, List.countP_eq_zero]
  simp

theorem output_check_table (label : Bool) (names : List Text) :
    (perform .table (.check label names)).output =
      (Grid.mk reportHeader ((names.map (Record.ofName label)).map Record.row)).render
        ++ ['\n'] := by
  have hrows : (names.map (Finding.ofName (Record.ruleOf label))).map Finding.row =
      (names.map (Record.ofName label)).map Record.row := by
    simp only [List.map_map]
    exact List.map_congr_left fun name _ ↦ Finding.row_ofName label name
  rw [← hrows]
  rfl

theorem output_check_json (label : Bool) (names : List Text) :
    (perform .json (.check label names)).output =
      (Json.array ((names.map (Record.ofName label)).map Record.toJson)).indented ++ ['\n'] := by
  have hitems : (names.map (Finding.ofName (Record.ruleOf label))).map Finding.toJson =
      (names.map (Record.ofName label)).map Record.toJson := by
    simp only [List.map_map]
    exact List.map_congr_left fun name _ ↦ Finding.toJson_ofName label name
  rw [← hitems]
  rfl

/-- The table of a report is read back from its drawing. -/
theorem read?_report (records : List Record) :
    Grid.read? (Grid.mk reportHeader (records.map Record.row)).render =
      some ((reportHeader :: records.map Record.row).map fun row ↦ row.map Grid.visible) := by
  refine Grid.read?_render fun row hrow ↦ ?_
  obtain ⟨record, -, rfl⟩ := List.mem_map.mp hrow
  rfl

theorem failure?_check (format : Format) (label : Bool) (names : List Text) :
    (perform format (.check label names)).failure? =
      if invalidCount label names = 0 then none
      else some (.invalidNames (invalidCount label names) names.length) := by
  have hcount : (names.map (Finding.ofName (Record.ruleOf label))).countP
      (fun finding ↦ !finding.valid) = invalidCount label names := by
    rw [invalidCount, List.countP_map, List.countP_map]
    rfl
  rw [← hcount]
  simp only [perform, checkNames, List.length_map]
  rfl

/-- How many names are invalid is told in one line. -/
theorem explanation_invalidNames (palette : Palette) (invalid total : Nat) :
    (Failure.invalidNames invalid total).explanation palette =
      palette.errorWord ++ [' '] ++ (Text.decimal invalid ++ " of ".toList ++ Text.decimal total ++
        " name(s) failed validation".toList) ++ ['\n'] :=
  List.append_nil _

/-- A check of names prints a report that has a record for each of them. -/
theorem exists_report (format : Format) (label : Bool) (names : List Text) :
    ∃ document, (perform format (.check label names)).output = document ++ ['\n'] ∧
      match format with
      | .table =>
        document =
          (Grid.mk reportHeader ((names.map (Record.ofName label)).map Record.row)).render ∧
        Grid.read? document = some ((reportHeader ::
          (names.map (Record.ofName label)).map Record.row).map fun row ↦ row.map Grid.visible)
      | .json => Json.read? document =
          some (.array ((names.map (Record.ofName label)).map Record.toJson)) := by
  cases format with
  | table => exact ⟨_, output_check_table label names, rfl, read?_report _⟩
  | json => exact ⟨_, output_check_json label names, Json.read?_written .indented _⟩

/-- A check reports every name and then succeeds or counts. The names are the operands behind the
verb, all of them in their order and at least one, and the rule is that of labels exactly if the
flag for it stands there in front of a divider. The output holds a record for each name in its
place, in either format and whether the check succeeds or not; a table tells all of the records of
valid names, and a record has a problem exactly if its name is invalid. The check succeeds exactly
if every name is valid. Otherwise the exit code is one, and without colours nothing follows the log
but a line that tells how many names of how many are invalid. -/
theorem check_reports_and_counts {surroundings : Surroundings} {invocation : Invocation}
    {config : Config} (h : surroundings.Reach invocation config) {label : Bool}
    {names : List Text} (hcommand : invocation.command = .check label names) :
    let outcome := run surroundings
    let records := names.map (Record.ofName label)
    invocation.IsGiven (surroundings.environment "FNAME_CONFIG".toList) surroundings.arguments ∧
    (∃ front given values flags, surroundings.arguments = front ++ "check".toList :: given ∧
      Spelled (.after .check) given values flags names ∧ names ≠ [] ∧
      (label = true ↔ "--label".toList ∈ undivided given)) ∧
    (∃ document, outcome.output = document ++ ['\n'] ∧
      match invocation.format config with
      | .table => document = (Grid.mk reportHeader (records.map Record.row)).render ∧
          Grid.read? document =
            some ((reportHeader :: records.map Record.row).map fun row ↦ row.map Grid.visible)
      | .json => Json.read? document = some (.array (records.map Record.toJson))) ∧
    (∀ record ∈ records, record.valid = true → record.row.map Grid.visible = record.row) ∧
    (∀ record ∈ records, record.problem = [] ↔ record.valid = true) ∧
    (outcome.exitCode = 0 ↔ ∀ record ∈ records, record.valid = true) ∧
    (outcome.exitCode = 0 → outcome.errors = surroundings.logged invocation config) ∧
    (outcome.exitCode ≠ 0 → outcome.exitCode = 1 ∧
      (surroundings.palette = .plain → outcome.errors = surroundings.logged invocation config ++
        ("Error: ".toList ++ (Text.decimal (records.countP fun record ↦ !record.valid) ++
          " of ".toList ++ Text.decimal names.length ++
          " name(s) failed validation".toList) ++ ['\n']))) := by
  have hfailure := failure?_check (invocation.format config) label names
  rw [← hcommand] at hfailure
  refine ⟨h.isGiven, ?_, ?_, ?_, ?_, ?_, ?_, ?_⟩
  · obtain ⟨front, given, -, -, values, flags, harguments, -, -, hspelled, -, -, hholds, -⟩ :=
      h.isGiven
    rw [hcommand] at harguments hspelled hholds
    have hgiven : Spelled (.after .check) given values flags names := hspelled
    have hlabel := hgiven.mem_flags_iff .label (by decide)
    exact ⟨front, given, values, flags, harguments, hgiven, hholds.2, hholds.1.trans hlabel⟩
  · rw [h.output_eq, hcommand]
    exact exists_report (invocation.format config) label names
  · intro record hrecord
    obtain ⟨name, -, rfl⟩ := List.mem_map.mp hrecord
    exact Record.map_visible_row label
  · intro record hrecord
    obtain ⟨name, -, rfl⟩ := List.mem_map.mp hrecord
    exact Record.problem_ofName_eq_nil_iff label name
  · rw [h.exitCode_eq_zero_iff, hfailure, List.forall_mem_map, ← invalidCount_eq_zero_iff]
    simp
  · intro hsuccess
    rw [h.run_eq_of_success (h.exitCode_eq_zero_iff.mp hsuccess)]
  · intro hexit
    rw [Ne, h.exitCode_eq_zero_iff, hfailure] at hexit
    rw [if_neg (by simpa using hexit)] at hfailure
    rw [h.run_eq_of_failure hfailure]
    refine ⟨rfl, fun hpalette ↦ ?_⟩
    rw [hpalette, explanation_invalidNames]
    rfl

/-- Three names are held to the rule of labels, the first of them twice and none of them an option
behind the divider. The table of the same names is read back as well. -/
theorem check_reports_and_counts_of_repeated_name :
    let arguments := ["check", "--label", "--", "-\"é", "web", "-\"é"].map String.toList
    let outcome := run (.atHome ("--format=json".toList :: arguments) [] [])
    let refused : Record := ⟨"-\"é".toList, "dns-label".toList, false,
      "name must start with an alphanumeric character, got '-'".toList⟩
    (∃ document, outcome.output = document ++ ['\n'] ∧
      Json.read? document = some (.array
        ([refused, ⟨"web".toList, "dns-label".toList, true, []⟩, refused].map Record.toJson))) ∧
    (∃ document, (run (.atHome arguments [] [])).output = document ++ ['\n'] ∧
      Grid.read? document = some [reportHeader, refused.row,
        ["web".toList, "dns-label".toList, "true".toList, []], refused.row]) ∧
    outcome.exitCode = 1 ∧
    outcome.errors = "Error: 2 of 3 name(s) failed validation\n".toList := by
  intro arguments outcome refused
  have hjson : (Surroundings.atHome ("--format=json".toList :: arguments) [] []).Reach
      ⟨some .json, none, false,
        .check true (["-\"é", "web", "-\"é"].map String.toList)⟩ .standard :=
    Surroundings.reach_atHome (by decide +kernel) (by simp) (by simp)
  have htable : (Surroundings.atHome arguments [] []).Reach
      ⟨none, none, false, .check true (["-\"é", "web", "-\"é"].map String.toList)⟩ .standard :=
    Surroundings.reach_atHome (by decide +kernel) (by simp) (by simp)
  have hrecords : (["-\"é", "web", "-\"é"].map String.toList).map (Record.ofName true) =
      [refused, ⟨"web".toList, "dns-label".toList, true, []⟩, refused] := by decide +kernel
  obtain ⟨-, -, hreport, -, -, hexit, -, herrors⟩ := check_reports_and_counts hjson rfl
  obtain ⟨-, -, ⟨drawing, hdrawn, -, hread⟩, -⟩ := check_reports_and_counts htable rfl
  rw [hrecords] at hreport hexit herrors hread
  have hinvalid : outcome.exitCode ≠ 0 := fun hzero ↦ absurd (hexit.mp hzero) (by decide)
  exact ⟨hreport, ⟨drawing, hdrawn, hread.trans (by decide +kernel)⟩, (herrors hinvalid).1,
    ((herrors hinvalid).2 rfl).trans (by decide +kernel)⟩

end Program

end WorkloadNames
