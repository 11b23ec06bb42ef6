import WorkloadNames.Log.Line
import WorkloadNames.Proofs.Friendly.Wording
import WorkloadNames.Proofs.Json.RoundTrip

/-!
What can be read off a line of the log. A line in words begins with its time, then come words that
are peculiar to the kind of its event, up to the name of the first value; none of these openings
begins another, and behind them the values are read back as in the wording of errors. A line in JSON
is read back as the object that was written, whose message tells the kind of the event. In either
form, in colours or not, a line is not empty, ends with a line break, and no two events have the
same line at one time (`faithfulLines_line`).
-/

set_option autoImplicit false
set_option relaxedAutoImplicit false

namespace WorkloadNames.Log

/-! ### The names of formats and rules -/

theorem formatTitle_injective : Function.Injective formatTitle := by
  intro format format' h
  cases format with
  | table =>
    cases format' with
    | table => rfl
    | json => exact absurd h (by decide)
  | json =>
    cases format' with
    | table => exact absurd h (by decide)
    | json => rfl

theorem title_injective : Function.Injective Dns.Rule.title := by
  intro rule rule' h
  cases rule with
  | label =>
    cases rule' with
    | label => rfl
    | subdomain => exact absurd h (by decide)
  | subdomain =>
    cases rule' with
    | label => exact absurd h (by decide)
    | subdomain => rfl

/-- Nothing has to be escaped in the name of a rule. -/
theorem quoted_title (rule : Dns.Rule) : Text.quoted rule.title = '"' :: (rule.title ++ ['"']) := by
  cases rule with
  | label => decide +kernel
  | subdomain => decide +kernel

/-! ### Kinds of events -/

namespace Event

variable {event other : Event}

/-- Events of the same kind, whatever they hold. -/
inductive SameKind : Event → Event → Prop
  | configured (format format' : Format) : SameKind (.configured format) (.configured format')
  | rejected (rejection rejection' : Friendly.Rejection) :
    SameKind (.rejected rejection) (.rejected rejection')
  | shortened (cut cut' : Friendly.Cut) : SameKind (.shortened cut) (.shortened cut')
  | imageNamed (name name' : Text) : SameKind (.imageNamed name) (.imageNamed name')
  | instanceNamed (name name' : Text) : SameKind (.instanceNamed name) (.instanceNamed name')
  | checked (name name' : Text) (rule rule' : Dns.Rule) (valid valid' : Bool) :
    SameKind (.checked name rule valid) (.checked name' rule' valid')

/-- An event of the same kind that holds nothing in particular. -/
def sample : Event → Event
  | .configured _ => .configured .table
  | .rejected _ => .rejected .emptyTag
  | .shortened _ => .shortened ⟨0, 0⟩
  | .imageNamed _ => .imageNamed []
  | .instanceNamed _ => .instanceNamed []
  | .checked _ _ _ => .checked [] .label true

/-- One event of each kind. -/
def samples : List Event :=
  [.configured .table, .rejected .emptyTag, .shortened ⟨0, 0⟩, .imageNamed [], .instanceNamed [],
    .checked [] .label true]

theorem sample_mem_samples (event : Event) : event.sample ∈ samples := by
  cases event <;> simp [sample, samples]

theorem sameKind_of_sample_eq (h : event.sample = other.sample) : SameKind event other := by
  cases event with
  | configured format =>
    cases other with
    | configured format' => exact .configured format format'
    | _ => cases h
  | rejected rejection =>
    cases other with
    | rejected rejection' => exact .rejected rejection rejection'
    | _ => cases h
  | shortened cut =>
    cases other with
    | shortened cut' => exact .shortened cut cut'
    | _ => cases h
  | imageNamed name =>
    cases other with
    | imageNamed name' => exact .imageNamed name name'
    | _ => cases h
  | instanceNamed name =>
    cases other with
    | instanceNamed name' => exact .instanceNamed name name'
    | _ => cases h
  | checked name rule valid =>
    cases other with
    | checked name' rule' valid' => exact .checked name name' rule rule' valid valid'
    | _ => cases h

/-! ### Lines in words -/

/-- What a line says between its time and its first value. -/
def opening (palette : Palette) (event : Event) : Text :=
  event.record.heading palette
    ++ event.record.fields.head?.elim [] fun field ↦ Record.label palette field.1

/-- What a line about a checked name says behind the name. -/
def verdict (palette : Palette) (rule : Dns.Rule) (valid : Bool) : Text :=
  Record.label palette "rule".toList ++ '"' :: (rule.title ++ '"' ::
    (Record.label palette "valid".toList ++ (if valid then "true" else "false").toList))

/-- What a line says from its first value on. -/
def details (palette : Palette) : Event → Text
  | .configured format => formatTitle format
  | .rejected rejection => rejection.reason
  | .shortened cut =>
    Text.decimal cut.fullLength ++ Record.label palette "kept_len".toList
      ++ Text.decimal cut.keptLength
  | .imageNamed name => name
  | .instanceNamed name => name
  | .checked name rule valid => name ++ verdict palette rule valid

theorem inWords_eq (palette : Palette) (time : Text) (event : Event) :
    event.record.inWords palette time = palette.setOff Record.dimming time ++ [' '] ++
      (event.opening palette ++ event.details palette) := by
  cases event <;>
    simp [Record.inWords, opening, details, verdict, record, Field.inWords, quoted_title]

theorem opening_sample (palette : Palette) (event : Event) :
    event.sample.opening palette = event.opening palette := by
  cases event <;> rfl

/-- No opening begins another. -/
theorem opening_free (palette : Palette) :
    ∀ first ∈ samples, ∀ second ∈ samples,
      first.opening palette <+: second.opening palette → first = second := by
  cases palette with
  | plain => decide +kernel
  | coloured => decide +kernel

/-- None of the words behind a checked name ends others. -/
theorem verdict_free (palette : Palette) :
    ∀ way ∈ [Dns.Rule.label, .subdomain] ×ˢ [true, false],
      ∀ other ∈ [Dns.Rule.label, .subdomain] ×ˢ [true, false],
        verdict palette way.1 way.2 <:+ verdict palette other.1 other.2 → way = other := by
  cases palette with
  | plain => decide +kernel
  | coloured => decide +kernel

/-- The name of a checked name is read from the right end of its line. -/
theorem append_verdict_inj {palette : Palette} {name name' : Text} {rule rule' : Dns.Rule}
    {valid valid' : Bool}
    (h : name ++ verdict palette rule valid = name' ++ verdict palette rule' valid') :
    name = name' ∧ rule = rule' ∧ valid = valid' := by
  have hmem (rule : Dns.Rule) (valid : Bool) :
      (rule, valid) ∈ [Dns.Rule.label, .subdomain] ×ˢ [true, false] := by
    cases rule <;> cases valid <;> decide
  obtain ⟨hname, hverdict⟩ := Text.append_inj_of_free_endings (verdict_free palette)
    (hmem rule valid) (hmem rule' valid') h
  exact ⟨hname, Prod.mk.inj hverdict⟩

/-- Events of one kind are told apart by the values behind their openings. -/
theorem eq_of_details_eq {palette : Palette} (hkind : SameKind event other)
    (h : event.details palette = other.details palette) : event = other := by
  cases hkind with
  | configured format format' => exact congrArg configured (formatTitle_injective h)
  | rejected rejection rejection' =>
    exact congrArg rejected (Friendly.Rejection.reason_injective h)
  | shortened cut cut' =>
    obtain ⟨full, kept⟩ := cut
    obtain ⟨full', kept'⟩ := cut'
    -- the number of bytes ends at the blank in front of the next name
    obtain ⟨rfl, rfl⟩ := Text.decimal_append_decimal_inj rfl h
    rfl
  | imageNamed name name' => exact congrArg imageNamed h
  | instanceNamed name name' => exact congrArg instanceNamed h
  | checked name name' rule rule' valid valid' =>
    obtain ⟨rfl, rfl, rfl⟩ := append_verdict_inj h
    rfl

/-- No two events are told in the same words. -/
theorem inWords_injective (palette : Palette) (time : Text) :
    Function.Injective fun event : Event ↦ event.record.inWords palette time := by
  intro event other h
  simp only [inWords_eq] at h
  have hbehind := List.append_cancel_left h
  rw [← opening_sample, ← opening_sample palette other] at hbehind
  obtain ⟨hsample, hdetails⟩ := Text.append_inj_of_free (opening_free palette)
    (sample_mem_samples event) (sample_mem_samples other) hbehind
  exact eq_of_details_eq (sameKind_of_sample_eq hsample) hdetails

/-! ### Lines in JSON -/

theorem message_sample (event : Event) : event.sample.record.message = event.record.message := by
  cases event <;> rfl

/-- Each kind of event has a message of its own. -/
theorem sameKind_of_message_eq (h : event.record.message = other.record.message) :
    SameKind event other := by
  have hmessages : ∀ first ∈ samples, ∀ second ∈ samples,
      first.record.message = second.record.message → first = second := by
    decide +kernel
  rw [← message_sample, ← message_sample other] at h
  exact sameKind_of_sample_eq
    (hmessages _ (sample_mem_samples event) _ (sample_mem_samples other) h)

/-- No two events are the same object. -/
theorem toJson_injective (time : Text) :
    Function.Injective fun event : Event ↦ event.record.toJson time := by
  intro event other h
  simp only [Record.toJson, Json.object.injEq, List.cons.injEq, Prod.mk.injEq, Json.text.injEq,
    true_and, and_true] at h
  obtain ⟨-, ⟨hmessage, hfields⟩, -⟩ := h
  cases sameKind_of_message_eq hmessage with
  | configured format format' =>
    have htitle : formatTitle format = formatTitle format' := by
      simpa [record, Field.toJson] using hfields
    exact congrArg configured (formatTitle_injective htitle)
  | rejected rejection rejection' =>
    have hreason : rejection.reason = rejection'.reason := by
      simpa [record, Field.toJson] using hfields
    exact congrArg rejected (Friendly.Rejection.reason_injective hreason)
  | shortened cut cut' =>
    obtain ⟨full, kept⟩ := cut
    obtain ⟨full', kept'⟩ := cut'
    obtain ⟨rfl, rfl⟩ : full = full' ∧ kept = kept' := by
      simpa [record, Field.toJson] using hfields
    rfl
  | imageNamed name name' =>
    have hname : name = name' := by simpa [record, Field.toJson] using hfields
    exact congrArg imageNamed hname
  | instanceNamed name name' =>
    have hname : name = name' := by simpa [record, Field.toJson] using hfields
    exact congrArg instanceNamed hname
  | checked name name' rule rule' valid valid' =>
    obtain ⟨rfl, hrule, rfl⟩ : name = name' ∧ rule.title = rule'.title ∧ valid = valid' := by
      simpa [record, Field.toJson] using hfields
    obtain rfl := title_injective hrule
    rfl

end Event

/-! ### All lines -/

/-- Lines that tell everything about their events: each says something and ends with a line break,
and no two events have the same line. -/
structure FaithfulLines (lineOf : Event → Text) : Prop where
  ends : ∀ event, ∃ content, content ≠ [] ∧ lineOf event = content ++ ['\n']
  distinct : Function.Injective lineOf

/-- A line in JSON is read back as the object of its event. -/
theorem read?_toJson_compact (time : Text) (record : Record) :
    Json.read? (record.toJson time).compact = some (record.toJson time) :=
  Json.read?_written .compact _

/-- Whatever its form and its time, the lines of a log tell everything about their events. -/
theorem faithfulLines_line (style : Style) (palette : Palette) (time : Text) :
    FaithfulLines fun event ↦ event.record.line style palette time := by
  cases style with
  | words =>
    constructor
    · intro event
      refine ⟨event.record.inWords palette time, ?_, rfl⟩
      simp [Record.inWords]
    · intro event other h
      exact Event.inWords_injective palette time (List.append_cancel_right h)
  | json =>
    constructor
    · intro event
      refine ⟨(event.record.toJson time).compact, fun hempty ↦ ?_, rfl⟩
      have hread := read?_toJson_compact time event.record
      rw [hempty] at hread
      cases (show Json.read? [] = none by decide).symm.trans hread
    · intro event other h
      have hcompact : (event.record.toJson time).compact = (other.record.toJson time).compact :=
        List.append_cancel_right h
      have hread := congrArg Json.read? hcompact
      rw [read?_toJson_compact, read?_toJson_compact] at hread
      exact Event.toJson_injective time (Option.some.inj hread)

end WorkloadNames.Log
