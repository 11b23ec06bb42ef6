import WorkloadNames.Config
import WorkloadNames.Proofs.Toml.Keys

/-!
The settings that a document holds. An entry either sets one of the two settings or spoils the whole
document: its key is none of theirs, or its value is not of the kind that its key wants. A document
with a spoilt entry holds no settings at all, wherever the entry stands and whatever the others say;
any other document holds exactly the settings that its entries give, and the standard ones for the
keys that it leaves out.
-/

set_option autoImplicit false
set_option relaxedAutoImplicit false

namespace WorkloadNames.Config

open Toml

variable {config next settled : Config} {key : Text} {value : Value} {entries : Entries}
  {format : Format} {word : Text}

/-! ### Formats -/

/-- A value without content. -/
def IsEmpty (value : Value) : Prop := value = .array [] ∨ ∃ origin, value = .table origin []

/-- A value names a format: by its word, or by a table that has this word for its only key and
nothing under it. -/
inductive Names : Value → Format → Prop where
  | word (format : Format) : Names (.text format.word) format
  | onlyKey (origin : Origin) (format : Format) {content : Value} (h : IsEmpty content) :
    Names (.table origin [(format.word, content)]) format

theorem format?_eq_some_iff : format? value = some format ↔ Names value format := by
  constructor
  · intro h
    unfold format? at h
    split at h
    · obtain rfl := Format.ofWord?_eq_some_iff.mp h
      exact .word format
    · obtain rfl := Format.ofWord?_eq_some_iff.mp h
      exact .onlyKey _ format (Or.inl rfl)
    · obtain rfl := Format.ofWord?_eq_some_iff.mp h
      exact .onlyKey _ format (Or.inr ⟨_, rfl⟩)
    · cases h
  · intro h
    cases h with
    | word => exact Format.ofWord?_word format
    | onlyKey origin format hempty =>
      obtain rfl | ⟨inner, rfl⟩ := hempty
      · exact Format.ofWord?_word format
      · exact Format.ofWord?_word format

/-! ### Entries -/

/-- An entry spoils its document. -/
inductive Spoils : Text → Value → Prop where
  /-- There is no such setting. -/
  | unknown {key : Text} {value : Value} (hformat : key ≠ "format".toList)
    (hlevel : key ≠ "log_level".toList) : Spoils key value
  /-- The value names no format. -/
  | format {value : Value} (h : ∀ format, ¬ Names value format) : Spoils "format".toList value
  /-- The value is no text. -/
  | logLevel {value : Value} (h : ∀ content, value ≠ .text content) :
    Spoils "log_level".toList value

theorem set?_eq_none_iff : config.set? key value = none ↔ Spoils key value := by
  unfold set?
  by_cases hformat : key = "format".toList
  · subst hformat
    rw [if_pos rfl, Option.map_eq_none_iff, Option.eq_none_iff_forall_ne_some]
    simp only [ne_eq, format?_eq_some_iff]
    constructor
    · exact .format
    · intro h
      cases h with
      | unknown hformat => exact absurd rfl hformat
      | format hnames => exact hnames
  · rw [if_neg hformat]
    by_cases hlevel : key = "log_level".toList
    · subst hlevel
      rw [if_pos rfl]
      constructor
      · intro h
        refine .logLevel ?_
        rintro content rfl
        cases h
      · intro h
        cases h with
        | unknown _ hlevel => exact absurd rfl hlevel
        | logLevel htext =>
          cases value with
          | text content => exact absurd rfl (htext content)
          | _ => rfl
    · rw [if_neg hlevel]
      exact iff_of_true rfl (.unknown hformat hlevel)

/-- A document holds no settings exactly if one of its entries spoils it. -/
theorem ofEntries?_eq_none_iff :
    ofEntries? entries = none ↔ ∃ entry ∈ entries, Spoils entry.1 entry.2 := by
  unfold ofEntries?
  -- an entry that spoils its document does so whatever has been set before it
  generalize standard = config
  induction entries generalizing config with
  | nil => simp
  | cons entry entries ih =>
    rw [List.foldlM_cons, List.exists_mem_cons_iff, ← set?_eq_none_iff]
    cases hset : config.set? entry.1 entry.2 with
    | none => simp
    | some next => simp [ih next]

/-! ### Settings -/

/-- What the entries of a document say of the settings, and what they leave as it is. -/
structure Holds (entries : Entries) (initial config : Config) : Prop where
  format : (entries.get? "format".toList).elim (config.format = initial.format) fun value ↦
    Names value config.format
  logLevel : (entries.get? "log_level".toList).elim (config.logLevel = initial.logLevel)
    fun value ↦ value = .text config.logLevel

/-- An entry that is taken sets one of the two settings and leaves the other as it is. -/
theorem set?_cases (h : config.set? key value = some next) :
    (key = "format".toList ∧ Names value next.format ∧ next.logLevel = config.logLevel) ∨
      (key = "log_level".toList ∧ value = .text next.logLevel ∧ next.format = config.format) := by
  unfold set? at h
  split at h
  · rename_i hformat
    obtain ⟨format, hnames, rfl⟩ := Option.map_eq_some_iff.mp h
    exact Or.inl ⟨hformat, format?_eq_some_iff.mp hnames, rfl⟩
  · split at h
    · rename_i hlevel
      split at h
      · obtain rfl := Option.some.inj h
        exact Or.inr ⟨hlevel, rfl, rfl⟩
      · cases h
    · cases h

/-- The entries are taken one by one; since no key comes twice, what one of them sets stays so. -/
theorem holds_of_foldlM (hdistinct : entries.Distinct)
    (h : entries.foldlM (fun config entry ↦ config.set? entry.1 entry.2) config = some settled) :
    Holds entries config settled := by
  induction entries generalizing config with
  | nil =>
    obtain rfl := Option.some.inj h
    exact ⟨rfl, rfl⟩
  | cons entry entries ih =>
    obtain ⟨key, value⟩ := entry
    obtain ⟨next, hset, hrest⟩ := Option.bind_eq_some_iff.mp h
    obtain ⟨hkey, hdistinct⟩ := List.nodup_cons.mp hdistinct
    have hnone : Entries.get? entries key = none := Entries.get?_eq_none_iff.mpr hkey
    obtain ⟨hformat, hlevel⟩ := ih hdistinct hrest
    obtain ⟨rfl, hnames, hkept⟩ | ⟨rfl, htext, hkept⟩ := set?_cases hset
    · rw [hnone, Option.elim_none] at hformat
      rw [hkept] at hlevel
      refine ⟨?_, ?_⟩
      · rw [Entries.get?_cons_self, Option.elim_some, hformat]
        exact hnames
      · rw [Entries.get?_cons_of_ne (by decide)]
        exact hlevel
    · rw [hnone, Option.elim_none] at hlevel
      rw [hkept] at hformat
      refine ⟨?_, ?_⟩
      · rw [Entries.get?_cons_of_ne (by decide)]
        exact hformat
      · rw [Entries.get?_cons_self, Option.elim_some, hlevel]
        exact htext

/-! ### Files -/

theorem fromUTF8?_toUTF8 (text : String) : String.fromUTF8? text.toUTF8 = some text :=
  dif_pos text.isValidUTF8

/-- A file that can be read as text and whose entries are settings is loaded. -/
theorem load_file_eq_ok {document? : Text → Option Entries} {content : ByteArray} {text : String}
    (htext : String.fromUTF8? content = some text)
    (hentries : document? text.toList = some entries) (hconfig : ofEntries? entries = some config) :
    load document? (.file content) = .ok config := by
  simp only [load, htext, hentries, Option.bind_some, hconfig]

end WorkloadNames.Config
