import Mathlib.Data.List.Nodup
import WorkloadNames.Toml.Document

/-!
The keys of a document. Whatever a line says, it changes the table at the root by putting one value
under one key, which gives a key that is there another value or adds a new key behind the others. So
no two entries of a document share their key.
-/

set_option autoImplicit false
set_option relaxedAutoImplicit false

namespace WorkloadNames.Toml

variable {entries next : Entries} {key : Text} {path : List Text}
  {action : Entries → Option Entries}

namespace Entries

/-- No key is given twice. -/
def Distinct (entries : Entries) : Prop := (entries.map Prod.fst).Nodup

theorem get?_eq_none_iff : entries.get? key = none ↔ key ∉ entries.map Prod.fst := by
  unfold get?
  rw [Option.map_eq_none_iff, List.find?_eq_none]
  simp only [List.mem_map, decide_eq_true_eq, not_exists, not_and]

theorem get?_cons_self (key : Text) (value : Value) (entries : Entries) :
    get? ((key, value) :: entries) key = some value := by
  simp [get?]

theorem get?_cons_of_ne {other : Text} (h : key ≠ other) (value : Value) (entries : Entries) :
    get? ((key, value) :: entries) other = get? entries other := by
  unfold get?
  rw [List.find?_cons_of_neg (by simpa using h)]

theorem Distinct.put (h : entries.Distinct) (key : Text) (value : Value) :
    (entries.put key value).Distinct := by
  unfold Entries.put
  split
  · have hkeys : (entries.map fun entry ↦ if entry.1 = key then (key, value) else entry).map
        Prod.fst = entries.map Prod.fst := by
      rw [List.map_map]
      refine List.map_congr_left fun entry _ ↦ ?_
      by_cases hentry : entry.1 = key
      · simp [hentry]
      · simp [hentry]
    unfold Distinct
    rw [hkeys]
    exact h
  · rename_i hnew
    rw [Option.not_isSome_iff_eq_none, get?_eq_none_iff] at hnew
    unfold Distinct
    rw [List.map_append, List.map_singleton, ← List.concat_eq_append, List.nodup_concat]
    exact ⟨hnew, h⟩

/-! ### What a line does to a table -/

/-- Giving a key its value changes nothing but what one key stands for. -/
theorem Distinct.define? {value : Value} (h : entries.Distinct)
    (hdefine : entries.define? path value = some next) : next.Distinct := by
  unfold Entries.define? at hdefine
  split at hdefine
  · cases hdefine
  · split at hdefine
    · exact Option.some.inj hdefine ▸ h.put _ _
    · cases hdefine
  · split at hdefine
    · obtain ⟨inner, -, rfl⟩ := Option.map_eq_some_iff.mp hdefine
      exact h.put _ _
    · obtain ⟨inner, -, rfl⟩ := Option.map_eq_some_iff.mp hdefine
      exact h.put _ _
    · obtain ⟨inner, -, rfl⟩ := Option.map_eq_some_iff.mp hdefine
      exact h.put _ _
    · cases hdefine

theorem Distinct.open? (h : entries.Distinct) (hopen : entries.open? key = some next) :
    next.Distinct := by
  unfold Entries.open? at hopen
  split at hopen
  · exact Option.some.inj hopen ▸ h.put key _
  · exact Option.some.inj hopen ▸ h.put key _
  · cases hopen

theorem Distinct.openNext? (h : entries.Distinct) (hopen : entries.openNext? key = some next) :
    next.Distinct := by
  unfold Entries.openNext? at hopen
  split at hopen
  · exact Option.some.inj hopen ▸ h.put key _
  · exact Option.some.inj hopen ▸ h.put key _
  · cases hopen

/-- What is done to a table further down puts one value into the tables on the way to it. -/
theorem Distinct.change? (haction : ∀ {entries next : Entries}, entries.Distinct →
      action entries = some next → next.Distinct)
    (h : entries.Distinct) (hchange : entries.change? action path = some next) :
    next.Distinct := by
  cases path with
  | nil => exact haction h hchange
  | cons key path =>
    unfold Entries.change? at hchange
    split at hchange
    · obtain ⟨inner, -, rfl⟩ := Option.map_eq_some_iff.mp hchange
      exact h.put key _
    · cases hchange
    · obtain ⟨inner, -, rfl⟩ := Option.map_eq_some_iff.mp hchange
      exact h.put key _
    · split at hchange
      · cases hchange
      · obtain ⟨last, -, rfl⟩ := Option.map_eq_some_iff.mp hchange
        exact h.put key _
    · cases hchange

end Entries

open Entries

/-! ### All lines -/

variable {draft after : Draft} {rest : Text}

theorem Draft.distinct_of_header? {opening : Text → Entries → Option Entries}
    (hopening : ∀ {key : Text} {entries next : Entries}, entries.Distinct →
      opening key entries = some next → next.Distinct)
    (h : draft.root.Distinct) (hheader : draft.header? opening path = some after) :
    after.root.Distinct := by
  obtain ⟨key, -, hheader⟩ := Option.bind_eq_some_iff.mp hheader
  obtain ⟨root, hchange, hheader⟩ := Option.bind_eq_some_iff.mp hheader
  obtain rfl := Option.some.inj hheader
  exact h.change? hopening hchange

/-- One line keeps the keys apart, whether it opens a table, opens one of several or defines a
key. -/
theorem Draft.distinct_of_line? {text : Text} (h : draft.root.Distinct)
    (hline : draft.line? text = some (after, rest)) : after.root.Distinct := by
  unfold Draft.line? at hline
  split at hline
  · obtain ⟨⟨path, behind⟩, -, hline⟩ := Option.bind_eq_some_iff.mp hline
    simp only at hline
    split at hline
    · obtain ⟨opened, hopened, hline⟩ := Option.bind_eq_some_iff.mp hline
      obtain ⟨behind, -, hline⟩ := Option.bind_eq_some_iff.mp hline
      obtain ⟨rfl, -⟩ := Prod.mk.inj (Option.some.inj hline)
      exact distinct_of_header? Distinct.openNext? h hopened
    · cases hline
  · obtain ⟨⟨path, behind⟩, -, hline⟩ := Option.bind_eq_some_iff.mp hline
    simp only at hline
    split at hline
    · obtain ⟨opened, hopened, hline⟩ := Option.bind_eq_some_iff.mp hline
      obtain ⟨behind, -, hline⟩ := Option.bind_eq_some_iff.mp hline
      obtain ⟨rfl, -⟩ := Prod.mk.inj (Option.some.inj hline)
      exact distinct_of_header? Distinct.open? h hopened
    · cases hline
  · obtain ⟨⟨path, behind⟩, -, hline⟩ := Option.bind_eq_some_iff.mp hline
    simp only at hline
    split at hline
    · obtain ⟨⟨value, behind⟩, -, hline⟩ := Option.bind_eq_some_iff.mp hline
      obtain ⟨root, hroot, hline⟩ := Option.bind_eq_some_iff.mp hline
      obtain ⟨behind, -, hline⟩ := Option.bind_eq_some_iff.mp hline
      obtain ⟨rfl, -⟩ := Prod.mk.inj (Option.some.inj hline)
      exact h.change? Distinct.define? hroot
    · cases hline

theorem Draft.distinct_of_lines? {most : Nat} {text : Text} (h : draft.root.Distinct)
    (hlines : Draft.lines? most draft text = some entries) : entries.Distinct := by
  induction most generalizing draft text with
  | zero => cases hlines
  | succ most ih =>
    obtain ⟨left, -, hlines⟩ := Option.bind_eq_some_iff.mp hlines
    simp only at hlines
    split at hlines
    · exact Option.some.inj hlines ▸ h
    · obtain ⟨⟨after, rest⟩, hline, hlines⟩ := Option.bind_eq_some_iff.mp hlines
      exact ih (distinct_of_line? h hline) hlines

/-- No two entries of a document share their key. -/
theorem distinct_of_parse? {text : Text} (h : parse? text = some entries) :
    entries.Distinct := by
  have hempty : (Draft.mk [] []).root.Distinct := List.nodup_nil
  exact Draft.distinct_of_lines? hempty h

/-- What every reader of documents does: the empty text is a document without entries, and no
document gives a key twice. -/
structure IsReader (read : Text → Option Entries) : Prop where
  empty : read [] = some []
  distinct : ∀ {text : Text} {entries : Entries}, read text = some entries → entries.Distinct

theorem isReader_parse? : IsReader parse? where
  empty := rfl
  distinct := distinct_of_parse?

end WorkloadNames.Toml
