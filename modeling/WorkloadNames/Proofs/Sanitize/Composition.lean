import WorkloadNames.Proofs.Sanitize.Retraction

/-!
Sanitizing a text that is put together from parts. Where the part in front ends and the part behind
begins with a character of the alphabet, each is sanitized by itself, and what stands between them
is rewritten in one pass (`sanitize_append_between`): no scheme marker reaches over such a
character, and nothing is dropped from between two of them. Characters outside the alphabet that are
put around a text make no difference to it (`sanitize_surrounded`).
-/

set_option autoImplicit false
set_option relaxedAutoImplicit false

namespace WorkloadNames.Sanitize

open Dns

variable {text core front run back : Text}

theorem IsCore.surround (h : IsCore text core) (hfront : ∀ c ∈ front, isNameChar c = false)
    (hback : ∀ c ∈ back, isNameChar c = false) : IsCore (front ++ text ++ back) core where
  dropped := by
    obtain ⟨before, behind, rfl, hdropped⟩ := h.dropped
    obtain ⟨hbefore, hbehind⟩ := List.forall_mem_append.mp hdropped
    refine ⟨front ++ before, behind ++ back, by simp, ?_⟩
    exact List.forall_mem_append.mpr ⟨List.forall_mem_append.mpr ⟨hfront, hbefore⟩,
      List.forall_mem_append.mpr ⟨hbehind, hback⟩⟩
  head := h.head
  last := h.last

/-- Characters outside the alphabet around a text are dropped with those that it has at its ends. -/
theorem sanitize_surrounded (hfront : ∀ c ∈ front, isNameChar c = false) (text : Text)
    (hback : ∀ c ∈ back, isNameChar c = false) :
    sanitize (front ++ text ++ back) = sanitize text := by
  have hcore := isCore_trim text
  rw [(hcore.surround hfront hback).sanitize_eq, hcore.sanitize_eq]

/-- Between two characters of the alphabet everything is rewritten by itself. -/
theorem sanitize_append_between (hfront : front.getLast?.any isNameChar = true)
    (hback : back.head?.any isNameChar = true) (between : Text) :
    sanitize (front ++ between ++ back) = sanitize front ++ scan between ++ sanitize back := by
  obtain ⟨a, hlast, ha⟩ := (Option.any_eq_true _ _).mp hfront
  obtain ⟨b, hhead, hb⟩ := (Option.any_eq_true _ _).mp hback
  obtain ⟨left, rfl⟩ := List.getLast?_eq_some_iff.mp hlast
  obtain ⟨right, rfl⟩ := List.head?_eq_some_iff.mp hhead
  simpa using sanitize_append_run ha hb left between right

/-- Sanitizing goes through part by part where the parts meet at characters of the alphabet. A run
of other characters between two such parts becomes as many hyphens as it has characters, less two
for each scheme marker in it; with no run there is nothing between the parts, and a marker alone is
one hyphen. In front of the one part or behind the other a run leaves no trace. -/
theorem sanitize_append_at_usable (hfront : front.getLast?.any isNameChar = true)
    (hback : back.head?.any isNameChar = true) (hrun : ∀ c ∈ run, isNameChar c = false) :
    (∃ hyphens, hyphens + 2 * markerCount run = run.length ∧
      sanitize (front ++ run ++ back) =
        sanitize front ++ List.replicate hyphens '-' ++ sanitize back) ∧
    sanitize (front ++ back) = sanitize front ++ sanitize back ∧
    sanitize (front ++ "://".toList ++ back) = sanitize front ++ "-".toList ++ sanitize back ∧
    sanitize (run ++ back) = sanitize back ∧
    sanitize (front ++ run) = sanitize front := by
  have hbetween := sanitize_append_between hfront hback
  refine ⟨?_, ?_, hbetween "://".toList, ?_, ?_⟩
  · obtain ⟨hyphens, hlength, hscan⟩ := scan_eq_replicate hrun
    exact ⟨hyphens, hlength, by rw [hbetween, hscan]⟩
  · simpa [scan] using hbetween []
  · simpa using sanitize_surrounded hrun back (List.forall_mem_nil _)
  · simpa using sanitize_surrounded (List.forall_mem_nil _) front hrun

/-- Between the dot and the hyphen stand two colons, two slashes and a letter that is not of ASCII:
the second colon begins a marker, so three hyphens are left. The slash and the colon at the ends are
dropped from the parts as they are from the whole. -/
theorem sanitize_append_at_usable_of_late_marker :
    "/a.".toList.getLast?.any isNameChar = true ∧ "-b:".toList.head?.any isNameChar = true ∧
      (∀ c ∈ ":://é".toList, isNameChar c = false) ∧
      sanitize "/a.:://é-b:".toList = "a.".toList ++ "---".toList ++ "-b".toList ∧
      sanitize "/a.-b:".toList = "a.".toList ++ "-b".toList ∧
      sanitize "/a.://-b:".toList = "a.".toList ++ "-".toList ++ "-b".toList ∧
      sanitize ":://é-b:".toList = "-b".toList ∧ sanitize "/a.:://é".toList = "a.".toList := by
  have hfront : "/a.".toList.getLast?.any isNameChar = true := by decide
  have hback : "-b:".toList.head?.any isNameChar = true := by decide
  have hrun : ∀ c ∈ ":://é".toList, isNameChar c = false := by
    intro c hc
    have hall : (":://é".toList.all fun c ↦ !isNameChar c) = true := by decide +kernel
    simpa using List.all_eq_true.mp hall c hc
  have hfirst : sanitize "/a.".toList = "a.".toList := by decide +kernel
  have hlast : sanitize "-b:".toList = "-b".toList := by decide +kernel
  have hmarkers : markerCount ":://é".toList = 1 := by decide +kernel
  obtain ⟨⟨hyphens, hlength, hwhole⟩, hjoined, hmarked, hleft, hright⟩ :=
    sanitize_append_at_usable hfront hback hrun
  obtain rfl : hyphens = 3 := by
    rw [hmarkers] at hlength
    exact Nat.add_right_cancel hlength
  rw [hfirst, hlast] at hwhole hjoined hmarked
  exact ⟨hfront, hback, hrun, hwhole, hjoined, hmarked, hleft.trans hlast, hright.trans hfirst⟩

end WorkloadNames.Sanitize
