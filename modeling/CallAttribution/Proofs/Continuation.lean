import CallAttribution.Proofs.Assignment

/-!
# Texts that are continued

A text of assignments may grow. Put a line boundary behind it and more text behind that: what is
then assigned is what the added text assigns, entered over what was assigned before. It does not
matter how the boundary meets the characters next to it, because the lines that hold something are
the same, and the others assign nothing.
-/

namespace CallAttribution

open Text

namespace Assignment

theorem ofLine?_nil : ofLine? [] = none :=
  rfl

theorem filterMap_ofLine?_filled (ls : List (List Char)) :
    (filled ls).filterMap ofLine? = ls.filterMap ofLine? := by
  rw [filled, List.filterMap_filter]
  refine List.filterMap_congr fun line _ => ?_
  split_ifs with h
  · rfl
  · rw [decide_eq_true_iff, not_not] at h
    rw [h, ofLine?_nil]

/-- The assigning lines of a text that is continued are those of its two parts. -/
theorem filterMap_ofLine?_lines_append {sep : List Char} (hsep : BreaksTo sep [])
    (cs rest : List Char) : (lines (cs ++ sep ++ rest)).filterMap ofLine? =
      (lines cs).filterMap ofLine? ++ (lines rest).filterMap ofLine? := by
  rw [← filterMap_ofLine?_filled, filled_lines_append hsep, List.filterMap_append,
    filterMap_ofLine?_filled, filterMap_ofLine?_filled]

end Assignment

namespace Assignments

open Assignment

theorem nodup_keys_ofText (text : String) : (ofText text).keys.Nodup :=
  Table.nodup_keys_ofEntries _

theorem ofText_append {sep : String} (hsep : sep ∈ boundaries) (text more : String) :
    ofText (text ++ sep ++ more) = (ofText text).override (ofText more) := by
  unfold ofText
  rw [String.toList_append, String.toList_append,
    filterMap_ofLine?_lines_append (mem_boundaries_iff.mp hsep), Table.ofEntries_append]

/-- Some line of the text assigns the target. -/
def AssignedIn (text target : String) : Prop :=
  ∃ ls, CutInto text.toList ls ∧ ∃ line ∈ ls, ∃ source, Assigns line target source

/-- What a text gives a source is assigned in it. -/
theorem assignedIn_of_get? {text target source : String}
    (h : (ofText text).get? target = some source) : AssignedIn text target := by
  obtain ⟨before, line, after, hlines, hline, -⟩ := Table.get?_ofEntries_filterMap.mp h
  refine ⟨before ++ line :: after, lines_eq_iff.mp hlines, line, ?_, source,
    ofLine?_eq_some_iff.mp hline⟩
  exact List.mem_append_right _ List.mem_cons_self

/-- A text that is continued behind a line boundary assigns what the added text assigns, and
otherwise what it has assigned before. No target is lost, and the source of a target changes only if
a line of the added text assigns the target. -/
theorem continued_text_overrides (text sep more : String) (hsep : sep ∈ boundaries) :
    ofText (text ++ sep ++ more) = (ofText text).override (ofText more) ∧
      (∀ target, (ofText (text ++ sep ++ more)).get? target =
        ((ofText more).get? target).or ((ofText text).get? target)) ∧
      (∀ target ∈ (ofText text).keys, target ∈ (ofText (text ++ sep ++ more)).keys) ∧
      ∀ target, (ofText (text ++ sep ++ more)).get? target ≠ (ofText text).get? target →
        AssignedIn more target := by
  have hget : ∀ target, (ofText (text ++ sep ++ more)).get? target =
      ((ofText more).get? target).or ((ofText text).get? target) := by
    intro target
    rw [ofText_append hsep, Table.get?_override _ (nodup_keys_ofText more)]
  refine ⟨ofText_append hsep text more, hget, ?_, ?_⟩
  · intro target htarget
    rw [Table.mem_keys_iff] at htarget ⊢
    rw [hget, Option.isSome_or, htarget, Bool.or_true]
  · intro target hne
    cases hsource : (ofText more).get? target with
    | none =>
      rw [hget, hsource, Option.none_or] at hne
      exact absurd rfl hne
    | some source => exact assignedIn_of_get? hsource

/-- The carriage return between the texts meets the line feed at the beginning of the second one,
which assigns one of two variables once more. -/
theorem continued_text_overrides_met :
    let text := "a(T):=b(\u2028d(T):=e("
    let more := "\n a(U) := c(z"
    "\r" ∈ boundaries ∧ ofText (text ++ "\r" ++ more) = [("a", "c"), ("d", "e")] ∧
      "d" ∈ (ofText (text ++ "\r" ++ more)).keys ∧ AssignedIn more "a" := by
  intro text more
  have hsep : "\r" ∈ boundaries := by decide
  obtain ⟨hoverride, -, hkept, hchanged⟩ := continued_text_overrides text "\r" more hsep
  refine ⟨hsep, ?_, hkept "d" (by decide +kernel), hchanged "a" (by decide +kernel)⟩
  rw [hoverride]
  decide +kernel

end Assignments

end CallAttribution
