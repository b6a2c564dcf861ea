import CallAttribution.Text.Word
import Mathlib.Data.List.TakeWhile
import Mathlib.Tactic.SplitIfs

/-!
# Runs of characters

A run of characters of one class ends where a character of another class comes, so a text is taken
apart in one way only. Word characters and white space are such classes: no character is both.
-/

namespace CallAttribution.Text

variable {p : Char → Bool} {cs xs ys xs' ys' : List Char}

/-- A run of characters with `p` goes no further here. -/
def StopsAt (p : Char → Bool) (cs : List Char) : Prop :=
  ∀ c ∈ cs.head?, p c = false

theorem stopsAt_cons {c : Char} (h : p c = false) : StopsAt p (c :: cs) := by
  intro d hd
  cases hd
  exact h

theorem stopsAt_dropWhile (p : Char → Bool) (cs : List Char) : StopsAt p (cs.dropWhile p) := by
  induction cs with
  | nil =>
    intro c hc
    cases hc
  | cons d cs ih =>
    rw [List.dropWhile_cons]
    split_ifs with hd
    · exact ih
    · intro c hc
      cases hc
      simpa using hd

/-- The longest run is the one that stops where it ends. -/
theorem span_eq_iff :
    span p cs = (xs, ys) ↔ xs ++ ys = cs ∧ (∀ c ∈ xs, p c = true) ∧ StopsAt p ys := by
  constructor
  · intro h
    cases h
    exact ⟨List.takeWhile_append_dropWhile, fun _ => List.mem_takeWhile_imp, stopsAt_dropWhile p cs⟩
  · rintro ⟨rfl, hxs, hys⟩
    have htake : ys.takeWhile p = [] := by
      cases ys with
      | nil => rfl
      | cons y ys =>
        rw [List.takeWhile_cons, hys y rfl]
        rfl
    have hdrop : ys.dropWhile p = ys := by
      cases ys with
      | nil => rfl
      | cons y ys =>
        rw [List.dropWhile_cons, hys y rfl]
        rfl
    rw [span, List.takeWhile_append_of_pos hxs, List.dropWhile_append_of_pos hxs, htake, hdrop,
      List.append_nil]

/-- A text is taken apart after a run in one way only. -/
theorem eq_of_append_eq (h : xs ++ ys = xs' ++ ys') (hxs : ∀ c ∈ xs, p c = true)
    (hys : StopsAt p ys) (hxs' : ∀ c ∈ xs', p c = true) (hys' : StopsAt p ys') :
    xs = xs' ∧ ys = ys' := by
  have hspan := span_eq_iff.mpr ⟨h, hxs, hys⟩
  have hspan' := span_eq_iff.mpr ⟨rfl, hxs', hys'⟩
  exact Prod.mk.inj (hspan.symm.trans hspan')

/-- The characters of a range. -/
def CodeRange.chars (r : CodeRange) : List Char :=
  (List.range' r.first (r.last + 1 - r.first)).map Char.ofNat

theorem CodeRange.mem_chars {r : CodeRange} {c : Char} (h : r.contains c.toNat = true) :
    c ∈ r.chars := by
  unfold contains at h
  rw [Bool.and_eq_true, decide_eq_true_iff, decide_eq_true_iff] at h
  have hrange : c.toNat ∈ List.range' r.first (r.last + 1 - r.first) := by
    rw [List.mem_range'_1]
    omega
  have hmem := List.mem_map_of_mem (f := Char.ofNat) hrange
  rwa [Char.ofNat_toNat] at hmem

/-- No word character is white space, as looking through the few spaces shows. -/
theorem isWord_of_isSpace {c : Char} (h : isSpace c = true) : isWord c = false := by
  have hranges : (⟨0x09, 0x0d⟩ :: ⟨0x1c, 0x20⟩ :: wideSpaces).all
      (fun r => r.chars.all fun c => !isWord c) = true := by
    decide +kernel
  unfold isSpace inRanges at h
  obtain ⟨r, hr, hc⟩ := List.any_eq_true.mp h
  have hchars := List.all_eq_true.mp hranges r hr
  have hword := List.all_eq_true.mp hchars c (r.mem_chars hc)
  rwa [Bool.not_eq_true'] at hword

end CallAttribution.Text
