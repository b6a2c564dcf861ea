import CallAttribution.Text.Basic
import Mathlib.Tactic.SplitIfs

/-!
# Framing by a separator

Items that each end in a separator which none of them contains are recovered by cutting at the
separator, and there are as many separators as items. The bytes of a character are at least as
large as its code, up to 0x80, so a text without control characters has no line feed among its
bytes.
-/

namespace CallAttribution.Text

section Pieces

variable {α : Type} {sep : α}

theorem getLast?_flatMap {ls : List (List α)} (h : ls ≠ []) :
    (ls.flatMap (· ++ [sep])).getLast? = some sep := by
  rcases List.eq_nil_or_concat ls with hnil | ⟨init, l, rfl⟩
  · exact absurd hnil h
  · simp

variable [BEq α]

theorem pieces_ne_nil (sep : α) (xs : List α) : pieces sep xs ≠ [] := by
  cases xs with
  | nil => simp [pieces]
  | cons x xs =>
    rw [pieces]
    split_ifs
    · simp
    · split <;> simp

variable [LawfulBEq α] {xs ys p : List α}

theorem pieces_cons_of_ne {x : α} (h : x ≠ sep) (xs : List α) :
    ∃ p ps, pieces sep xs = p :: ps ∧ pieces sep (x :: xs) = (x :: p) :: ps := by
  obtain ⟨p, ps, hps⟩ := List.exists_cons_of_ne_nil (pieces_ne_nil sep xs)
  refine ⟨p, ps, hps, ?_⟩
  rw [pieces, if_neg (by simpa using h), hps]

theorem pieces_append (xs ys : List α) :
    pieces sep (xs ++ sep :: ys) = pieces sep xs ++ pieces sep ys := by
  induction xs with
  | nil => simp [pieces]
  | cons x xs ih =>
    by_cases hx : x = sep
    · subst hx
      simp [pieces, ih]
    · obtain ⟨p, ps, hps, hcons⟩ := pieces_cons_of_ne hx xs
      obtain ⟨q, qs, hqs, hcons'⟩ := pieces_cons_of_ne hx (xs ++ sep :: ys)
      rw [ih, hps, List.cons_append] at hqs
      cases hqs
      rw [List.cons_append, hcons', hcons, List.cons_append]

/-- A piece consists of elements of the list, without the separator. -/
theorem mem_of_mem_pieces (hp : p ∈ pieces sep xs) : sep ∉ p ∧ ∀ x ∈ p, x ∈ xs := by
  induction xs generalizing p with
  | nil =>
    rw [pieces, List.mem_singleton] at hp
    simp [hp]
  | cons x xs ih =>
    by_cases hx : x = sep
    · subst hx
      rw [pieces, if_pos BEq.rfl, List.mem_cons] at hp
      rcases hp with rfl | hp
      · simp
      · exact ⟨(ih hp).1, fun y hy => List.mem_cons_of_mem _ ((ih hp).2 y hy)⟩
    · obtain ⟨q, qs, hqs, hcons⟩ := pieces_cons_of_ne hx xs
      rw [hqs] at ih
      rw [hcons, List.mem_cons] at hp
      rcases hp with rfl | hp
      · obtain ⟨hsep, hmem⟩ := ih List.mem_cons_self
        refine ⟨?_, ?_⟩
        · simpa [hsep] using Ne.symm hx
        · intro y hy
          rcases List.mem_cons.mp hy with rfl | hy
          · exact List.mem_cons_self
          · exact List.mem_cons_of_mem _ (hmem y hy)
      · obtain ⟨hsep, hmem⟩ := ih (List.mem_cons_of_mem _ hp)
        exact ⟨hsep, fun y hy => List.mem_cons_of_mem _ (hmem y hy)⟩

theorem pieces_append_sep {l : List α} (h : sep ∉ l) (xs : List α) :
    pieces sep (l ++ sep :: xs) = l :: pieces sep xs := by
  induction l with
  | nil => simp [pieces]
  | cons x l ih =>
    rw [List.mem_cons, not_or] at h
    rw [List.cons_append, pieces, if_neg (by simpa using Ne.symm h.1), ih h.2]

theorem pieces_of_notMem {l : List α} (h : sep ∉ l) : pieces sep l = [l] := by
  induction l with
  | nil => rfl
  | cons x l ih =>
    rw [List.mem_cons, not_or] at h
    rw [pieces, if_neg (by simpa using Ne.symm h.1), ih h.2]

theorem pieces_flatMap {ls : List (List α)} (h : ∀ l ∈ ls, sep ∉ l) :
    pieces sep (ls.flatMap (· ++ [sep])) = ls ++ [[]] := by
  induction ls with
  | nil => rfl
  | cons l ls ih =>
    obtain ⟨hl, hls⟩ := List.forall_mem_cons.mp h
    rw [List.flatMap_cons, List.append_assoc, List.singleton_append, pieces_append_sep hl, ih hls,
      List.cons_append]

theorem count_flatMap {ls : List (List α)} (h : ∀ l ∈ ls, sep ∉ l) :
    (ls.flatMap (· ++ [sep])).count sep = ls.length := by
  induction ls with
  | nil => rfl
  | cons l ls ih =>
    obtain ⟨hl, hls⟩ := List.forall_mem_cons.mp h
    simp [List.count_eq_zero.mpr hl, ih hls]

end Pieces

theorem le_of_mem_utf8EncodeChar {c : Char} {b : UInt8} (h : b ∈ String.utf8EncodeChar c) :
    min c.toNat 0x80 ≤ b.toNat := by
  unfold String.utf8EncodeChar at h
  dsimp only at h
  split_ifs at h
  all_goals
    simp only [List.mem_cons, List.not_mem_nil, or_false] at h
    rcases h with rfl | rfl | rfl | rfl
  all_goals
    change min c.val.toNat 0x80 ≤ _
    simp only [UInt8.toNat_ofNat']
    omega

/-- Bytes below all characters of a text do not occur in its UTF-8 form. -/
theorem notMem_encode {cs : List Char} {b : UInt8} (hb : b.toNat < 0x80)
    (h : ∀ c ∈ cs, b.toNat < c.toNat) : b ∉ encode (String.ofList cs) := by
  intro hm
  rw [encode, String.toList_ofList] at hm
  obtain ⟨c, hc, hbc⟩ := List.mem_flatMap.mp hm
  have hle := le_of_mem_utf8EncodeChar hbc
  have hlt := h c hc
  omega

end CallAttribution.Text
