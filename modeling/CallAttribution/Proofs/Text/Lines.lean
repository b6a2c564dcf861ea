import CallAttribution.Text.Basic

/-!
# The lines of a text

Cutting a text into lines is described by a relation that says where the boundaries are: every line
but the last is ended by one, no line has one in it, and the last line is not empty. A text is cut
in one way only, and `lines` finds it.

The lines of two texts are not in general those of the texts one after the other: a carriage return
and a line feed may meet, and a boundary at the end opens no line. The lines that hold something
are, as soon as a boundary stands between the texts.
-/

namespace CallAttribution.Text

/-- The text begins with a line boundary, and this follows it. A carriage return takes the line feed
after it along. -/
inductive BreaksTo : List Char → List Char → Prop
  | pair (rest : List Char) : BreaksTo ('\r' :: '\n' :: rest) rest
  | single {c : Char} {rest : List Char} (hc : isLineBreak c = true)
    (h : c = '\r' → rest.head? ≠ some '\n') : BreaksTo (c :: rest) rest

def Unbroken (l : List Char) : Prop :=
  ∀ c ∈ l, isLineBreak c = false

/-- The text consists of these lines. -/
inductive CutInto : List Char → List (List Char) → Prop
  | nil : CutInto [] []
  | last {l : List Char} (hne : l ≠ []) (hl : Unbroken l) : CutInto l [l]
  | cons {l cs rest : List Char} {ls : List (List Char)} (hl : Unbroken l)
    (hbreak : BreaksTo cs rest) (h : CutInto rest ls) : CutInto (l ++ cs) (l :: ls)

variable {c : Char} {cs rest l : List Char} {ls : List (List Char)}

theorem unbroken_nil : Unbroken [] :=
  List.forall_mem_nil _

theorem Unbroken.cons (hc : isLineBreak c = false) (hl : Unbroken l) : Unbroken (c :: l) :=
  List.forall_mem_cons.mpr ⟨hc, hl⟩

/-- A character that is no boundary comes to the first line. -/
theorem CutInto.consFirst (hc : isLineBreak c = false) (h : CutInto cs ls) :
    CutInto (c :: cs) (consFirst c ls) := by
  cases h with
  | nil => exact .last (List.cons_ne_nil _ _) (.cons hc unbroken_nil)
  | last hne hl => exact .last (List.cons_ne_nil _ _) (.cons hc hl)
  | cons hl hbreak h => exact .cons (.cons hc hl) hbreak h

theorem cutInto_lines (cs : List Char) : CutInto cs (lines cs) := by
  fun_induction lines cs with
  | case1 => exact .nil
  | case2 cs ih => exact .cons unbroken_nil (.pair cs) ih
  | case3 c cs hpair hbreak ih =>
    have hrest : c = '\r' → cs.head? ≠ some '\n' := by
      intro hc hhead
      obtain ⟨cs', rfl⟩ := List.head?_eq_some_iff.mp hhead
      exact hpair cs' hc rfl
    exact .cons unbroken_nil (.single hbreak hrest) ih
  | case4 c cs hpair hbreak ih => exact ih.consFirst (Bool.not_eq_true _ ▸ hbreak)

/-- Unless a carriage return has a line feed after it, the first character is judged by itself. -/
theorem lines_cons_of_single (h : c = '\r' → cs.head? ≠ some '\n') :
    lines (c :: cs) = if isLineBreak c then [] :: lines cs else Text.consFirst c (lines cs) := by
  rw [lines.eq_def]
  split
  · next heq => cases heq
  · next heq =>
    cases heq
    exact absurd rfl (h rfl)
  · next heq =>
    cases heq
    rfl

theorem lines_of_breaksTo (h : BreaksTo cs rest) : lines cs = [] :: lines rest := by
  cases h with
  | pair => rfl
  | single hc h => rw [lines_cons_of_single h, if_pos hc]

theorem lines_cons (hc : isLineBreak c = false) :
    lines (c :: cs) = Text.consFirst c (lines cs) := by
  have hsingle : c = '\r' → cs.head? ≠ some '\n' := by
    rintro rfl
    cases hc
  rw [lines_cons_of_single hsingle, hc]
  rfl

theorem lines_append (hl : Unbroken l) : lines (l ++ cs) = l.foldr consFirst (lines cs) := by
  induction l with
  | nil => rfl
  | cons c l ih =>
    obtain ⟨hc, hl⟩ := List.forall_mem_cons.mp hl
    rw [List.cons_append, lines_cons hc, ih hl, List.foldr_cons]

theorem foldr_consFirst_cons (l m : List Char) :
    l.foldr consFirst (m :: ls) = (l ++ m) :: ls := by
  induction l with
  | nil => rfl
  | cons c l ih => rw [List.foldr_cons, ih, consFirst, List.cons_append]

theorem foldr_consFirst_nil (hne : l ≠ []) : l.foldr consFirst [] = [l] := by
  induction l with
  | nil => exact absurd rfl hne
  | cons c l ih =>
    cases l with
    | nil => rfl
    | cons d l => rw [List.foldr_cons, ih (List.cons_ne_nil _ _), consFirst]

/-- The lines of a text are those that it consists of. -/
theorem lines_eq_iff : lines cs = ls ↔ CutInto cs ls := by
  constructor
  · intro h
    rw [← h]
    exact cutInto_lines cs
  · intro h
    -- along the cuts: a line comes out as it is when the boundary after it is met
    induction h with
    | nil => rfl
    | @last l hne hl =>
      have happend : lines (l ++ []) = l.foldr Text.consFirst [] := lines_append hl
      rw [List.append_nil] at happend
      rw [happend, foldr_consFirst_nil hne]
    | cons hl hbreak h ih =>
      rw [lines_append hl, lines_of_breaksTo hbreak, ih, foldr_consFirst_cons, List.append_nil]

/-- The lines that hold something. -/
def filled (ls : List (List Char)) : List (List Char) :=
  ls.filter (· ≠ [])

theorem filled_append (ls ms : List (List Char)) : filled (ls ++ ms) = filled ls ++ filled ms := by
  rw [filled, filled, filled, List.filter_append]

/-- One boundary character parts a text, whatever stands before and after it. -/
theorem filled_splitOnP_append_cons (hc : isLineBreak c = true) (cs rest : List Char) :
    filled ((cs ++ c :: rest).splitOnP isLineBreak) =
      filled (cs.splitOnP isLineBreak) ++ filled (rest.splitOnP isLineBreak) := by
  rw [List.splitOnP_append_cons cs rest hc, filled_append]

/-- So do two of them, between which nothing stands. -/
theorem filled_splitOnP_append_pair (cs rest : List Char) :
    filled ((cs ++ '\r' :: '\n' :: rest).splitOnP isLineBreak) =
      filled (cs.splitOnP isLineBreak) ++ filled (rest.splitOnP isLineBreak) := by
  have hfeed : filled (('\n' :: rest).splitOnP isLineBreak) = filled (rest.splitOnP isLineBreak) :=
    filled_splitOnP_append_cons (c := '\n') rfl [] rest
  rw [filled_splitOnP_append_cons rfl, hfeed]

/-- The lines that hold something are what stands between boundary characters. -/
theorem CutInto.filled_eq (h : CutInto cs ls) : filled ls = filled (cs.splitOnP isLineBreak) := by
  induction h with
  | nil => rfl
  | last hne hl => rw [List.splitOnP_eq_singleton hl]
  | @cons l cs rest ls hl hbreak h ih =>
    have hline : filled (l :: ls) =
        filled (l.splitOnP isLineBreak) ++ filled (rest.splitOnP isLineBreak) := by
      rw [List.splitOnP_eq_singleton hl, ← ih, ← filled_append, List.singleton_append]
    cases hbreak with
    | pair => rw [hline, filled_splitOnP_append_pair]
    | single hc => rw [hline, filled_splitOnP_append_cons hc]

/-- The texts that are a line boundary and nothing else. -/
def boundaries : List String :=
  ["\r\n", "\n", "\r", "\x0b", "\x0c", "\x1c", "\x1d", "\x1e", "\u0085", "\u2028", "\u2029"]

theorem mem_boundaries_iff {sep : String} : sep ∈ boundaries ↔ BreaksTo sep.toList [] := by
  constructor
  · intro h
    simp only [boundaries, List.mem_cons, List.not_mem_nil, or_false] at h
    rcases h with rfl | rfl | rfl | rfl | rfl | rfl | rfl | rfl | rfl | rfl | rfl
    · exact .pair []
    all_goals exact .single rfl fun _ => nofun
  · intro h
    generalize hsep : sep.toList = cs at h
    obtain rfl : sep = String.ofList cs := by rw [← hsep, String.ofList_toList]
    cases h with
    | pair => decide
    | single hc =>
      simp only [isLineBreak, Bool.or_eq_true, beq_iff_eq, or_assoc] at hc
      rcases hc with rfl | rfl | rfl | rfl | rfl | rfl | rfl | rfl | rfl | rfl <;> decide

/-- A boundary between two texts, alone or with characters that it meets, parts their lines. -/
theorem filled_lines_append {sep : List Char} (hsep : BreaksTo sep []) (cs rest : List Char) :
    filled (lines (cs ++ sep ++ rest)) = filled (lines cs) ++ filled (lines rest) := by
  simp only [(cutInto_lines _).filled_eq, List.append_assoc]
  cases hsep with
  | pair => exact filled_splitOnP_append_pair cs rest
  | single hc => exact filled_splitOnP_append_cons hc cs rest

end CallAttribution.Text
