import CallAttribution.Proofs.Toml.Scalar
import CallAttribution.Toml.Reader

/-!
# Documents that are refused for their digits

A document is malformed or it holds a whole number with too many digits. The second happens only if
its text holds as many decimal digits in a row, low lines between them aside. Every reader leaves an
end of the characters it is given, so what a later reader has found stands in the document as well.
-/

namespace CallAttribution.Toml

variable {α : Type} {cs : List Char}

theorem suffix_of_dropWhile {p : Char → Bool} {c : Char} {rest : List Char}
    (h : cs.dropWhile p = c :: rest) : rest <:+ cs :=
  (List.suffix_cons c rest).trans (h ▸ List.dropWhile_suffix p)

theorem skipComment_keeps (cs : List Char) : Keeps id cs (skipComment cs) := by
  rw [skipComment.eq_def]
  split
  · next rest =>
    split_ifs
    · exact .malformed
    · exact .ok ((List.dropWhile_suffix _).trans (List.suffix_cons _ _))
  · exact .ok List.suffix_rfl

theorem skipFiller_keeps (bound : Nat) (cs : List Char) : Keeps id cs (skipFiller bound cs) := by
  induction bound generalizing cs with
  | zero => exact .ok List.suffix_rfl
  | succ bound ih =>
    rw [skipFiller]
    split
    · next rest h =>
      refine .of_suffix ?_ (h ▸ List.dropWhile_suffix isBlankOrFeed)
      exact (skipComment_keeps _).bind ih
    · exact .ok (List.dropWhile_suffix _)

theorem keyPart_keeps (cs : List Char) : Keeps Prod.snd cs (keyPart cs) := by
  rw [keyPart.eq_def]
  split
  · next rest =>
    refine .of_suffix ?_ (List.suffix_cons '"' rest)
    exact (quoted_keeps _ _ _ _).map fun _ => List.suffix_rfl
  · next rest =>
    refine .of_suffix ?_ (List.suffix_cons '\'' rest)
    exact (literal_keeps _ _ _).map fun _ => List.suffix_rfl
  · split
    · exact .malformed
    · exact .ok (List.dropWhile_suffix _)

theorem key_keeps (bound : Nat) (cs : List Char) : Keeps Prod.snd cs (key bound cs) := by
  induction bound generalizing cs with
  | zero => exact .malformed
  | succ bound ih =>
    refine (keyPart_keeps cs).bind fun ⟨name, cs⟩ => ?_
    dsimp only
    split
    · next rest h =>
      refine .of_suffix ?_ ((List.dropWhile_suffix isBlank).trans (suffix_of_dropWhile h))
      exact (ih _).bind fun ⟨names, cs⟩ => .ok List.suffix_rfl
    · exact .ok (List.dropWhile_suffix _)

-- The readers of values call each other, each with a smaller bound.
section Value

variable {bound : Nat}

theorem value_keeps (hitems : ∀ vs cs, Keeps Prod.snd cs (items bound vs cs))
    (hpairs : ∀ marks t cs, Keeps Prod.snd cs (pairs bound marks t cs)) (cs : List Char) :
    Keeps Prod.snd cs (value (bound + 1) cs) := by
  rw [value.eq_def]
  dsimp only
  split
  · next r hr => exact (string?_keeps hr).map fun _ => List.suffix_rfl
  · split
    · next cs _ => exact .ok (List.suffix_append ['t', 'r', 'u', 'e'] cs)
    · next cs _ => exact .ok (List.suffix_append ['f', 'a', 'l', 's', 'e'] cs)
    · next cs _ =>
      refine .of_suffix ?_ (List.suffix_cons '[' cs)
      exact (skipFiller_keeps _ _).bind (hitems [])
    · next cs _ =>
      refine .of_suffix ?_ (List.suffix_cons '\x7b' cs)
      split
      · next rest h => exact .ok (suffix_of_dropWhile h)
      · exact (hpairs [] [] _).of_suffix (List.dropWhile_suffix _)
    · split
      · next hr => exact moment?_keeps hr
      · split
        · next hr => exact .ok (based?_leaves _ _ hr)
        · split
          · next hr => exact decimal?_keeps hr
          · split
            · next hr => exact .ok (special?_leaves _ _ hr)
            · exact .malformed

theorem items_keeps (hvalue : ∀ cs, Keeps Prod.snd cs (value bound cs))
    (hitems : ∀ vs cs, Keeps Prod.snd cs (items bound vs cs)) (vs : List Value) (cs : List Char) :
    Keeps Prod.snd cs (items (bound + 1) vs cs) := by
  rw [items.eq_def]
  dsimp only
  split
  · exact .ok (List.suffix_cons _ _)
  · refine (hvalue cs).bind fun ⟨v, cs⟩ => ?_
    refine (skipFiller_keeps cs.length cs).bind fun cs => ?_
    dsimp only
    split
    · exact .ok (List.suffix_cons _ _)
    · next cs =>
      refine .of_suffix ?_ (List.suffix_cons ',' cs)
      exact (skipFiller_keeps _ _).bind (hitems (v :: vs))
    · exact .malformed

theorem pairs_keeps (hvalue : ∀ cs, Keeps Prod.snd cs (value bound cs))
    (hpairs : ∀ marks t cs, Keeps Prod.snd cs (pairs bound marks t cs)) (marks : List (Key × Mark))
    (t : Table Value) (cs : List Char) :
    Keeps Prod.snd cs (pairs (bound + 1) marks t cs) := by
  rw [pairs.eq_def]
  refine (key_keeps cs.length cs).bind fun ⟨k, cs⟩ => ?_
  dsimp only
  split
  · next cs =>
    refine .of_suffix ?_ ((List.dropWhile_suffix isBlank).trans (List.suffix_cons '=' cs))
    refine (hvalue _).bind fun ⟨v, cs⟩ => ?_
    dsimp only
    split
    · exact .malformed
    · split
      · next rest h => exact .ok (suffix_of_dropWhile h)
      · next rest h =>
        exact (hpairs _ _ _).of_suffix
          ((List.dropWhile_suffix isBlank).trans (suffix_of_dropWhile h))
      · exact .malformed
  · exact .malformed

theorem readers_keep (bound : Nat) :
    (∀ cs, Keeps Prod.snd cs (value bound cs)) ∧
      (∀ vs cs, Keeps Prod.snd cs (items bound vs cs)) ∧
      (∀ marks t cs, Keeps Prod.snd cs (pairs bound marks t cs)) := by
  induction bound with
  | zero => exact ⟨fun _ => .malformed, fun _ _ => .malformed, fun _ _ _ => .malformed⟩
  | succ bound ih =>
    obtain ⟨hvalue, hitems, hpairs⟩ := ih
    exact ⟨value_keeps hitems hpairs, items_keeps hvalue hitems, pairs_keeps hvalue hpairs⟩

end Value

theorem orMalformed_keeps (o : Option α) (cs : List Char) :
    Keeps (fun _ => cs) cs (orMalformed o) := by
  cases o with
  | none => exact .malformed
  | some a => exact .ok List.suffix_rfl

theorem header_keeps (d : Document) (element : Bool) (cs : List Char) :
    Keeps Prod.snd cs (header d element cs) := by
  rw [header]
  refine .of_suffix ?_ (List.dropWhile_suffix isBlank)
  refine (key_keeps _ _).bind fun ⟨k, cs⟩ => ?_
  dsimp only
  split
  · refine (orMalformed_keeps (d.openElement k) cs).bind fun d => ?_
    split
    · next cs => exact .ok (List.suffix_append [']', ']'] cs)
    · exact .malformed
  · refine (orMalformed_keeps (d.openTable k) cs).bind fun d => ?_
    split
    · exact .ok (List.suffix_cons _ _)
    · exact .malformed

theorem definition_keeps (d : Document) (cs : List Char) :
    Keeps Prod.snd cs (definition d cs) := by
  rw [definition]
  refine (key_keeps _ _).bind fun ⟨k, cs⟩ => ?_
  dsimp only
  split
  · next cs =>
    refine .of_suffix ?_ ((List.dropWhile_suffix isBlank).trans (List.suffix_cons '=' cs))
    refine ((readers_keep _).1 _).bind fun ⟨v, cs⟩ => ?_
    exact (orMalformed_keeps (d.addValue k v) cs).bind fun d => .ok List.suffix_rfl
  · exact .malformed

theorem statement_keeps (d : Document) (cs : List Char) :
    Keeps Prod.snd cs (statement d cs) := by
  rw [statement.eq_def]
  split
  · next cs => exact (header_keeps _ _ _).of_suffix (List.suffix_append ['[', '['] cs)
  · exact (header_keeps _ _ _).of_suffix (List.suffix_cons _ _)
  · split_ifs
    · exact definition_keeps _ _
    · exact .ok List.suffix_rfl
    · exact .malformed
  · exact .ok List.suffix_rfl

theorem statements_keeps (bound : Nat) (d : Document) (cs : List Char) :
    Keeps (fun _ => []) cs (statements bound d cs) := by
  induction bound generalizing d cs with
  | zero => exact .ok List.nil_suffix
  | succ bound ih =>
    rw [statements]
    refine .of_suffix ?_ (List.dropWhile_suffix isBlank)
    refine (statement_keeps d _).bind fun ⟨d, cs⟩ => ?_
    refine .of_suffix ?_ (List.dropWhile_suffix isBlank)
    refine (skipComment_keeps _).bind fun cs => ?_
    split
    · exact .ok List.nil_suffix
    · exact (ih d _).of_suffix (List.suffix_cons _ _)
    · exact .malformed

theorem prefix_of_unifyLineEnds {run : List Char} (hfeed : '\n' ∉ run)
    (h : run <+: unifyLineEnds cs) : run <+: cs := by
  fun_induction unifyLineEnds cs generalizing run with
  | case1 cs ih =>
    cases run with
    | nil => exact List.nil_prefix
    | cons c run =>
      obtain ⟨rfl, -⟩ := List.cons_prefix_cons.mp h
      exact absurd List.mem_cons_self hfeed
  | case2 c cs _ ih =>
    cases run with
    | nil => exact List.nil_prefix
    | cons d run =>
      obtain ⟨rfl, hrun⟩ := List.cons_prefix_cons.mp h
      exact List.cons_prefix_cons.mpr ⟨rfl, ih (List.not_mem_of_not_mem_cons hfeed) hrun⟩
  | case3 => exact h

/-- What stands on one line is there before the line ends are unified. -/
theorem infix_of_unifyLineEnds {run : List Char} (hfeed : '\n' ∉ run)
    (h : run <:+: unifyLineEnds cs) : run <:+: cs := by
  fun_induction unifyLineEnds cs with
  | case1 cs ih =>
    rcases List.infix_cons_iff.mp h with hprefix | hinfix
    · cases run with
      | nil => exact List.nil_infix
      | cons c run =>
        obtain ⟨rfl, -⟩ := List.cons_prefix_cons.mp hprefix
        exact absurd List.mem_cons_self hfeed
    · exact (ih hinfix).trans (List.suffix_append ['\r', '\n'] cs).isInfix
  | case2 c cs hc ih =>
    rcases List.infix_cons_iff.mp h with hprefix | hinfix
    · have hunify : c :: unifyLineEnds cs = unifyLineEnds (c :: cs) := by
        rw [unifyLineEnds]
        exact hc
      exact (prefix_of_unifyLineEnds hfeed (hunify ▸ hprefix)).isInfix
    · exact (ih hinfix).trans (List.suffix_cons c cs).isInfix
  | case3 => exact h

theorem DigitRun.lineFeed_notMem {run : List Char} {n : Nat} (h : DigitRun run n) : '\n' ∉ run := by
  intro hmem
  exact absurd (h.chars _ hmem) (by decide)

/-- A document is refused for its digits only if it holds as many in a row. -/
theorem digitRun_of_read {n : Nat} (h : read cs = .error (.oversizedInteger n)) :
    maxDigits < n ∧ ∃ run, run <:+: cs ∧ DigitRun run n := by
  have hkeeps : Keeps (fun _ => []) (unifyLineEnds cs) (read cs) :=
    (statements_keeps _ _ _).bind fun _ => .ok List.nil_suffix
  obtain ⟨hmax, run, hrun, hdigits⟩ := hkeeps.digits n h
  exact ⟨hmax, run, infix_of_unifyLineEnds hdigits.lineFeed_notMem hrun, hdigits⟩

end CallAttribution.Toml
