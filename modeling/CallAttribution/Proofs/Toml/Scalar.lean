import CallAttribution.Toml.Scalar
import Mathlib.Data.List.Infix
import Mathlib.Tactic.SplitIfs

/-!
# Readers of scalars keep to their characters

What a reader leaves is an end of the characters it is given. A whole number is refused for its
digits only if it has too many, and then they stand there in a row, low lines between them aside.
-/

namespace CallAttribution.Toml

variable {α β : Type} {cs : List Char}

/-- Decimal digits, `n` in all, with low lines among them. -/
structure DigitRun (run : List Char) (n : Nat) : Prop where
  chars : ∀ c ∈ run, Text.isDigit c = true ∨ c = '_'
  count : run.countP Text.isDigit = n

/-- What a reader makes of some characters, keeping to them: the characters it leaves are an end of
them, and digits are only refused if they are too many and stand there. -/
structure Keeps (rest : β → List Char) (cs : List Char) (r : Except Error β) : Prop where
  suffix : ∀ b, r = .ok b → rest b <:+ cs
  digits : ∀ n, r = .error (.oversizedInteger n) →
    maxDigits < n ∧ ∃ run, run <:+: cs ∧ DigitRun run n

namespace Keeps

variable {rest : α → List Char} {rest' : β → List Char} {r : Except Error α}

theorem ok {a : α} (h : rest a <:+ cs) : Keeps rest cs (.ok a) where
  suffix := by
    rintro _ ⟨⟩
    exact h
  digits := by simp

theorem malformed : Keeps rest cs (.error .malformed) where
  suffix := by simp
  digits := by simp

theorem of_suffix {cs' : List Char} (h : Keeps rest cs r) (hcs : cs <:+ cs') :
    Keeps rest cs' r where
  suffix a ha := (h.suffix a ha).trans hcs
  digits n hn := by
    obtain ⟨hmax, run, hrun, hdigits⟩ := h.digits n hn
    exact ⟨hmax, run, hrun.trans hcs.isInfix, hdigits⟩

/-- One reader after the other, the second on what the first has left. -/
theorem bind {f : α → Except Error β} (h : Keeps rest cs r)
    (hf : ∀ a, Keeps rest' (rest a) (f a)) : Keeps rest' cs (r >>= f) := by
  cases r with
  | error e =>
    refine ⟨by rintro _ ⟨⟩, fun n hn => h.digits n ?_⟩
    cases hn
    rfl
  | ok a => exact (hf a).of_suffix (h.suffix a rfl)

theorem map {f : α → β} (h : Keeps rest cs r) (hf : ∀ a, rest' (f a) <:+ rest a) :
    Keeps rest' cs (r.map f) := by
  cases r with
  | error e =>
    refine ⟨by rintro _ ⟨⟩, fun n hn => h.digits n ?_⟩
    cases hn
    rfl
  | ok a => exact ok ((hf a).trans (h.suffix a rfl))

end Keeps

/-- A reader that may find nothing leaves an end of the characters it is given if it does. -/
def Leaves (rest : β → List Char) (cs : List Char) (o : Option β) : Prop :=
  ∀ b ∈ o, rest b <:+ cs

namespace Leaves

variable {rest : α → List Char} {rest' : β → List Char} {o : Option α}

theorem some {a : α} (h : rest a <:+ cs) : Leaves rest cs (some a) := by
  rintro _ ⟨⟩
  exact h

theorem none : Leaves rest cs none := by
  rintro _ ⟨⟩

theorem of_suffix {cs' : List Char} (h : Leaves rest cs o) (hcs : cs <:+ cs') : Leaves rest cs' o :=
  fun a ha => (h a ha).trans hcs

theorem bind {f : α → Option β} (h : Leaves rest cs o) (hf : ∀ a, Leaves rest' (rest a) (f a)) :
    Leaves rest' cs (o >>= f) := by
  cases o with
  | none => exact none
  | some a => exact (hf a).of_suffix (h a rfl)

theorem getD {a : α} (h : Leaves rest cs o) (ha : rest a <:+ cs) : rest (o.getD a) <:+ cs := by
  cases o with
  | none => exact ha
  | some b => exact h b rfl

end Leaves

theorem quoted_keeps (multiline : Bool) (chars : List Char) (q : Quoting) (cs : List Char) :
    Keeps Prod.snd cs (quoted multiline chars q cs) := by
  fun_induction quoted multiline chars q cs with
  | case1 | case7 | case14 | case17 | case18 | case20 => exact .malformed
  -- one closing quote, or three of them
  | case4 => exact .ok (List.suffix_cons _ _)
  | case5 => exact .ok ((List.drop_suffix _ _).trans (List.suffix_cons _ _))
  | _ =>
    next ih => exact ih.of_suffix (List.suffix_cons _ _)

theorem literal_keeps (multiline : Bool) (chars cs : List Char) :
    Keeps Prod.snd cs (literal multiline chars cs) := by
  fun_induction literal multiline chars cs with
  | case1 => exact .malformed
  | case2 => exact .ok (List.suffix_cons _ _)
  | case3 => exact .ok ((List.drop_suffix _ _).trans (List.suffix_cons _ _))
  | case4 => exact .malformed
  | case5 _ _ _ _ _ _ ih => exact ih.of_suffix (List.suffix_cons _ _)

theorem withTrailing_suffix (c : Char) (r : List Char × List Char) :
    (withTrailing c r).2 <:+ r.2 :=
  List.drop_suffix _ _

theorem dropFeed_suffix (cs : List Char) : dropFeed cs <:+ cs := by
  rw [dropFeed.eq_def]
  split
  · exact List.suffix_cons _ _
  · exact List.suffix_rfl

theorem string?_keeps {r : Read (List Char)} (h : string? cs = some r) : Keeps Prod.snd cs r := by
  rw [string?.eq_def] at h
  split at h
  · next cs =>
    cases h
    have hcs := (dropFeed_suffix cs).trans (List.suffix_append ['"', '"', '"'] cs)
    exact ((quoted_keeps _ _ _ _).map (withTrailing_suffix '"')).of_suffix hcs
  · cases h
    exact (quoted_keeps _ _ _ _).of_suffix (List.suffix_cons _ _)
  · next cs =>
    cases h
    have hcs := (dropFeed_suffix cs).trans (List.suffix_append ['\'', '\'', '\''] cs)
    exact ((literal_keeps _ _ _).map (withTrailing_suffix '\'')).of_suffix hcs
  · cases h
    exact (literal_keeps _ _ _).of_suffix (List.suffix_cons _ _)
  · cases h

/-- Digits are read with low lines between them, and all of them are returned. -/
theorem moreDigits_eq (p : Char → Bool) (cs : List Char) :
    ∃ run, run ++ (moreDigits p cs).2 = cs ∧ (∀ c ∈ run, p c = true ∨ c = '_') ∧
      (p '_' = false → run.countP p = (moreDigits p cs).1.length) := by
  fun_induction moreDigits p cs with
  | case1 c cs hc ds rest hmore ih =>
    obtain ⟨run, hrun, hchars, hcount⟩ := ih
    rw [hmore] at hrun hcount
    refine ⟨'_' :: c :: run, by simp [← hrun], by simpa [hc] using hchars, fun hp => ?_⟩
    simp [hc, hp, hcount hp]
  | case3 c cs _ hc ds rest hmore ih =>
    obtain ⟨run, hrun, hchars, hcount⟩ := ih
    rw [hmore] at hrun hcount
    refine ⟨c :: run, by simp [← hrun], by simpa [hc] using hchars, fun hp => ?_⟩
    simp [hc, hcount hp]
  | case2 | case4 | case5 => exact ⟨[], rfl, by simp, by simp⟩

theorem digits?_eq {p : Char → Bool} {ds rest : List Char} (h : digits? p cs = some (ds, rest)) :
    ∃ run, run ++ rest = cs ∧ (∀ c ∈ run, p c = true ∨ c = '_') ∧
      (p '_' = false → run.countP p = ds.length) := by
  rw [digits?.eq_def] at h
  split at h
  · next c cs =>
    split_ifs at h with hc
    cases h
    obtain ⟨run, hrun, hchars, hcount⟩ := moreDigits_eq p cs
    refine ⟨c :: run, by simp [hrun], by simpa [hc] using hchars, fun hp => ?_⟩
    simp [hc, hcount hp]
  · cases h

theorem digits?_leaves (p : Char → Bool) (cs : List Char) : Leaves Prod.snd cs (digits? p cs) := by
  rintro ⟨ds, rest⟩ h
  obtain ⟨run, hrun, -⟩ := digits?_eq h
  exact ⟨run, hrun⟩

theorem based?_leaves (cs : List Char) : Leaves Prod.snd cs (based? cs) := by
  rw [based?.eq_def]
  split
  · next c cs =>
    have hbase : Leaves (fun _ => cs) ('0' :: c :: cs) (base? c) :=
      fun _ _ => List.suffix_append ['0', c] cs
    exact hbase.bind fun ⟨p, b⟩ =>
      (digits?_leaves p cs).bind fun ⟨ds, rest⟩ => .some List.suffix_rfl
  · exact .none

theorem unsign_suffix (cs : List Char) : (unsign cs).2 <:+ cs := by
  rw [unsign.eq_def]
  split
  · exact List.suffix_cons _ _
  · exact List.suffix_cons _ _
  · exact List.suffix_rfl

theorem wholeDigits?_eq {ds rest : List Char} (h : wholeDigits? cs = some (ds, rest)) :
    ∃ run, run ++ rest = cs ∧ DigitRun run ds.length := by
  rw [wholeDigits?.eq_def] at h
  split at h
  · cases h
    exact ⟨['0'], rfl, fun c hc => Or.inl (List.mem_singleton.mp hc ▸ rfl), rfl⟩
  · obtain ⟨run, hrun, hchars, hcount⟩ := digits?_eq h
    exact ⟨run, hrun, hchars, hcount (by decide)⟩

theorem fractionDigits_suffix (cs : List Char) : (fractionDigits cs).2 <:+ cs := by
  rw [fractionDigits.eq_def]
  split
  · next cs =>
    exact ((digits?_leaves Text.isDigit cs).of_suffix (List.suffix_cons _ _)).getD List.suffix_rfl
  · exact List.suffix_rfl

theorem exponent?_leaves (cs : List Char) : Leaves Prod.snd cs (exponent? cs) := by
  rw [exponent?.eq_def]
  split
  · next c cs =>
    split
    · refine .of_suffix ?_ ((unsign_suffix cs).trans (List.suffix_cons _ _))
      exact (digits?_leaves Text.isDigit _).bind fun ⟨ds, rest⟩ => .some List.suffix_rfl
    · exact .none
  · exact .none

/-- Only a whole number without fraction and exponent is refused for its digits. -/
theorem decimal?_keeps {r : Read Value} (h : decimal? cs = some r) : Keeps Prod.snd cs r := by
  simp only [decimal?, Option.bind_eq_bind, Option.bind_eq_some_iff] at h
  obtain ⟨⟨ds, rest⟩, hwhole, h⟩ := h
  obtain ⟨run, hrun, hdigits⟩ := wholeDigits?_eq hwhole
  have hrest : rest <:+ cs := (List.suffix_append run rest).trans (hrun ▸ unsign_suffix cs)
  have hfraction := (fractionDigits_suffix rest).trans hrest
  split at h
  · next e rest' he =>
    cases h
    exact .ok ((exponent?_leaves _ _ he).trans hfraction)
  · split_ifs at h with hfs hmax
    · cases h
      exact .ok hfraction
    · cases h
      refine ⟨by rintro _ ⟨⟩, fun n hn => ?_⟩
      cases hn
      refine ⟨hmax, run, ?_, hdigits⟩
      exact (List.prefix_append run rest).isInfix.trans (hrun ▸ (unsign_suffix cs).isInfix)
    all_goals
      cases h
      exact .ok hfraction

theorem special?_leaves (cs : List Char) : Leaves Prod.snd cs (special? cs) := by
  simp only [special?]
  split_ifs
  · exact .some ((List.drop_suffix _ _).trans (unsign_suffix cs))
  · exact .some ((List.drop_suffix _ _).trans (unsign_suffix cs))
  · exact .none

theorem fixed?_leaves (n : Nat) (cs : List Char) : Leaves Prod.snd cs (fixed? n cs) := by
  simp only [fixed?]
  split_ifs
  · exact .some (List.drop_suffix _ _)
  · exact .none

theorem expect?_leaves (c : Char) (cs : List Char) : Leaves id cs (expect? c cs) := by
  rw [expect?.eq_def]
  split
  · split_ifs
    · exact .some (List.suffix_cons _ _)
    · exact .none
  · exact .none

theorem secondFraction_suffix (cs : List Char) : secondFraction cs <:+ cs := by
  rw [secondFraction.eq_def]
  split
  · next d ds =>
    split_ifs
    · exact (List.dropWhile_suffix _).trans (List.suffix_append ['.', d] ds)
    · exact List.suffix_rfl
  · exact List.suffix_rfl

theorem time?_leaves (cs : List Char) : Leaves id cs (time? cs) := by
  refine (fixed?_leaves 2 cs).bind fun ⟨hour, cs⟩ => ?_
  refine (expect?_leaves ':' cs).bind fun cs => ?_
  refine (fixed?_leaves 2 cs).bind fun ⟨minute, cs⟩ => ?_
  refine (expect?_leaves ':' cs).bind fun cs => ?_
  refine (fixed?_leaves 2 cs).bind fun ⟨second, cs⟩ => ?_
  dsimp only
  split_ifs
  · exact .some (secondFraction_suffix cs)
  · exact .none

theorem afterOffset_suffix (cs : List Char) : afterOffset cs <:+ cs := by
  rw [afterOffset.eq_def]
  split
  · next c rest =>
    split_ifs
    · exact List.suffix_cons _ _
    · change id _ <:+ _
      refine Leaves.getD (.of_suffix ?_ (List.suffix_cons c rest)) List.suffix_rfl
      refine (fixed?_leaves 2 rest).bind fun ⟨hour, cs⟩ => ?_
      refine (expect?_leaves ':' cs).bind fun cs => ?_
      refine (fixed?_leaves 2 cs).bind fun ⟨minute, cs⟩ => ?_
      dsimp only
      split_ifs
      · exact .some List.suffix_rfl
      · exact .none
    · exact List.suffix_rfl
  · exact List.suffix_rfl

theorem date?_leaves (cs : List Char) : Leaves Prod.snd cs (date? cs) := by
  refine (fixed?_leaves 4 cs).bind fun ⟨year, cs⟩ => ?_
  refine (expect?_leaves '-' cs).bind fun cs => ?_
  refine (fixed?_leaves 2 cs).bind fun ⟨month, cs⟩ => ?_
  refine (expect?_leaves '-' cs).bind fun cs => ?_
  refine (fixed?_leaves 2 cs).bind fun ⟨day, cs⟩ => ?_
  dsimp only
  split_ifs
  · exact .some List.suffix_rfl
  · exact .none

theorem afterTime_suffix (cs : List Char) : afterTime cs <:+ cs := by
  rw [afterTime.eq_def]
  split
  · next c rest =>
    split_ifs
    · split
      · next rest' h =>
        have hrest : rest' <:+ rest := time?_leaves rest _ h
        exact (afterOffset_suffix rest').trans (hrest.trans (List.suffix_cons _ _))
      · exact List.suffix_rfl
    · exact List.suffix_rfl
  · exact List.suffix_rfl

theorem moment?_keeps {r : Read Value} (h : moment? cs = some r) : Keeps Prod.snd cs r := by
  rw [moment?.eq_def] at h
  split at h
  · next hdate =>
    split_ifs at h
    · cases h
      exact .malformed
    · cases h
      exact .ok ((afterTime_suffix _).trans (date?_leaves cs _ hdate))
  · obtain ⟨rest, htime, rfl⟩ := Option.map_eq_some_iff.mp h
    exact .ok (time?_leaves cs _ htime)

end CallAttribution.Toml
