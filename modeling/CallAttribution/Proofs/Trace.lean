import CallAttribution.Proofs.Course
import CallAttribution.Proofs.Precedence
import CallAttribution.Proofs.Text.Numeral
import CallAttribution.Proofs.Text.Word
import Mathlib.Data.List.Forall2
import Mathlib.Order.Bounds.Basic

/-!
# What the lines of a call site tell

The lines are handed out on the way, in the order of registration, while the decision is made from
the best finding at the end. Still a reader of the lines alone learns the decision: each heuristic
has a line that tells what it found, the last line tells the decision, and the confidence it states
is the largest one that a heuristic has stated before.
-/

namespace CallAttribution

/-- What a candidate is called in a line: its name, or the beginning of its address if it has no
name or an empty one. -/
inductive Called (c : Candidate) : String → Prop
  | named {n : String} : c.name = some n → n ≠ "" → Called c n
  | shortened : c.name = none ∨ c.name = some "" →
      Called c (String.ofList (c.address.toList.take 14))

theorem called_label (c : Candidate) : Called c c.label := by
  unfold Candidate.label
  split
  · next n hn =>
    split
    · next hempty => exact .shortened (Or.inr (hempty ▸ hn))
    · next hne => exact .named hn hne
  · next hn => exact .shortened (Or.inl hn)

theorem called_labels (cs : List Candidate) : List.Forall₂ Called cs (cs.map (·.label)) := by
  rw [List.forall₂_map_right_iff]
  exact List.forall₂_same.mpr fun c _ => called_label c

namespace Engine

/-- The line of a heuristic: it says that there is no match exactly if nothing was found, and
otherwise it tells how many candidates were found, what they are called, and the confidence. -/
structure Reports (c : Context) (h : Heuristic) (line : String) : Prop where
  noMatch_iff : line = "      - " ++ h.name ++ ": no match" ↔ h.apply c = none
  found : ∀ f, h.apply c = some f → ∃ labels, List.Forall₂ Called f.candidates labels ∧
    line = "      - " ++ h.name ++ ": " ++ Text.showNat f.candidates.length ++ " match(es) [" ++
      ", ".intercalate labels ++ "] -> confidence: " ++ Text.showNat f.confidence ++ "%"

/-- The last line: it says that there is no winner exactly if nothing was decided, and otherwise it
tells the heuristic, the confidence and what the candidates are called. -/
structure Concludes (decision : Option Decision) (line : String) : Prop where
  noWinner_iff : line = "      Result: no winner" ↔ decision = none
  winner : ∀ d, decision = some d → ∃ labels, List.Forall₂ Called d.candidates labels ∧
    line = "      Winner: " ++ d.heuristic ++ " (" ++ Text.showInt d.confidence ++ "%) -> " ++
      ", ".intercalate labels

/-- The line ends with a confidence of so many percent. -/
def StatesConfidence (line : String) (n : Nat) : Prop :=
  ∃ text, line = text ++ "confidence: " ++ Text.showNat n ++ "%"

theorem heuristicLine_none (name : String) :
    heuristicLine name none = "      - " ++ name ++ ": no match" :=
  rfl

theorem heuristicLine_some (name : String) (f : Finding) :
    heuristicLine name (some f) = "      - " ++ name ++ ": " ++ Text.showNat f.candidates.length ++
      " match(es) [" ++ showLabels f.candidates ++ "] -> confidence: " ++
      Text.showNat f.confidence ++ "%" :=
  rfl

theorem outcomeLine_none : outcomeLine none = "      Result: no winner" :=
  rfl

theorem outcomeLine_some (d : Decision) :
    outcomeLine (some d) = "      Winner: " ++ d.heuristic ++ " (" ++ Text.showInt d.confidence ++
      "%) -> " ++ showLabels d.candidates :=
  rfl

/-- A count is a number, which the words of the other line do not begin with. -/
theorem heuristicLine_some_ne (name : String) (f : Finding) :
    heuristicLine name (some f) ≠ heuristicLine name none := by
  intro h
  have hlist := congrArg String.toList h
  have hnone : ": no match".toList = ": ".toList ++ "no match".toList := rfl
  simp only [heuristicLine_none, heuristicLine_some, String.toList_append, List.append_assoc,
    Text.showNat, String.toList_ofList, hnone, List.append_cancel_left_eq] at hlist
  obtain ⟨d, ds, hd⟩ : ∃ d ds, Text.numeral f.candidates.length = d :: ds :=
    List.exists_cons_of_ne_nil Nat.toDigits_ne_nil
  have hmem : d ∈ Text.numeral f.candidates.length := by
    rw [hd]
    exact List.mem_cons_self
  have hdigit : Text.isDigit d = true := Text.isDigit_of_mem_numeral d hmem
  rw [hd] at hlist
  obtain rfl : d = 'n' := (List.cons.inj hlist).1
  exact absurd hdigit (by decide)

/-- After the same blanks the lines begin with different letters. -/
theorem outcomeLine_some_ne (d : Decision) : outcomeLine (some d) ≠ outcomeLine none := by
  intro h
  have hlist := congrArg String.toList h
  have hwinner : "      Winner: ".toList = "      ".toList ++ 'W' :: "inner: ".toList := by
    decide
  have hresult : "      Result: no winner".toList =
      "      ".toList ++ 'R' :: "esult: no winner".toList := by
    decide
  simp only [outcomeLine_none, outcomeLine_some, String.toList_append, List.append_assoc,
    List.cons_append, hwinner, hresult, List.append_cancel_left_eq] at hlist
  exact absurd (List.cons.inj hlist).1 (by decide)

theorem reports_heuristicLine (c : Context) (h : Heuristic) :
    Reports c h (heuristicLine h.name (h.apply c)) where
  noMatch_iff := by
    cases hf : h.apply c with
    | none => exact iff_of_true rfl rfl
    | some f => exact iff_of_false (heuristicLine_some_ne h.name f) (Option.some_ne_none f)
  found := by
    intro f hf
    rw [hf]
    exact ⟨_, called_labels f.candidates, rfl⟩

theorem concludes_outcomeLine (d : Option Decision) : Concludes d (outcomeLine d) where
  noWinner_iff := by
    cases d with
    | none => exact iff_of_true rfl rfl
    | some d => exact iff_of_false (outcomeLine_some_ne d) (Option.some_ne_none d)
  winner := by
    rintro d rfl
    exact ⟨_, called_labels d.candidates, rfl⟩

/-- The line of a heuristic that found nothing states no confidence. -/
theorem not_statesConfidence_none (name : String) (n : Nat) :
    ¬ StatesConfidence (heuristicLine name none) n := by
  rintro ⟨text, h⟩
  have hlast := congrArg (fun line => line.toList.getLast?) h
  have hnone : ": no match".toList = ": no matc".toList ++ ['h'] := rfl
  have hpercent : "%".toList = ['%'] := rfl
  simp only [heuristicLine_none, String.toList_append, hnone, hpercent, ← List.append_assoc,
    List.getLast?_append_cons] at hlast
  exact absurd hlast (by decide)

/-- The digits at the end of a text are read back to the blank before them. -/
theorem eq_of_append_numeral {xs ys : List Char} {m n : Nat}
    (h : xs ++ [' '] ++ Text.numeral m = ys ++ [' '] ++ Text.numeral n) : m = n := by
  have hrev : (Text.numeral m).reverse ++ ' ' :: xs.reverse =
      (Text.numeral n).reverse ++ ' ' :: ys.reverse := by
    simpa using congrArg List.reverse h
  have hdigits (k : Nat) : ∀ d ∈ (Text.numeral k).reverse, Text.isDigit d = true := fun d hd =>
    Text.isDigit_of_mem_numeral d (List.mem_reverse.mp hd)
  have hblank : Text.isDigit ' ' = false := rfl
  obtain ⟨hnumeral, -⟩ := Text.eq_of_append_eq hrev (hdigits m) (Text.stopsAt_cons hblank)
    (hdigits n) (Text.stopsAt_cons hblank)
  exact Text.numeral_injective (List.reverse_injective hnumeral)

theorem statesConfidence_some {name : String} {f : Finding} {n : Nat} :
    StatesConfidence (heuristicLine name (some f)) n ↔ n = f.confidence := by
  constructor
  · rintro ⟨text, h⟩
    have hfound : "] -> confidence: ".toList = "] -> confidence:".toList ++ [' '] := by decide
    have hstated : "confidence: ".toList = "confidence:".toList ++ [' '] := by decide
    have hlist := congrArg String.toList h
    simp only [heuristicLine_some, Text.showNat, String.toList_append, String.toList_ofList, hfound,
      hstated, ← List.append_assoc, List.append_cancel_right_eq] at hlist
    exact (eq_of_append_numeral hlist).symm
  · rintro rfl
    have hfound : "] -> confidence: " = "] -> " ++ "confidence: " := by decide
    refine ⟨"      - " ++ name ++ ": " ++ Text.showNat f.candidates.length ++ " match(es) [" ++
      showLabels f.candidates ++ "] -> ", ?_⟩
    simp only [heuristicLine_some, hfound, String.append_assoc]

theorem reports_reportLines (c : Context) (hs : List Heuristic) :
    List.Forall₂ (Reports c) hs (reportLines c hs) := by
  rw [reportLines, List.forall₂_map_right_iff]
  exact List.forall₂_same.mpr fun h _ => reports_heuristicLine c h

/-- A confidence is stated by the line of a heuristic that found something with it. -/
theorem exists_statesConfidence_iff {c : Context} {hs : List Heuristic} {n : Nat} :
    (∃ line ∈ reportLines c hs, StatesConfidence line n) ↔
      ∃ h ∈ hs, ∃ f ∈ h.apply c, n = f.confidence := by
  have hstated (h : Heuristic) : StatesConfidence (heuristicLine h.name (h.apply c)) n ↔
      ∃ f ∈ h.apply c, n = f.confidence := by
    cases h.apply c with
    | none => simp [not_statesConfidence_none]
    | some f => simp [statesConfidence_some]
  constructor
  · rintro ⟨line, hline, hn⟩
    obtain ⟨h, hh, rfl⟩ := List.mem_map.mp hline
    exact ⟨h, hh, (hstated h).mp hn⟩
  · rintro ⟨h, hh, hf⟩
    exact ⟨_, List.mem_map_of_mem hh, (hstated h).mpr hf⟩

/-- No heuristic states more than the one that prevails. -/
theorem isGreatest_confidence {e : Engine} {c : Context} {d : Decision}
    (hd : (e.resolve c).result = some d) :
    ∃ n : Nat, d.confidence = n ∧
      IsGreatest {m | ∃ line ∈ reportLines c e.heuristics, StatesConfidence line m} n := by
  obtain ⟨h, f, hp, rfl⟩ := result_eq_some_iff.mp hd
  obtain ⟨before, after, hsplit, -⟩ := hp.earliest
  have hmem : h ∈ e.heuristics := by simp [hsplit]
  refine ⟨f.confidence, rfl, exists_statesConfidence_iff.mpr ⟨h, hmem, f, hp.answers, rfl⟩, ?_⟩
  intro m hm
  obtain ⟨g, hg, x, hx, rfl⟩ := exists_statesConfidence_iff.mp hm
  exact hp.greatest g hg x hx

/-- An engine hands out the header of the call, one line for each of its heuristics in the order of
registration, however confident the ones before, and a last line. The line of a heuristic tells what
it found, the last line tells what is decided, and the confidence of the decision is the largest
that a heuristic's line states. -/
theorem lines_tell_decision (e : Engine) (c : Context) :
    ∃ reports last, (e.resolve c).events =
        ("    Resolving: " ++ c.call.storageVariable ++ " -> " ++ c.call.calledFunction ++ "() [" ++
          c.call.interfaceType ++ "]") :: (reports ++ [last]) ∧
      (e.resolve c).events.length = e.heuristics.length + 2 ∧
      List.Forall₂ (Reports c) e.heuristics reports ∧
      Concludes (e.resolve c).result last ∧
      ∀ d, (e.resolve c).result = some d →
        ∃ n : Nat, d.confidence = n ∧
          IsGreatest {m | ∃ line ∈ reports, StatesConfidence line m} n := by
  refine ⟨reportLines c e.heuristics, outcomeLine (e.resolve c).result, events_resolve e c,
    length_events_resolve e c, reports_reportLines c e.heuristics, concludes_outcomeLine _, ?_⟩
  intro d hd
  exact isGreatest_confidence hd

/-- Nothing is more confident than the first heuristic, and still the others have their lines. Its
candidate has an empty name. -/
theorem lines_tell_decision_certain :
    let certain : Finding := ⟨[⟨"0x1234567890abcdef", some ""⟩], 100, by simp, by decide⟩
    let late : Finding := ⟨[⟨"0x1", some "Vault"⟩, ⟨"0x2", none⟩], 40, by simp, by decide⟩
    let e : Engine := ⟨[⟨"first", "", fun _ => some certain⟩, ⟨"silent", "", fun _ => none⟩,
      ⟨"late", "", fun _ => some late⟩], by decide⟩
    let c : Context := ⟨⟨"v", "IToken", "f"⟩, "0x1", ⟨[], []⟩, []⟩
    (e.resolve c).events = ["    Resolving: v -> f() [IToken]",
      "      - first: 1 match(es) [0x1234567890ab] -> confidence: 100%",
      "      - silent: no match",
      "      - late: 2 match(es) [Vault, 0x2] -> confidence: 40%",
      "      Winner: first (100%) -> 0x1234567890ab"] ∧
    ∃ reports last,
      (e.resolve c).events = "    Resolving: v -> f() [IToken]" :: (reports ++ [last]) ∧
      reports.length = 3 ∧ IsGreatest {m | ∃ line ∈ reports, StatesConfidence line m} 100 := by
  intro certain late e c
  obtain ⟨reports, last, hevents, -, hreports, -, hgreatest⟩ := lines_tell_decision e c
  have hdecision : (e.resolve c).result = some ⟨"first", certain.candidates, 100⟩ := by
    rw [result_resolve]
    rfl
  have hlines : (e.resolve c).events = ["    Resolving: v -> f() [IToken]",
      "      - first: 1 match(es) [0x1234567890ab] -> confidence: 100%",
      "      - silent: no match",
      "      - late: 2 match(es) [Vault, 0x2] -> confidence: 40%",
      "      Winner: first (100%) -> 0x1234567890ab"] := by
    rw [events_resolve, hdecision]
    decide +kernel
  obtain ⟨n, hn, hmax⟩ := hgreatest _ hdecision
  obtain rfl : n = 100 := Int.ofNat.inj hn.symm
  exact ⟨hlines, reports, last, hevents, hreports.length_eq.symm, hmax⟩

end Engine

end CallAttribution
