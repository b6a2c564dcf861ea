import CallAttribution.Json.Reader
import CallAttribution.Proofs.Text.Numeral
import Mathlib.Tactic.FinCases
import Mathlib.Tactic.SplitIfs

/-!
# Reading tokens back

`State.readFrom` is what a text makes of a state of the reader. A blank changes nothing where a
token may stand, and a written string, numeral or word takes the place of the value it denotes.
Every lemma is about the token and whatever follows it, so that they chain along a document. A
numeral ends only where something else begins, which is why it alone needs a delimiter after it.
-/

namespace CallAttribution.Json

/-- The document that is complete when this text has been read from this state. -/
def State.readFrom (s : State) (cs : List Char) : Option Value :=
  (cs.foldlM State.step s).bind State.finish?

namespace State

@[simp] theorem readFrom_nil (s : State) : s.readFrom [] = s.finish? := rfl

theorem readFrom_cons (s : State) (c : Char) (cs : List Char) :
    s.readFrom (c :: cs) = (s.step c).bind (·.readFrom cs) := by
  simp only [readFrom, List.foldlM_cons, bind]
  cases s.step c <;> rfl

theorem readFrom_cons_of_step {s t : State} {c : Char} (h : s.step c = some t) (cs : List Char) :
    s.readFrom (c :: cs) = t.readFrom cs := by
  rw [readFrom_cons, h, Option.bind_some]

theorem readChars?_eq (cs : List Char) : readChars? cs = State.start.readFrom cs := rfl

/-- The modes in which blanks may stand. -/
inductive Waiting : Mode → Prop
  | value : Waiting .value
  | item : Waiting .item
  | member : Waiting .member
  | key : Waiting .key
  | colon : Waiting .colon
  | rest : Waiting .rest
  | done (v : Value) : Waiting (.done v)

theorem step_of_waiting {mode : Mode} (h : Waiting mode) (fs : List Frame) (c : Char) :
    step ⟨fs, mode⟩ c = between? fs mode c := by
  cases h <;> rfl

theorem between?_of_isBlank (fs : List Frame) (mode : Mode) {c : Char} (h : isBlank c = true) :
    between? fs mode c = some ⟨fs, mode⟩ := by
  unfold between?
  rw [if_pos h]

theorem readFrom_blanks {mode : Mode} (h : Waiting mode) (fs : List Frame) {ws : List Char}
    (hw : ∀ c ∈ ws, isBlank c = true) (cs : List Char) :
    readFrom ⟨fs, mode⟩ (ws ++ cs) = readFrom ⟨fs, mode⟩ cs := by
  induction ws with
  | nil => rfl
  | cons c ws ih =>
    have hc : step ⟨fs, mode⟩ c = some ⟨fs, mode⟩ := by
      rw [step_of_waiting h, between?_of_isBlank fs mode (hw c (by simp))]
    rw [List.cons_append, readFrom_cons_of_step hc]
    exact ih fun d hd => hw d (by simp [hd])

theorem hexValue?_hexDigit {n : Nat} (h : n < 16) : hexValue? (hexDigit n) = some n := by
  interval_cases n <;> rfl

/-- An escaped character is read as the character itself. -/
theorem readFrom_escape (fs : List Frame) (isKey : Bool) (acc : List Char) (c : Char)
    (cs : List Char) :
    readFrom ⟨fs, .text isKey acc⟩ (escape c ++ cs) = readFrom ⟨fs, .text isKey (c :: acc)⟩ cs := by
  unfold escape
  split_ifs with h₁ h₂ h₃ h₄ h₅ h₆ h₇ h₈
  · subst h₁; rfl
  · subst h₂; rfl
  · subst h₃; rfl
  · subst h₄; rfl
  · subst h₅; rfl
  · subst h₆; rfl
  · subst h₇; rfl
  · have hh := hexValue?_hexDigit (show c.toNat / 16 < 16 by omega)
    have hl := hexValue?_hexDigit (show c.toNat % 16 < 16 by omega)
    have hn : 16 * (c.toNat / 16) + c.toNat % 16 = c.toNat := by omega
    have h₉ : step ⟨fs, .codeUnit isKey acc none 2 0⟩ (hexDigit (c.toNat / 16)) =
        some ⟨fs, .codeUnit isKey acc none 1 (c.toNat / 16)⟩ := by
      simp [step, hh]
    have h₁₀ : step ⟨fs, .codeUnit isKey acc none 1 (c.toNat / 16)⟩ (hexDigit (c.toNat % 16)) =
        some ⟨fs, .text isKey (c :: acc)⟩ := by
      have hs : ¬(0xd800 ≤ c.toNat) := by omega
      have ht : ¬(0xdc00 ≤ c.toNat) := by omega
      simp [step, hl, hn, completeUnit?, hs, ht]
    calc readFrom ⟨fs, .text isKey acc⟩ ('\\' :: 'u' :: '0' :: '0' ::
          hexDigit (c.toNat / 16) :: hexDigit (c.toNat % 16) :: cs)
      _ = readFrom ⟨fs, .codeUnit isKey acc none 2 0⟩
          (hexDigit (c.toNat / 16) :: hexDigit (c.toNat % 16) :: cs) := rfl
      _ = readFrom ⟨fs, .codeUnit isKey acc none 1 (c.toNat / 16)⟩
          (hexDigit (c.toNat % 16) :: cs) := readFrom_cons_of_step h₉ _
      _ = readFrom ⟨fs, .text isKey (c :: acc)⟩ cs := readFrom_cons_of_step h₁₀ _
  · refine readFrom_cons_of_step ?_ cs
    simp only [step, if_neg h₁, if_neg h₂, if_neg h₈]

/-- A string after its opening quotation mark. -/
theorem readFrom_escapes (fs : List Frame) (isKey : Bool) (acc ds cs : List Char) :
    readFrom ⟨fs, .text isKey acc⟩ (ds.flatMap escape ++ '"' :: cs) =
      (completeText fs isKey (ds.reverse ++ acc)).readFrom cs := by
  induction ds generalizing acc with
  | nil => rfl
  | cons d ds ih =>
    rw [List.flatMap_cons, List.append_assoc, readFrom_escape, ih, List.reverse_cons,
      List.append_assoc]
    rfl

theorem completeText_value (fs : List Frame) (cs : List Char) :
    completeText fs false cs = complete fs (.str (String.ofList cs.reverse)) := by
  cases fs with
  | nil => rfl
  | cons f fs => cases f <;> rfl

theorem string_append (s : String) (cs : List Char) :
    string s ++ cs = '"' :: (s.toList.flatMap escape ++ '"' :: cs) := by
  simp [string]

/-- A string in the place of a value. -/
theorem readFrom_string (fs : List Frame) (s : String) (cs : List Char) :
    readFrom ⟨fs, .value⟩ (string s ++ cs) = (complete fs (.str s)).readFrom cs := by
  have h := readFrom_escapes fs false [] s.toList cs
  rw [completeText_value, List.append_nil, List.reverse_reverse, String.ofList_toList] at h
  rw [← h, string_append]
  rfl

/-- A string in the place of a key. -/
theorem readFrom_key {mode : Mode} (hm : mode = .member ∨ mode = .key) (fs : List Frame)
    (members : List (String × Value)) (key s : String) (cs : List Char) :
    readFrom ⟨.obj members key :: fs, mode⟩ (string s ++ cs) =
      readFrom ⟨.obj members s :: fs, .colon⟩ cs := by
  have h := readFrom_escapes (.obj members key :: fs) true [] s.toList cs
  simp only [completeText, List.append_nil, List.reverse_reverse, String.ofList_toList] at h
  rw [← h, string_append]
  rcases hm with rfl | rfl <;> rfl

theorem readFrom_truth (fs : List Frame) (b : Bool) (cs : List Char) :
    readFrom ⟨fs, .value⟩ (truth b ++ cs) = (complete fs (.bool b)).readFrom cs := by
  cases b <;> rfl

theorem readFrom_null (fs : List Frame) (cs : List Char) :
    readFrom ⟨fs, .value⟩ ("null".toList ++ cs) = (complete fs .null).readFrom cs := rfl

/-- The characters that may follow a value. -/
def isDelimiter (c : Char) : Bool :=
  isBlank c || c == ',' || c == ']' || c == '\x7d'

/-- Nothing follows, or a delimiter does. -/
def Delimited (cs : List Char) : Prop :=
  ∀ c ∈ cs.head?, isDelimiter c = true

theorem delimited_nil : Delimited [] := by
  simp [Delimited]

theorem delimited_cons {c : Char} (h : isDelimiter c = true) (cs : List Char) :
    Delimited (c :: cs) := by
  simp [Delimited, h]

theorem isDelimiter_cases {c : Char} (h : isDelimiter c = true) :
    c = ' ' ∨ c = '\t' ∨ c = '\n' ∨ c = '\r' ∨ c = ',' ∨ c = ']' ∨ c = '\x7d' := by
  simpa [isDelimiter, isBlank, or_assoc] using h

theorem waiting_complete (fs : List Frame) (v : Value) : Waiting (complete fs v).mode := by
  cases fs with
  | nil => exact .done v
  | cons f fs => cases f <;> exact .rest

/-- A numeral of a whole number as far as it has been read. -/
def wholeNumeral (negative : Bool) (n : Nat) (part : Part) : Numeral :=
  ⟨negative, n, 0, false, 0, part⟩

/-- A delimiter ends a numeral of a whole number. -/
theorem step_number {fs : List Frame} {n : Numeral} {v : Value} {c : Char}
    (hp : n.part = .zero ∨ n.part = .whole) (hv : n.value? = some v)
    (hc : isDelimiter c = true) : step ⟨fs, .number n⟩ c = step (complete fs v) c := by
  have hn : n.extend? c = none := by
    rcases isDelimiter_cases hc with rfl | rfl | rfl | rfl | rfl | rfl | rfl <;>
      rcases hp with hp | hp <;>
      simp [Numeral.extend?, hp, Text.isDigit, Numeral.isMark]
  have hs : step (complete fs v) c = between? (complete fs v).frames (complete fs v).mode c :=
    step_of_waiting (waiting_complete fs v) _ c
  rw [hs]
  simp [step, hn, afterNumber?, hv]

theorem readFrom_number {fs : List Frame} {n : Numeral} {v : Value} {cs : List Char}
    (hp : n.part = .zero ∨ n.part = .whole) (hv : n.value? = some v) (hcs : Delimited cs) :
    readFrom ⟨fs, .number n⟩ cs = (complete fs v).readFrom cs := by
  cases cs with
  | nil =>
    cases fs with
    | nil => exact hv
    | cons f fs => cases f <;> rfl
  | cons c cs =>
    rw [readFrom_cons, readFrom_cons, step_number hp hv (hcs c rfl)]

theorem readFrom_digits (fs : List Frame) (negative : Bool) (n : Nat) {ds : List Char}
    (hd : ∀ d ∈ ds, Text.isDigit d = true) (cs : List Char) :
    readFrom ⟨fs, .number (wholeNumeral negative n .whole)⟩ (ds ++ cs) =
      readFrom ⟨fs, .number (wholeNumeral negative (Text.numberFrom n ds) .whole)⟩ cs := by
  induction ds generalizing n with
  | nil => rfl
  | cons d ds ih =>
    have hs : step ⟨fs, .number (wholeNumeral negative n .whole)⟩ d =
        some ⟨fs, .number (wholeNumeral negative (10 * n + Text.digitValue d) .whole)⟩ := by
      simp [step, Numeral.extend?, wholeNumeral, hd d (by simp), Numeral.addWhole]
    rw [List.cons_append, readFrom_cons_of_step hs, ih _ fun x hx => hd x (by simp [hx])]
    rfl

theorem ne_of_isDigit {c d : Char} (hc : Text.isDigit c = true) (hd : Text.isDigit d = false) :
    c ≠ d := by
  rintro rfl
  rw [hc] at hd
  contradiction

/-- A digit other than zero opens a numeral. -/
theorem begin?_digit (fs : List Frame) {d : Char} (h₀ : d ≠ '0') (hd : Text.isDigit d = true) :
    begin? fs d = some ⟨fs, .number (wholeNumeral false (Text.digitValue d) .whole)⟩ := by
  have h : ∀ x ∈ ['"', '[', '\x7b', 't', 'f', 'n', '-'], d ≠ x := fun x hx =>
    ne_of_isDigit hd (by fin_cases hx <;> rfl)
  have hn : Numeral.ofChar? d = some (wholeNumeral false (Text.digitValue d) .whole) := by
    simp [Numeral.ofChar?, h₀, hd, h '-' (by simp), wholeNumeral]
  simp only [begin?, if_neg (h '"' (by simp)), if_neg (h '[' (by simp)),
    if_neg (h '\x7b' (by simp)), if_neg (h 't' (by simp)), if_neg (h 'f' (by simp)),
    if_neg (h 'n' (by simp)), hn]
  rfl

theorem step_digit (fs : List Frame) {d : Char} (h₀ : d ≠ '0') (hd : Text.isDigit d = true) :
    step ⟨fs, .value⟩ d =
      some ⟨fs, .number (wholeNumeral false (Text.digitValue d) .whole)⟩ := by
  have hb : isBlank d = false := by
    have h : ∀ x ∈ [' ', '\t', '\n', '\r'], d ≠ x := fun x hx =>
      ne_of_isDigit hd (by fin_cases hx <;> rfl)
    simpa [isBlank, and_assoc] using h
  rw [step_of_waiting .value, between?, hb]
  exact begin?_digit fs h₀ hd

/-- After a sign, a digit other than zero opens the digits. -/
theorem step_signed (fs : List Frame) {d : Char} (h₀ : d ≠ '0') (hd : Text.isDigit d = true) :
    step ⟨fs, .number ⟨true, 0, 0, false, 0, .sign⟩⟩ d =
      some ⟨fs, .number (wholeNumeral true (Text.digitValue d) .whole)⟩ := by
  simp [step, Numeral.extend?, h₀, hd, Numeral.addWhole, wholeNumeral]

theorem value?_wholeNumeral (negative : Bool) (n : Nat) {i : Int}
    (hi : (wholeNumeral negative n .whole).whole = i) (hr : inRange i = true) :
    (wholeNumeral negative n .whole).value? = some (.int i) := by
  subst hi
  exact if_pos hr

/-- A whole number in range in the place of a value. -/
theorem readFrom_integerNumeral (fs : List Frame) {i : Int} (hi : inRange i = true)
    {cs : List Char} (hcs : Delimited cs) :
    readFrom ⟨fs, .value⟩ (Text.integerNumeral i ++ cs) = (complete fs (.int i)).readFrom cs := by
  rcases i with n | n
  · rcases Nat.eq_zero_or_pos n with rfl | hn
    · exact readFrom_number (n := wholeNumeral false 0 .zero) (Or.inl rfl) rfl hcs
    · obtain ⟨d, ds, hd, h₀, h₁, h₂⟩ := Text.numeral_of_pos hn
      have hv := value?_wholeNumeral false n rfl hi
      rw [Text.integerNumeral, hd, List.cons_append,
        readFrom_cons_of_step (step_digit fs h₀ (h₁ d (by simp))),
        readFrom_digits fs _ _ fun c hc => h₁ c (by simp [hc]), h₂]
      exact readFrom_number (Or.inr rfl) hv hcs
  · obtain ⟨d, ds, hd, h₀, h₁, h₂⟩ := Text.numeral_of_pos (Nat.succ_pos n)
    have hv := value?_wholeNumeral true (n + 1) rfl hi
    have hm : step ⟨fs, .value⟩ '-' = some ⟨fs, .number ⟨true, 0, 0, false, 0, .sign⟩⟩ := rfl
    rw [Text.integerNumeral, hd, List.cons_append, readFrom_cons_of_step hm, List.cons_append,
      readFrom_cons_of_step (step_signed fs h₀ (h₁ d (by simp))),
      readFrom_digits fs _ _ fun c hc => h₁ c (by simp [hc]), h₂]
    exact readFrom_number (Or.inr rfl) hv hcs

end State

end CallAttribution.Json
