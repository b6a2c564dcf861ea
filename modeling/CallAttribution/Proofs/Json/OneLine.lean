import CallAttribution.Json.Basic
import CallAttribution.Proofs.Text.Framing
import CallAttribution.Proofs.Text.Numeral
import Mathlib.Tactic.IntervalCases
import Mathlib.Tactic.SplitIfs

/-!
# A compact document stands on one line

The compact layout holds no control character, since strings escape them, so its bytes hold no
line feed.
-/

namespace CallAttribution.Json

/-- No control character occurs. -/
def Printable (cs : List Char) : Prop :=
  ∀ c ∈ cs, 0x20 ≤ c.toNat

@[simp] theorem printable_nil : Printable [] := by
  simp [Printable]

@[simp] theorem printable_cons {c : Char} {cs : List Char} :
    Printable (c :: cs) ↔ 0x20 ≤ c.toNat ∧ Printable cs := by
  simp [Printable]

@[simp] theorem printable_append {cs ds : List Char} :
    Printable (cs ++ ds) ↔ Printable cs ∧ Printable ds := by
  simp [Printable, or_imp, forall_and]

theorem printable_hexDigit {n : Nat} (h : n < 16) : 0x20 ≤ (hexDigit n).toNat := by
  interval_cases n <;> decide

theorem printable_escape (c : Char) : Printable (escape c) := by
  unfold escape
  split_ifs with h₁ h₂ h₃ h₄ h₅ h₆ h₇ h₈
  iterate 7 · simp
  · have hh := printable_hexDigit (show c.toNat / 16 < 16 by omega)
    have hl := printable_hexDigit (show c.toNat % 16 < 16 by omega)
    simp [hh, hl]
  · simpa using Nat.le_of_not_lt h₈

theorem printable_string (s : String) : Printable (string s) := by
  have h : Printable (s.toList.flatMap escape) := by
    intro c hc
    obtain ⟨d, -, hd⟩ := List.mem_flatMap.mp hc
    exact printable_escape d c hd
  simp [string, h]

theorem printable_numeral (n : Nat) : Printable (Text.numeral n) := by
  intro c hc
  have hd := Text.isDigit_of_mem_numeral c hc
  have hle : '0' ≤ c := by
    simp only [Text.isDigit, Bool.and_eq_true, decide_eq_true_eq] at hd
    exact hd.1
  have h : 48 ≤ c.toNat := hle
  omega

theorem printable_integerNumeral (i : Int) : Printable (Text.integerNumeral i) := by
  cases i with
  | ofNat n => exact printable_numeral n
  | negSucc n => simp [Text.integerNumeral, printable_numeral]

theorem printable_truth (b : Bool) : Printable (truth b) := by
  cases b <;> simp [truth]

mutual

theorem printable_compact : ∀ j : Json, Printable j.compact
  | .null => by simp [compact]
  | .bool b => printable_truth b
  | .int i => printable_integerNumeral i
  | .str s => printable_string s
  | .arr [] => by simp [compact]
  | .arr (j :: js) => by
    have hj := printable_compact j
    have hjs := printable_compactRest js
    simp [compact, hj, hjs]
  | .obj [] => by simp [compact]
  | .obj ((k, j) :: ms) => by
    have hj := printable_compact j
    have hms := printable_compactMembers ms
    simp [compact, printable_string, hj, hms]

theorem printable_compactRest : ∀ js : List Json, Printable (compactRest js)
  | [] => by simp [compactRest]
  | j :: js => by
    have hj := printable_compact j
    have hjs := printable_compactRest js
    simp [compactRest, hj, hjs]

theorem printable_compactMembers : ∀ ms : List (String × Json), Printable (compactMembers ms)
  | [] => by simp [compactMembers]
  | (k, j) :: ms => by
    have hj := printable_compact j
    have hms := printable_compactMembers ms
    simp [compactMembers, printable_string, hj, hms]

end

/-- The bytes of a compact document hold no line feed. -/
theorem lineFeed_notMem_compact (j : Json) : 0x0a ∉ Text.encode (String.ofList j.compact) := by
  refine Text.notMem_encode (by decide) fun c hc => ?_
  have h := printable_compact j c hc
  exact Nat.lt_of_lt_of_le (by decide) h

end CallAttribution.Json
