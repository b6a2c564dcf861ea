import CallAttribution.Text.Basic
import Mathlib.Tactic.IntervalCases

/-!
# Numerals denote their numbers

The digits of a number are digits, they denote the number again, and only zero begins with a zero.
-/

namespace CallAttribution.Text

theorem isDigit_digitChar {n : Nat} (h : n < 10) : isDigit (Nat.digitChar n) = true := by
  interval_cases n <;> rfl

theorem digitValue_digitChar {n : Nat} (h : n < 10) : digitValue (Nat.digitChar n) = n := by
  interval_cases n <;> rfl

theorem digitChar_ne_zero {n : Nat} (hn : 0 < n) (h : n < 10) : Nat.digitChar n ≠ '0' := by
  interval_cases n <;> decide

theorem numeral_of_lt {n : Nat} (h : n < 10) : numeral n = [Nat.digitChar n] :=
  Nat.toDigits_of_lt_base h

theorem numeral_of_le {n : Nat} (h : 10 ≤ n) :
    numeral n = numeral (n / 10) ++ [Nat.digitChar (n % 10)] :=
  Nat.toDigits_of_base_le (by decide) h

theorem numberFrom_append (n : Nat) (cs ds : List Char) :
    numberFrom n (cs ++ ds) = numberFrom (numberFrom n cs) ds :=
  List.foldl_append

/-- A positive number is written as a digit other than zero and further digits, which together
denote it. -/
theorem numeral_of_pos {n : Nat} (hn : 0 < n) :
    ∃ d ds, numeral n = d :: ds ∧ d ≠ '0' ∧ (∀ c ∈ d :: ds, isDigit c = true) ∧
      numberFrom (digitValue d) ds = n := by
  induction n using Nat.strongRecOn with
  | ind n ih =>
    rcases Nat.lt_or_ge n 10 with h | h
    · refine ⟨Nat.digitChar n, [], numeral_of_lt h, digitChar_ne_zero hn h, ?_,
        digitValue_digitChar h⟩
      simp [isDigit_digitChar h]
    · obtain ⟨d, ds, hd, h₀, h₁, h₂⟩ := ih (n / 10) (by omega) (by omega)
      have hr : n % 10 < 10 := Nat.mod_lt n (by decide)
      refine ⟨d, ds ++ [Nat.digitChar (n % 10)], ?_, h₀, ?_, ?_⟩
      · rw [numeral_of_le h, hd, List.cons_append]
      · intro c hc
        rw [← List.cons_append] at hc
        rcases List.mem_append.mp hc with hc | hc
        · exact h₁ c hc
        · rw [List.mem_singleton.mp hc]
          exact isDigit_digitChar hr
      · rw [numberFrom_append, h₂]
        change 10 * (n / 10) + digitValue (Nat.digitChar (n % 10)) = n
        rw [digitValue_digitChar hr]
        omega

theorem isDigit_of_mem_numeral {n : Nat} : ∀ c ∈ numeral n, isDigit c = true := by
  rcases Nat.eq_zero_or_pos n with rfl | hn
  · intro c hc
    rw [numeral_of_lt (by decide), List.mem_singleton] at hc
    rw [hc]
    exact isDigit_digitChar (by decide)
  · obtain ⟨d, ds, hd, -, h, -⟩ := numeral_of_pos hn
    rwa [hd]

theorem numeral_injective : Function.Injective numeral := by
  intro m n h
  have hnumber := congrArg (fun ds => Nat.ofDigitChars 10 ds 0) h
  simpa [numeral] using hnumber

end CallAttribution.Text
