import CallAttribution.Text.Basic

/-!
# Binary floating point

A number with a fraction or an exponent is held as the double nearest to it, a tie going to the
even significand. Nothing here adds or compares such numbers: what matters is whether a number is
finite, whether it is whole, and then which whole number it is. So a double is kept as an exact
dyadic fraction and rounding is integer arithmetic.
-/

namespace CallAttribution

/-- A double: a sign, a significand and a power of two, or one of the values that are no numbers. -/
inductive Binary64 where
  | finite (negative : Bool) (significand : Nat) (exponent : Int)
  | infinite (negative : Bool)
  | notANumber
  deriving DecidableEq

namespace Binary64

def twoPow (n : Nat) : Nat :=
  Nat.pow 2 n

def tenPow (n : Nat) : Nat :=
  Nat.pow 10 n

/-- The whole number nearest to `num / den`, the even one of two. -/
def roundHalfEven (num den : Nat) : Nat :=
  let q := num / den
  let r := num % den
  if 2 * r < den then q
  else if 2 * r > den then q + 1
  else if q % 2 = 0 then q else q + 1

/-- `num / den` in units of `2 ^ exponent`, as a quotient of whole numbers. -/
def scaled (num den : Nat) : Int → Nat × Nat
  | .ofNat e => (num, den * twoPow e)
  | .negSucc e => (num * twoPow (e + 1), den)

/-- The exponent of the last place of the double nearest to a positive fraction: the one that
leaves a significand of 53 bits, but not below the last place of the smallest doubles. -/
def lastPlace (num den : Nat) : Int :=
  let wanted : Int := (Nat.log2 num : Int) - Nat.log2 den - 53
  let e := if wanted < -1074 then -1074 else wanted
  let (n, d) := scaled num den e
  if n / d < twoPow 53 then e else e + 1

def ofFraction (negative : Bool) (num den : Nat) : Binary64 :=
  if num = 0 then .finite negative 0 0
  else
    let e := lastPlace num den
    let (n, d) := scaled num den e
    let m := roundHalfEven n d
    if e > 971 || (e = 971 && m ≥ twoPow 53) then .infinite negative
    else .finite negative m e

/-- The double nearest to `digits` times a power of ten. Powers far outside the range of doubles
are not computed. -/
def ofDecimal (negative : Bool) (digits : Nat) (power : Int) : Binary64 :=
  if digits = 0 then .finite negative 0 0
  else
    let magnitude := (Text.numeral digits).length + power
    if magnitude > 400 then .infinite negative
    else if magnitude < -400 then .finite negative 0 0
    else match power with
      | .ofNat p => ofFraction negative (digits * tenPow p) 1
      | .negSucc p => ofFraction negative digits (tenPow (p + 1))

def isFinite : Binary64 → Bool
  | .finite _ _ _ => true
  | _ => false

def signed (negative : Bool) (n : Nat) : Int :=
  if negative then -(n : Int) else n

/-- The whole number that a double is, if it is one. -/
def whole? : Binary64 → Option Int
  | .finite negative m (.ofNat e) => some (signed negative (m * twoPow e))
  | .finite negative m (.negSucc e) =>
    if m % twoPow (e + 1) = 0 then some (signed negative (m / twoPow (e + 1))) else none
  | _ => none

end Binary64

end CallAttribution
