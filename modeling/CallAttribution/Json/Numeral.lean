import CallAttribution.Json.Basic

/-!
# Numerals of JSON

A numeral is read a character at a time. `Numeral.extend?` says which characters may follow, and
`Numeral.value?` what a finished numeral denotes: a whole number when it has neither fraction nor
exponent and lies in range, otherwise the nearest double. A numeral beyond the largest double
denotes nothing.
-/

namespace CallAttribution.Json

inductive Part where
  | sign
  | zero
  | whole
  | point
  | fraction
  | mark
  | markSign
  | power
  deriving DecidableEq

/-- A numeral as far as it has been read: its sign, its digits as one number, how many of them
stand after the point, and its exponent. -/
structure Numeral where
  negative : Bool
  digits : Nat
  places : Nat
  powerNegative : Bool
  power : Nat
  part : Part

namespace Numeral

def ofChar? (c : Char) : Option Numeral :=
  if c = '-' then some ⟨true, 0, 0, false, 0, .sign⟩
  else if c = '0' then some ⟨false, 0, 0, false, 0, .zero⟩
  else if Text.isDigit c then some ⟨false, Text.digitValue c, 0, false, 0, .whole⟩
  else none

def addWhole (n : Numeral) (c : Char) (part : Part) : Numeral :=
  { n with digits := 10 * n.digits + Text.digitValue c, part := part }

def addFraction (n : Numeral) (c : Char) : Numeral :=
  { n with
    digits := 10 * n.digits + Text.digitValue c
    places := n.places + 1
    part := .fraction }

def addPower (n : Numeral) (c : Char) : Numeral :=
  { n with power := 10 * n.power + Text.digitValue c, part := .power }

def isMark (c : Char) : Bool :=
  c == 'e' || c == 'E'

/-- The numeral with one more character, if that may follow. -/
def extend? (n : Numeral) (c : Char) : Option Numeral :=
  match n.part with
  | .sign =>
    if c = '0' then some (n.addWhole c .zero)
    else if Text.isDigit c then some (n.addWhole c .whole)
    else none
  | .zero =>
    if c = '.' then some { n with part := .point }
    else if isMark c then some { n with part := .mark }
    else none
  | .whole =>
    if Text.isDigit c then some (n.addWhole c .whole)
    else if c = '.' then some { n with part := .point }
    else if isMark c then some { n with part := .mark }
    else none
  | .point => if Text.isDigit c then some (n.addFraction c) else none
  | .fraction =>
    if Text.isDigit c then some (n.addFraction c)
    else if isMark c then some { n with part := .mark }
    else none
  | .mark =>
    if c = '+' then some { n with part := .markSign }
    else if c = '-' then some { n with part := .markSign, powerNegative := true }
    else if Text.isDigit c then some (n.addPower c)
    else none
  | .markSign => if Text.isDigit c then some (n.addPower c) else none
  | .power => if Text.isDigit c then some (n.addPower c) else none

/-- The value of a number that is not kept whole, unless it is too large. -/
def real? (x : Binary64) : Option Value :=
  if x.isFinite then some (.real x) else none

def whole (n : Numeral) : Int :=
  if n.negative then -(n.digits : Int) else n.digits

/-- The exponent of ten that the digits are scaled by. -/
def scale (n : Numeral) : Int :=
  (if n.powerNegative then -(n.power : Int) else n.power) - n.places

/-- What the numeral denotes if it ends here. -/
def value? (n : Numeral) : Option Value :=
  match n.part with
  | .zero | .whole =>
    if inRange n.whole then some (.int n.whole)
    else real? (.ofDecimal n.negative n.digits 0)
  | .fraction | .power => real? (.ofDecimal n.negative n.digits n.scale)
  | _ => none

end Numeral

end CallAttribution.Json
