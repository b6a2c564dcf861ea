import CallAttribution.Schema.Checked
import CallAttribution.Text.Basic
import CallAttribution.Text.Word
import CallAttribution.Value

/-!
# Scalars

Text is never converted. A whole number may also be written as a truth value, as a number without
fraction or as text; a truth value may also be written as 0 or 1, as a number or as one of a few
words.
-/

namespace CallAttribution.Schema

/-- The longest numeral that is read as a whole number, its sign included. -/
def maxNumeral : Nat := 4300

def unsign : List Char → Bool × List Char
  | '-' :: cs => (true, cs)
  | '+' :: cs => (false, cs)
  | cs => (false, cs)

/-- What follows a zero and further zeros and low lines, of which `last` is the last. Where nothing
or a point follows, that last character is kept. -/
def afterZeros (last : Char) : List Char → List Char
  | [] => [last]
  | c :: cs =>
    if c = '0' || c = '_' then afterZeros c cs
    else if c = '.' then last :: c :: cs
    else c :: cs

def withoutZeros? : List Char → Option (List Char)
  | [] => none
  | c :: cs =>
    if c = '0' then some (afterZeros c cs)
    else if Text.isDigit c then some (c :: cs)
    else none

/-- The text before a point that only zeros follow, or the whole text if it has no point. -/
def withoutZeroFraction? (cs : List Char) : Option (List Char) :=
  match Text.span (· != '.') cs with
  | (whole, []) => some whole
  | (whole, _ :: zeros) =>
    if zeros ≠ [] ∧ zeros.all (· == '0') then some whole else none

/-- The characters between the low lines, which stand singly and neither first nor last. -/
def withoutLowLines? (cs : List Char) : Option (List Char) :=
  let groups := Text.pieces '_' cs
  if groups.any List.isEmpty then none else some groups.flatten

/-- The number that digits denote; a zero only begins them when it stands alone. -/
def magnitude? (ds : List Char) : Option Nat :=
  match ds with
  | [] => none
  | ['0'] => some 0
  | d :: _ => if d ≠ '0' ∧ ds.all Text.isDigit then some (Text.number ds) else none

/-- The number that a numeral denotes: digits that a minus sign may precede. -/
def plainInteger? (cs : List Char) : Option Int :=
  if maxNumeral < cs.length then none
  else match cs with
    | '-' :: ds => (magnitude? ds).map fun n => -(n : Int)
    | ds => (magnitude? ds).map fun n => (n : Int)

/-- A text reduced to a numeral: without the blanks around it, a plus sign, the zeros and low lines
at its beginning, a fraction of zeros, and the low lines between digits. Behind zeros at its
beginning the number starts anew and may then bring its own minus sign, but not a second one. -/
def numeralOf? (cs : List Char) : Option (List Char) := do
  let (negative, body) := unsign (Text.trim Text.isBlank cs)
  let plain ← withoutLowLines? (← withoutZeroFraction? (← withoutZeros? body))
  return if negative then '-' :: plain else plain

/-- A numeral without plus sign, blanks or leading zeros that is longer than any that is read. -/
def isOverlong (cs : List Char) : Bool :=
  let (sign, digits) := if cs.head? = some '-' then (1, cs.drop 1) else (0, cs)
  digits.head?.any (fun c => Text.isDigit c && c != '0') &&
    maxNumeral < sign + (digits.takeWhile Text.isDigit).length

def integerOfText (s : String) : Checked Int :=
  if isOverlong s.toList then .refuse .oversizedInteger
  else
    match (numeralOf? s.toList).bind plainInteger? with
    | some i => .accepted i
    | none => .refuse .malformedInteger

/-- Whole doubles of this magnitude and above are not converted. -/
def wholeLimit : Int := 0x8000000000000000

def integerOfReal (x : Binary64) : Checked Int :=
  if x.isFinite then
    match x.whole? with
    | none => .refuse .fractional
    | some i => if -wholeLimit < i ∧ i < wholeLimit then .accepted i else .refuse .oversizedInteger
  else .refuse .notFinite

def text : Value → Checked String
  | .str s => .accepted s
  | _ => .refuse .notText

def integer : Value → Checked Int
  | .int i => .accepted i
  | .bool b => .accepted (if b then 1 else 0)
  | .real x => integerOfReal x
  | .str s => integerOfText s
  | _ => .refuse .notInteger

def truthOfInteger (i : Int) : Checked Bool :=
  if i = 0 then .accepted false
  else if i = 1 then .accepted true
  else .refuse .malformedTruth

def truthWords : List (String × Bool) :=
  [("0", false), ("off", false), ("f", false), ("false", false), ("n", false), ("no", false),
   ("1", true), ("on", true), ("t", true), ("true", true), ("y", true), ("yes", true)]

/-- The truth value that a text names, whatever the case of its ASCII letters. -/
def truthOfText (s : String) : Checked Bool :=
  match truthWords.lookup (String.ofList (s.toList.map Char.toLower)) with
  | some b => .accepted b
  | none => .refuse .malformedTruth

/-- A truth value. Numbers too large to be converted are refused as being of the wrong kind. -/
def truth : Value → Checked Bool
  | .bool b => .accepted b
  | .int i =>
    if -wholeLimit ≤ i ∧ i < wholeLimit then truthOfInteger i else .refuse .notTruth
  | .real x =>
    match x.whole? with
    | some i => if -wholeLimit < i ∧ i < wholeLimit then truthOfInteger i else .refuse .notTruth
    | none => .refuse .notTruth
  | .str s => truthOfText s
  | _ => .refuse .notTruth

def atLeast (bound : Int) (c : Checked Int) : Checked Int :=
  c.andThen fun i => if i < bound then .refuse (.below bound) else .accepted i

def atMost (bound : Int) (c : Checked Int) : Checked Int :=
  c.andThen fun i => if bound < i then .refuse (.above bound) else .accepted i

end CallAttribution.Schema
