import CallAttribution.Value

/-!
# Scalars of TOML

Strings in their four forms, numbers, dates and times. Each reader takes the characters from where
its scalar begins and returns what it read with the characters that follow. Line ends have been
reduced to line feeds before.
-/

namespace CallAttribution.Toml

/-- Why a document was refused. A decimal whole number with too many digits is a failure of its
own kind; its digits are counted. -/
inductive Error where
  | malformed
  | oversizedInteger (digits : Nat)
  deriving DecidableEq

def maxDigits : Nat := 4300

def Error.message : Error → String
  | malformed => "Invalid TOML"
  | oversizedInteger n =>
    "Exceeds the limit (" ++ Text.showNat maxDigits ++ " digits) for integer string conversion: " ++
      "value has " ++ Text.showNat n ++ " digits; use sys.set_int_max_str_digits() to increase " ++
      "the limit"

/-- What was read, and the characters that follow. -/
abbrev Read (α : Type) := Except Error (α × List Char)

def isBlank (c : Char) : Bool :=
  c == ' ' || c == '\t'

def isBlankOrFeed (c : Char) : Bool :=
  isBlank c || c == '\n'

/-- Control characters, the tab aside. -/
def isControl (c : Char) : Bool :=
  (c.toNat < 0x20 && c != '\t') || c == '\x7f'

def isForbidden (multiline : Bool) (c : Char) : Bool :=
  isControl c && !(multiline && c == '\n')

/-! ## Strings -/

/-- Where the reader of a quoted string stands. -/
inductive Quoting where
  /-- Among the characters of the string; blanks and line feeds are skipped after a backslash
  at the end of a line. -/
  | plain (skipping : Bool)
  /-- After a backslash. -/
  | escape
  /-- After a backslash and a blank, which only the end of the line may follow. -/
  | lineEnd
  /-- In a numeric escape that lacks `left` digits. -/
  | code (left value : Nat)

def unescape? (c : Char) : Option Char :=
  if c = 'b' then some '\x08'
  else if c = 't' then some '\t'
  else if c = 'n' then some '\n'
  else if c = 'f' then some '\x0c'
  else if c = 'r' then some '\r'
  else if c = '"' then some '"'
  else if c = '\\' then some '\\'
  else none

def hexValue? (c : Char) : Option Nat :=
  if '0' ≤ c && c ≤ '9' then some (c.toNat - '0'.toNat)
  else if 'a' ≤ c && c ≤ 'f' then some (c.toNat - 'a'.toNat + 10)
  else if 'A' ≤ c && c ≤ 'F' then some (c.toNat - 'A'.toNat + 10)
  else none

def scalar? (n : Nat) : Option Char :=
  if n.isValidChar then some (Char.ofNat n) else none

/-- The rest of a string in double quotes; `chars` holds what has been read, in reverse order. -/
def quoted (multiline : Bool) (chars : List Char) : Quoting → List Char → Read (List Char)
  | _, [] => .error .malformed
  | .plain skipping, c :: cs =>
    if skipping && isBlankOrFeed c then quoted multiline chars (.plain true) cs
    else if c = '\\' then quoted multiline chars .escape cs
    else if c = '"' then
      if !multiline then .ok (chars.reverse, cs)
      else if cs.take 2 = ['"', '"'] then .ok (chars.reverse, cs.drop 2)
      else quoted multiline (c :: chars) (.plain false) cs
    else if isForbidden multiline c then .error .malformed
    else quoted multiline (c :: chars) (.plain false) cs
  | .escape, c :: cs =>
    if multiline && c == '\n' then quoted multiline chars (.plain true) cs
    else if multiline && isBlank c then quoted multiline chars .lineEnd cs
    else if c = 'u' then quoted multiline chars (.code 4 0) cs
    else if c = 'U' then quoted multiline chars (.code 8 0) cs
    else match unescape? c with
      | some d => quoted multiline (d :: chars) (.plain false) cs
      | none => .error .malformed
  | .lineEnd, c :: cs =>
    if isBlank c then quoted multiline chars .lineEnd cs
    else if c = '\n' then quoted multiline chars (.plain true) cs
    else .error .malformed
  | .code left value, c :: cs =>
    match hexValue? c with
    | none => .error .malformed
    | some d =>
      let value := 16 * value + d
      if left ≤ 1 then
        match scalar? value with
        | some e => quoted multiline (e :: chars) (.plain false) cs
        | none => .error .malformed
      else quoted multiline chars (.code (left - 1) value) cs

/-- The rest of a string in single quotes, in which nothing is escaped. -/
def literal (multiline : Bool) (chars : List Char) : List Char → Read (List Char)
  | [] => .error .malformed
  | c :: cs =>
    if c = '\'' && !multiline then .ok (chars.reverse, cs)
    else if c = '\'' && cs.take 2 = ['\'', '\''] then .ok (chars.reverse, cs.drop 2)
    else if isForbidden multiline c then .error .malformed
    else literal multiline (c :: chars) cs

/-- Up to two delimiters directly after the end of a string over several lines belong to it. -/
def withTrailing (delimiter : Char) (r : List Char × List Char) : List Char × List Char :=
  let extra := (r.2.take 2).takeWhile (· == delimiter)
  (r.1 ++ extra, r.2.drop extra.length)

/-- A line feed at the beginning of a string over several lines does not belong to it. -/
def dropFeed : List Char → List Char
  | '\n' :: cs => cs
  | cs => cs

def string? (cs : List Char) : Option (Read (List Char)) :=
  match cs with
  | '"' :: '"' :: '"' :: cs =>
    some ((quoted true [] (.plain false) (dropFeed cs)).map (withTrailing '"'))
  | '"' :: cs => some (quoted false [] (.plain false) cs)
  | '\'' :: '\'' :: '\'' :: cs =>
    some ((literal true [] (dropFeed cs)).map (withTrailing '\''))
  | '\'' :: cs => some (literal false [] cs)
  | _ => none

/-! ## Numbers -/

/-- Digits after the first one, with at most one low line between two of them. -/
def moreDigits (p : Char → Bool) : List Char → List Char × List Char
  | '_' :: c :: cs =>
    if p c then
      let (ds, rest) := moreDigits p cs
      (c :: ds, rest)
    else ([], '_' :: c :: cs)
  | c :: cs =>
    if p c then
      let (ds, rest) := moreDigits p cs
      (c :: ds, rest)
    else ([], c :: cs)
  | [] => ([], [])

def digits? (p : Char → Bool) : List Char → Option (List Char × List Char)
  | c :: cs =>
    if p c then
      let (ds, rest) := moreDigits p cs
      some (c :: ds, rest)
    else none
  | [] => none

/-- The digits of a base and the base itself, by the letter that announces it. -/
def base? (c : Char) : Option ((Char → Bool) × Nat) :=
  if c = 'x' then some (fun d => (hexValue? d).isSome, 16)
  else if c = 'o' then some (fun d => '0' ≤ d && d ≤ '7', 8)
  else if c = 'b' then some (fun d => d == '0' || d == '1', 2)
  else none

def based? : List Char → Option (Value × List Char)
  | '0' :: c :: cs => do
    let (p, b) ← base? c
    let (ds, rest) ← digits? p cs
    let n := ds.foldl (fun n d => b * n + (hexValue? d).getD 0) 0
    return (.int n, rest)
  | _ => none

def unsign : List Char → Bool × List Char
  | '-' :: cs => (true, cs)
  | '+' :: cs => (false, cs)
  | cs => (false, cs)

/-- The digits before the point: a single zero, or digits that begin otherwise. -/
def wholeDigits? : List Char → Option (List Char × List Char)
  | '0' :: cs => some (['0'], cs)
  | cs => digits? Text.isDigit cs

def fractionDigits : List Char → List Char × List Char
  | '.' :: cs => (digits? Text.isDigit cs).getD ([], '.' :: cs)
  | cs => ([], cs)

def exponent? : List Char → Option (Int × List Char)
  | c :: cs =>
    if c = 'e' || c = 'E' then do
      let (negative, cs) := unsign cs
      let (ds, rest) ← digits? Text.isDigit cs
      let n : Int := Text.number ds
      return (if negative then -n else n, rest)
    else none
  | [] => none

/-- A decimal number, if one begins here: whole when it has neither fraction nor exponent. -/
def decimal? (cs : List Char) : Option (Read Value) := do
  let (negative, cs) := unsign cs
  let (ds, rest) ← wholeDigits? cs
  let (fs, rest) := fractionDigits rest
  match exponent? rest with
  | some (e, rest) =>
    return .ok (.real (.ofDecimal negative (Text.number (ds ++ fs)) (e - fs.length)), rest)
  | none =>
    if fs ≠ [] then
      return .ok (.real (.ofDecimal negative (Text.number (ds ++ fs)) (-fs.length)), rest)
    else if maxDigits < ds.length then
      return .error (.oversizedInteger ds.length)
    else
      let n : Int := Text.number ds
      return .ok (.int (if negative then -n else n), rest)

def special? (cs : List Char) : Option (Value × List Char) :=
  let (negative, rest) := unsign cs
  if rest.take 3 = ['i', 'n', 'f'] then some (.real (.infinite negative), rest.drop 3)
  else if rest.take 3 = ['n', 'a', 'n'] then some (.real .notANumber, rest.drop 3)
  else none

/-! ## Dates and times -/

def fixed? (n : Nat) (cs : List Char) : Option (Nat × List Char) :=
  let ds := cs.take n
  if ds.length = n && ds.all Text.isDigit then some (Text.number ds, cs.drop n) else none

def expect? (c : Char) : List Char → Option (List Char)
  | d :: cs => if d = c then some cs else none
  | [] => none

def secondFraction (cs : List Char) : List Char :=
  match cs with
  | '.' :: d :: ds => if Text.isDigit d then ds.dropWhile Text.isDigit else cs
  | _ => cs

def time? (cs : List Char) : Option (List Char) := do
  let (hour, cs) ← fixed? 2 cs
  let (minute, cs) ← fixed? 2 (← expect? ':' cs)
  let (second, cs) ← fixed? 2 (← expect? ':' cs)
  if hour < 24 ∧ minute < 60 ∧ second < 60 then some (secondFraction cs) else none

def afterOffset (cs : List Char) : List Char :=
  match cs with
  | c :: rest =>
    if c = 'Z' || c = 'z' then rest
    else if c = '+' || c = '-' then
      let offset := do
        let (hour, cs) ← fixed? 2 rest
        let (minute, cs) ← fixed? 2 (← expect? ':' cs)
        if hour < 24 ∧ minute < 60 then some cs else none
      offset.getD cs
    else cs
  | [] => []

def isLeap (year : Nat) : Bool :=
  year % 4 == 0 && (year % 100 != 0 || year % 400 == 0)

def daysIn (year month : Nat) : Nat :=
  if month = 2 then (if isLeap year then 29 else 28)
  else if month = 4 ∨ month = 6 ∨ month = 9 ∨ month = 11 then 30
  else 31

/-- A date as it is written: year, month and day, each in range for itself. -/
def date? (cs : List Char) : Option ((Nat × Nat × Nat) × List Char) := do
  let (year, cs) ← fixed? 4 cs
  let (month, cs) ← fixed? 2 (← expect? '-' cs)
  let (day, cs) ← fixed? 2 (← expect? '-' cs)
  if 1 ≤ month ∧ month ≤ 12 ∧ 1 ≤ day ∧ day ≤ 31 then some ((year, month, day), cs) else none

def afterTime (cs : List Char) : List Char :=
  match cs with
  | c :: rest =>
    if c = 'T' || c = 't' || c = ' ' then
      match time? rest with
      | some rest => afterOffset rest
      | none => cs
    else cs
  | [] => []

/-- A date, a date with a time, or a time of day, if one begins here. A date has to exist. -/
def moment? (cs : List Char) : Option (Read Value) :=
  match date? cs with
  | some ((year, month, day), rest) =>
    if year = 0 ∨ daysIn year month < day then some (.error .malformed)
    else some (.ok (.moment, afterTime rest))
  | none => (time? cs).map fun rest => .ok (.moment, rest)

end CallAttribution.Toml
