import CallAttribution.Value

/-!
# JSON as written

The documents that this library writes, and their two layouts: on one line without blanks, and
indented by two blanks a level. Members are written in the order given. Only quotation marks,
backslashes and control characters below U+0020 are escaped; all else stands for itself.

A reader takes a whole number outside 64 bits for a floating point number, so `fits` tells which
documents mean what they were written for.
-/

namespace CallAttribution

/-- A document to be written. -/
inductive Json where
  | null
  | bool (b : Bool)
  | int (i : Int)
  | str (s : String)
  | arr (items : List Json)
  | obj (members : List (String × Json))

namespace Json

/-- The whole numbers that are read back as whole numbers: those of 64 bits, with or without
sign. -/
def inRange (i : Int) : Bool :=
  -0x8000000000000000 ≤ i && i ≤ 0xffffffffffffffff

mutual

def fits : Json → Bool
  | .int i => inRange i
  | .arr items => fitsAll items
  | .obj members => fitsMembers members
  | _ => true

def fitsAll : List Json → Bool
  | [] => true
  | j :: js => j.fits && fitsAll js

def fitsMembers : List (String × Json) → Bool
  | [] => true
  | (_, j) :: ms => j.fits && fitsMembers ms

end

mutual

def toValue : Json → Value
  | .null => .null
  | .bool b => .bool b
  | .int i => .int i
  | .str s => .str s
  | .arr items => .arr (toValues items)
  | .obj members => .obj (toMembers members)

def toValues : List Json → List Value
  | [] => []
  | j :: js => j.toValue :: toValues js

def toMembers : List (String × Json) → List (String × Value)
  | [] => []
  | (k, j) :: ms => (k, j.toValue) :: toMembers ms

end

def hexDigit (n : Nat) : Char :=
  Nat.digitChar n

def escape (c : Char) : List Char :=
  if c = '"' then ['\\', '"']
  else if c = '\\' then ['\\', '\\']
  else if c = '\x08' then ['\\', 'b']
  else if c = '\t' then ['\\', 't']
  else if c = '\n' then ['\\', 'n']
  else if c = '\x0c' then ['\\', 'f']
  else if c = '\r' then ['\\', 'r']
  else if c.toNat < 0x20 then
    ['\\', 'u', '0', '0', hexDigit (c.toNat / 16), hexDigit (c.toNat % 16)]
  else [c]

def string (s : String) : List Char :=
  '"' :: s.toList.flatMap escape ++ ['"']

def truth (b : Bool) : List Char :=
  if b then "true".toList else "false".toList

mutual

/-- The document on one line. -/
def compact : Json → List Char
  | .null => "null".toList
  | .bool b => truth b
  | .int i => Text.integerNumeral i
  | .str s => string s
  | .arr [] => "[]".toList
  | .arr (j :: js) => '[' :: compact j ++ compactRest js ++ [']']
  | .obj [] => "\x7b\x7d".toList
  | .obj ((k, j) :: ms) =>
    '\x7b' :: string k ++ ':' :: compact j ++ compactMembers ms ++ ['\x7d']

def compactRest : List Json → List Char
  | [] => []
  | j :: js => ',' :: compact j ++ compactRest js

def compactMembers : List (String × Json) → List Char
  | [] => []
  | (k, j) :: ms => ',' :: string k ++ ':' :: compact j ++ compactMembers ms

end

/-- A line feed and the blanks of a level. -/
def newLine (level : Nat) : List Char :=
  '\n' :: List.replicate (2 * level) ' '

mutual

/-- The document indented, its first line standing on a line of the given level. -/
def indented (level : Nat) : Json → List Char
  | .null => "null".toList
  | .bool b => truth b
  | .int i => Text.integerNumeral i
  | .str s => string s
  | .arr [] => "[]".toList
  | .arr (j :: js) =>
    '[' :: newLine (level + 1) ++ indented (level + 1) j ++ indentedRest (level + 1) js ++
      newLine level ++ [']']
  | .obj [] => "\x7b\x7d".toList
  | .obj ((k, j) :: ms) =>
    '\x7b' :: newLine (level + 1) ++ string k ++ ':' :: ' ' :: indented (level + 1) j ++
      indentedMembers (level + 1) ms ++ newLine level ++ ['\x7d']

def indentedRest (level : Nat) : List Json → List Char
  | [] => []
  | j :: js => ',' :: newLine level ++ indented level j ++ indentedRest level js

def indentedMembers (level : Nat) : List (String × Json) → List Char
  | [] => []
  | (k, j) :: ms =>
    ',' :: newLine level ++ string k ++ ':' :: ' ' :: indented level j ++
      indentedMembers level ms

end

end Json

end CallAttribution
