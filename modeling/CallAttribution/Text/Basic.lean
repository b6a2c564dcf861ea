/-!
# Texts and bytes

A text is cut at every line boundary of Unicode and at the ASCII information separators U+001C to
U+001E. A carriage return directly followed by a line feed is one boundary. A boundary at the end
of the text does not open another line, so the empty text has no lines.

Whole numbers are written as digits of base ten, most significant first, without leading zeros.

Files hold bytes. A text is written in UTF-8 and read back strictly: overlong forms, surrogates
and truncated sequences are refused. `decode?_encode` says that writing loses nothing.
-/

namespace CallAttribution

abbrev Bytes := List UInt8

namespace Text

def isLineBreak (c : Char) : Bool :=
  c == '\n' || c == '\r' || c == '\x0b' || c == '\x0c' || c == '\x1c' || c == '\x1d' ||
  c == '\x1e' || c == '\u0085' || c == '\u2028' || c == '\u2029'

def consFirst (c : Char) : List (List Char) → List (List Char)
  | [] => [[c]]
  | l :: ls => (c :: l) :: ls

/-- The lines of a text, without their boundaries. -/
def lines : List Char → List (List Char)
  | [] => []
  | '\r' :: '\n' :: cs => [] :: lines cs
  | c :: cs => if isLineBreak c then [] :: lines cs else consFirst c (lines cs)

/-- The pieces between the occurrences of a separator; there is always at least one. -/
def pieces {α : Type} [BEq α] (sep : α) : List α → List (List α)
  | [] => [[]]
  | x :: xs =>
    if x == sep then [] :: pieces sep xs
    else match pieces sep xs with
      | [] => [[x]]
      | p :: ps => (x :: p) :: ps

def digitValue (c : Char) : Nat :=
  c.toNat - '0'.toNat

def isDigit (c : Char) : Bool :=
  '0' ≤ c && c ≤ '9'

/-- The number that digits denote, continuing from the digits already read. -/
def numberFrom (n : Nat) (ds : List Char) : Nat :=
  ds.foldl (fun n d => 10 * n + digitValue d) n

def number (ds : List Char) : Nat :=
  numberFrom 0 ds

def numeral (n : Nat) : List Char :=
  Nat.toDigits 10 n

def integerNumeral : Int → List Char
  | .ofNat n => numeral n
  | .negSucc n => '-' :: numeral (n + 1)

def showInt (i : Int) : String :=
  String.ofList (integerNumeral i)

def showNat (n : Nat) : String :=
  String.ofList (numeral n)

def encode (s : String) : Bytes :=
  s.toList.flatMap String.utf8EncodeChar

/-- The characters of well-formed UTF-8. -/
def decode? (b : Bytes) : Option (List Char) :=
  b.toByteArray.utf8Decode?.map Array.toList

theorem decode?_encode (s : String) : decode? (encode s) = some s.toList := by
  have h : (encode s).toByteArray = s.toList.utf8Encode := rfl
  rw [decode?, h, List.utf8Decode?_utf8Encode]; simp

/-- The blanks that surround a record on its line: ASCII white space. -/
def isBlankByte (b : UInt8) : Bool :=
  b == 0x20 || (0x09 ≤ b && b ≤ 0x0d)

def trimBytes (b : Bytes) : Bytes :=
  ((b.dropWhile isBlankByte).reverse.dropWhile isBlankByte).reverse

end Text

end CallAttribution
