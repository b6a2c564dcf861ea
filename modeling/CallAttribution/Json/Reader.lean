import CallAttribution.Json.Numeral
import CallAttribution.Text.Basic

/-!
# Reading JSON

A document is read a character at a time by a machine that holds the containers still open and
what may come next. Reading is the left fold of `step`, so reading one text after another is
reading their concatenation. The rules are those of the standard, with nothing added: no comments,
no trailing commas, no byte order mark, no numbers that are not finite, and at most
`maxDepth` containers inside each other. Of a repeated key the first place and the last value
count.
-/

namespace CallAttribution.Json

/-- How many containers may be open at once. -/
def maxDepth : Nat := 1024

/-- A container that is still open, with what it holds so far in reverse order; an object also
remembers the key whose value is being read. -/
inductive Frame where
  | arr (items : List Value)
  | obj (members : List (String × Value)) (key : String)

inductive Mode where
  /-- A value must come. -/
  | value
  /-- A value or the end of an array that is still empty. -/
  | item
  /-- A key or the end of an object that is still empty. -/
  | member
  /-- A key must come. -/
  | key
  /-- The colon after a key. -/
  | colon
  /-- A comma or the end of the innermost container. -/
  | rest
  /-- The document is complete. -/
  | done (v : Value)
  /-- Inside a string, its characters in reverse order; `isKey` tells whether it is a key. -/
  | text (isKey : Bool) (chars : List Char)
  /-- After a backslash in a string. -/
  | escaped (isKey : Bool) (chars : List Char)
  /-- Inside a `\u` escape that lacks `left` digits; `high` is the first half of a pair. -/
  | codeUnit (isKey : Bool) (chars : List Char) (high : Option Nat) (left code : Nat)
  /-- After the first half of a pair; `slash` tells whether the backslash has been seen. -/
  | secondHalf (isKey : Bool) (chars : List Char) (high : Nat) (slash : Bool)
  /-- Inside a numeral. -/
  | number (n : Numeral)
  /-- Inside `true`, `false` or `null`, of which `left` is missing. -/
  | word (left : List Char) (v : Value)

structure State where
  frames : List Frame
  mode : Mode

namespace State

def start : State :=
  ⟨[], .value⟩

/-- A value has been read inside these containers. -/
def complete : List Frame → Value → State
  | [], v => ⟨[], .done v⟩
  | .arr items :: fs, v => ⟨.arr (v :: items) :: fs, .rest⟩
  | .obj members key :: fs, v => ⟨.obj ((key, v) :: members) key :: fs, .rest⟩

def completeText (fs : List Frame) (isKey : Bool) (chars : List Char) : State :=
  let s := String.ofList chars.reverse
  match isKey, fs with
  | true, .obj members _ :: fs => ⟨.obj members s :: fs, .colon⟩
  | _, fs => complete fs (.str s)

def isBlank (c : Char) : Bool :=
  c == ' ' || c == '\t' || c == '\n' || c == '\r'

def push? (fs : List Frame) (f : Frame) (mode : Mode) : Option State :=
  if fs.length < maxDepth then some ⟨f :: fs, mode⟩ else none

def begin? (fs : List Frame) (c : Char) : Option State :=
  if c = '"' then some ⟨fs, .text false []⟩
  else if c = '[' then push? fs (.arr []) .item
  else if c = '\x7b' then push? fs (.obj [] "") .member
  else if c = 't' then some ⟨fs, .word ['r', 'u', 'e'] (.bool true)⟩
  else if c = 'f' then some ⟨fs, .word ['a', 'l', 's', 'e'] (.bool false)⟩
  else if c = 'n' then some ⟨fs, .word ['u', 'l', 'l'] .null⟩
  else (Numeral.ofChar? c).map fun n => ⟨fs, .number n⟩

/-- A closing bracket ends the innermost container. -/
def close? (fs : List Frame) (c : Char) : Option State :=
  match fs with
  | .arr items :: fs => if c = ']' then some (complete fs (.arr items.reverse)) else none
  | .obj members _ :: fs =>
    if c = '\x7d' then some (complete fs (.obj (Table.ofEntries members.reverse))) else none
  | [] => none

/-- After a value: a comma or the end of the innermost container. -/
def afterValue? (fs : List Frame) (c : Char) : Option State :=
  if c = ',' then
    match fs with
    | .arr _ :: _ => some ⟨fs, .value⟩
    | .obj _ _ :: _ => some ⟨fs, .key⟩
    | [] => none
  else close? fs c

def unescape? (c : Char) : Option Char :=
  if c = '"' then some '"'
  else if c = '\\' then some '\\'
  else if c = '/' then some '/'
  else if c = 'b' then some '\x08'
  else if c = 'f' then some '\x0c'
  else if c = 'n' then some '\n'
  else if c = 'r' then some '\r'
  else if c = 't' then some '\t'
  else none

def hexValue? (c : Char) : Option Nat :=
  if Text.isDigit c then some (c.toNat - '0'.toNat)
  else if 'a' ≤ c && c ≤ 'f' then some (c.toNat - 'a'.toNat + 10)
  else if 'A' ≤ c && c ≤ 'F' then some (c.toNat - 'A'.toNat + 10)
  else none

/-- A code unit of four digits is complete. A first half waits for its second half; a half without
its partner is refused. -/
def completeUnit? (fs : List Frame) (isKey : Bool) (chars : List Char) (high : Option Nat)
    (code : Nat) : Option State :=
  match high with
  | none =>
    if 0xd800 ≤ code && code < 0xdc00 then some ⟨fs, .secondHalf isKey chars code false⟩
    else if 0xdc00 ≤ code && code < 0xe000 then none
    else some ⟨fs, .text isKey (Char.ofNat code :: chars)⟩
  | some h =>
    if 0xdc00 ≤ code && code < 0xe000 then
      let c := Char.ofNat (0x10000 + (h - 0xd800) * 0x400 + (code - 0xdc00))
      some ⟨fs, .text isKey (c :: chars)⟩
    else none

/-- A character that is not part of a string, a numeral or a word. -/
def between? (fs : List Frame) (mode : Mode) (c : Char) : Option State :=
  if isBlank c then some ⟨fs, mode⟩
  else match mode with
    | .value => begin? fs c
    | .item => if c = ']' then close? fs c else begin? fs c
    | .member =>
      if c = '"' then some ⟨fs, .text true []⟩ else close? fs c
    | .key => if c = '"' then some ⟨fs, .text true []⟩ else none
    | .colon => if c = ':' then some ⟨fs, .value⟩ else none
    | .rest => afterValue? fs c
    | _ => none

/-- A numeral has ended before the character `c`. -/
def afterNumber? (fs : List Frame) (n : Numeral) (c : Char) : Option State := do
  let s := complete fs (← n.value?)
  between? s.frames s.mode c

def step (s : State) (c : Char) : Option State :=
  match s.mode with
  | .text isKey chars =>
    if c = '"' then some (completeText s.frames isKey chars)
    else if c = '\\' then some ⟨s.frames, .escaped isKey chars⟩
    else if c.toNat < 0x20 then none
    else some ⟨s.frames, .text isKey (c :: chars)⟩
  | .escaped isKey chars =>
    if c = 'u' then some ⟨s.frames, .codeUnit isKey chars none 4 0⟩
    else (unescape? c).map fun d => ⟨s.frames, .text isKey (d :: chars)⟩
  | .codeUnit isKey chars high left code => do
    let code := 16 * code + (← hexValue? c)
    if left ≤ 1 then completeUnit? s.frames isKey chars high code
    else some ⟨s.frames, .codeUnit isKey chars high (left - 1) code⟩
  | .secondHalf isKey chars high slash =>
    if slash then
      if c = 'u' then some ⟨s.frames, .codeUnit isKey chars (some high) 4 0⟩ else none
    else if c = '\\' then some ⟨s.frames, .secondHalf isKey chars high true⟩
    else none
  | .number n =>
    match n.extend? c with
    | some n => some ⟨s.frames, .number n⟩
    | none => afterNumber? s.frames n c
  | .word left v =>
    match left with
    | d :: left =>
      if c = d then
        some (if left.isEmpty then complete s.frames v else ⟨s.frames, .word left v⟩)
      else none
    | [] => none
  | mode => between? s.frames mode c

def finish? (s : State) : Option Value :=
  match s.mode, s.frames with
  | .done v, _ => some v
  | .number n, [] => n.value?
  | _, _ => none

end State

def readChars? (cs : List Char) : Option Value := do
  (← cs.foldlM State.step .start).finish?

def read? (b : Bytes) : Option Value := do
  readChars? (← Text.decode? b)

end CallAttribution.Json
