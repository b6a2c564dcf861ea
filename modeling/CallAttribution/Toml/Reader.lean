import CallAttribution.Text.Basic
import CallAttribution.Toml.Definition
import CallAttribution.Toml.Scalar

/-!
# Reading TOML

A document is read statement by statement: headers, keys with values, blank lines and comments,
each to the end of its line. Arrays and inline tables nest, so the readers of values carry a bound
on the depth of their recursion; every second step consumes a character, so a bound of twice the
number of characters is never reached. An interpreter has a limit of its own on that depth, which is
left out: values inside some hundreds of others are read here and are an error there.
-/

namespace CallAttribution.Toml

def skipComment (cs : List Char) : Except Error (List Char) :=
  match cs with
  | '#' :: rest =>
    if (rest.takeWhile (· != '\n')).any isControl then .error .malformed
    else .ok (rest.dropWhile (· != '\n'))
  | _ => .ok cs

/-- Skip blanks, line feeds and comments. The bound is the number of comments at most. -/
def skipFiller : Nat → List Char → Except Error (List Char)
  | 0, cs => .ok cs
  | bound + 1, cs =>
    match cs.dropWhile isBlankOrFeed with
    | '#' :: rest => do skipFiller bound (← skipComment ('#' :: rest))
    | cs => .ok cs

def isBareKey (c : Char) : Bool :=
  c.isAlphanum || c == '-' || c == '_'

def keyPart (cs : List Char) : Read String :=
  match cs with
  | '"' :: rest => (quoted false [] (.plain false) rest).map fun r => (String.ofList r.1, r.2)
  | '\'' :: rest => (literal false [] rest).map fun r => (String.ofList r.1, r.2)
  | _ =>
    match cs.takeWhile isBareKey with
    | [] => .error .malformed
    | name => .ok (String.ofList name, cs.dropWhile isBareKey)

/-- The names of a key with points between them, and the blanks after it. -/
def key : Nat → List Char → Except Error (Key × List Char)
  | 0, _ => .error .malformed
  | bound + 1, cs => do
    let (name, cs) ← keyPart cs
    match cs.dropWhile isBlank with
    | '.' :: rest =>
      let (names, cs) ← key bound (rest.dropWhile isBlank)
      return (name :: names, cs)
    | cs => return ([name], cs)

/-- A definition inside an inline table, given the keys that are closed. -/
def defineInline (marks : List (Key × Mark)) (t : Table Value) (k : Key) (v : Value) :
    Option (Table Value) :=
  if Document.isClosed marks k then none
  else updateAt false (define (k.getLast?.getD "") v) k.dropLast t

mutual

def value : Nat → List Char → Except Error (Value × List Char)
  | 0, _ => .error .malformed
  | bound + 1, cs =>
    match string? cs with
    | some r => r.map fun r => (.str (String.ofList r.1), r.2)
    | none =>
      match cs with
      | 't' :: 'r' :: 'u' :: 'e' :: cs => .ok (.bool true, cs)
      | 'f' :: 'a' :: 'l' :: 's' :: 'e' :: cs => .ok (.bool false, cs)
      | '[' :: cs => do items bound [] (← skipFiller cs.length cs)
      | '\x7b' :: cs =>
        match cs.dropWhile isBlank with
        | '\x7d' :: cs => .ok (.obj [], cs)
        | cs => pairs bound [] [] cs
      | cs =>
        match moment? cs with
        | some r => r
        | none =>
          match based? cs with
          | some r => .ok r
          | none =>
            match decimal? cs with
            | some r => r
            | none =>
              match special? cs with
              | some r => .ok r
              | none => .error .malformed

/-- The rest of an array, given the elements read so far in reverse order. -/
def items : Nat → List Value → List Char → Except Error (Value × List Char)
  | 0, _, _ => .error .malformed
  | bound + 1, vs, cs =>
    match cs with
    | ']' :: cs => .ok (.arr vs.reverse, cs)
    | cs => do
      let (v, cs) ← value bound cs
      match ← skipFiller cs.length cs with
      | ']' :: cs => return (.arr (v :: vs).reverse, cs)
      | ',' :: cs => items bound (v :: vs) (← skipFiller cs.length cs)
      | _ => .error .malformed

/-- The rest of an inline table that is not empty, given what it holds so far. -/
def pairs : Nat → List (Key × Mark) → Table Value → List Char →
    Except Error (Value × List Char)
  | 0, _, _, _ => .error .malformed
  | bound + 1, marks, t, cs => do
    let (k, cs) ← key cs.length cs
    match cs with
    | '=' :: cs =>
      let (v, cs) ← value bound (cs.dropWhile isBlank)
      match defineInline marks t k v with
      | none => .error .malformed
      | some t =>
        match cs.dropWhile isBlank with
        | '\x7d' :: cs => return (.obj t, cs)
        | ',' :: cs =>
          pairs bound (if isCompound v then (k, .closed) :: marks else marks) t
            (cs.dropWhile isBlank)
        | _ => .error .malformed
    | _ => .error .malformed

end

def orMalformed {α : Type} (o : Option α) : Except Error α :=
  match o with
  | some a => .ok a
  | none => .error .malformed

/-- A header between single or double brackets; the opening ones have been read. -/
def header (d : Document) (element : Bool) (cs : List Char) :
    Except Error (Document × List Char) := do
  let (k, cs) ← key cs.length (cs.dropWhile isBlank)
  if element then
    let d ← orMalformed (d.openElement k)
    match cs with
    | ']' :: ']' :: cs => return (d, cs)
    | _ => .error .malformed
  else
    let d ← orMalformed (d.openTable k)
    match cs with
    | ']' :: cs => return (d, cs)
    | _ => .error .malformed

def definition (d : Document) (cs : List Char) : Except Error (Document × List Char) := do
  let (k, cs) ← key cs.length cs
  match cs with
  | '=' :: cs =>
    let cs := cs.dropWhile isBlank
    let (v, cs) ← value (2 * cs.length + 2) cs
    return (← orMalformed (d.addValue k v), cs)
  | _ => .error .malformed

def statement (d : Document) (cs : List Char) : Except Error (Document × List Char) :=
  match cs with
  | '[' :: '[' :: cs => header d.settle true cs
  | '[' :: cs => header d.settle false cs
  | c :: _ =>
    if isBareKey c || c == '"' || c == '\'' then definition d cs
    else if c = '#' || c = '\n' then .ok (d, cs)
    else .error .malformed
  | [] => .ok (d, [])

/-- The statements of a document, each on a line; the bound is the number of lines at most. -/
def statements : Nat → Document → List Char → Except Error Document
  | 0, d, _ => .ok d
  | bound + 1, d, cs => do
    let (d, cs) ← statement d (cs.dropWhile isBlank)
    match ← skipComment (cs.dropWhile isBlank) with
    | [] => return d
    | '\n' :: cs => statements bound d cs
    | _ => .error .malformed

/-- Every carriage return before a line feed is dropped. -/
def unifyLineEnds : List Char → List Char
  | '\r' :: '\n' :: cs => '\n' :: unifyLineEnds cs
  | c :: cs => c :: unifyLineEnds cs
  | [] => []

def read (cs : List Char) : Except Error (Table Value) := do
  let cs := unifyLineEnds cs
  return (← statements (cs.length + 1) .empty cs).root

end CallAttribution.Toml
