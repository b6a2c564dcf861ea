import CallAttribution.Table
import CallAttribution.Text.Word
import CallAttribution.Text.Basic

/-!
# Words of a command line

A command line is a list of words. Words that begin with a hyphen are options, which may stand
anywhere and may be shortened as long as they stay unique; all others are values, which are taken
in turn. After the separator `--` every word is a value. What each word is gets decided first, for
the whole line, and then the words are read from left to right; the first request for help or the
first misuse that is met ends the reading.
-/

namespace CallAttribution.CommandLine

inductive Stop where
  | help
  | misuse
  deriving DecidableEq

/-- An option of a command, and whether a value belongs to it. -/
structure Switch where
  name : String
  takesValue : Bool
  deriving DecidableEq

inductive Arity where
  | exactly (count : Nat)
  | atMostOne
  deriving DecidableEq

/-- What a command understands. Every command also understands `-h` and `--help`. -/
structure Grammar where
  arity : Arity
  switches : List Switch

inductive Word where
  | value (text : String)
  | separator
  | switch (s : Switch) (attached : Option String)
  | stop (s : Stop)
  | unknown
  deriving DecidableEq

namespace Word

/-- A numeral with a minus sign, which is a value in spite of its hyphen. A line feed at its end
does not matter. -/
def isNegative (cs : List Char) : Bool :=
  match cs with
  | '-' :: cs =>
    let (whole, rest) := Text.span Text.isAnyDigit cs
    match rest with
    | [] | ['\n'] => !whole.isEmpty
    | '.' :: rest =>
      let (fraction, rest) := Text.span Text.isAnyDigit rest
      !fraction.isEmpty && (rest = [] || rest = ['\n'])
    | _ => false
  | _ => false

def unnamed (cs : List Char) : Word :=
  if isNegative cs || cs.contains ' ' then .value (String.ofList cs) else .unknown

/-- The name of a long option and what is attached to it behind an equals sign. -/
def split (cs : List Char) : List Char × Option (List Char) :=
  match Text.span (· != '=') cs with
  | (name, []) => (name, none)
  | (name, _ :: attached) => (name, some attached)

def helpName : String := "--help"

def named (g : Grammar) (name : String) (attached : Option (List Char)) : Word :=
  match g.switches.find? fun s => s.name = name with
  | some s => .switch s (attached.map String.ofList)
  | none => .stop (if attached.isSome then .misuse else .help)

def names (g : Grammar) : List String :=
  helpName :: g.switches.map (·.name)

/-- A word that begins with two hyphens; nothing if its beginning fits several options. -/
def long? (g : Grammar) (cs : List Char) : Option Word :=
  let (name, attached) := split cs
  if (names g).contains (String.ofList name) then
    some (named g (String.ofList name) attached)
  else
    match (names g).filter fun n => name.isPrefixOf n.toList with
    | [] => some (unnamed cs)
    | [n] => some (named g n attached)
    | _ => none

/-- What the letters behind `-h` amount to. Further letters are options of their own, but none of
them can prevent the help that the first one asks for. -/
def letters : List Char → Stop
  | [] => .help
  | '=' :: _ => .misuse
  | '-' :: _ => .misuse
  | 'h' :: cs => letters cs
  | _ => .help

def classify? (g : Grammar) (word : String) : Option Word :=
  match word.toList with
  | ['-', '-'] => some .separator
  | '-' :: '-' :: cs => long? g ('-' :: '-' :: cs)
  | '-' :: 'h' :: cs => some (.stop (letters cs))
  | '-' :: c :: cs => some (unnamed ('-' :: c :: cs))
  | _ => some (.value word)

def classifyAll? (g : Grammar) : List String → Option (List Word)
  | [] => some []
  | w :: ws => do
    match ← classify? g w with
    | .separator => return .separator :: ws.map .value
    | x => return x :: (← classifyAll? g ws)

end Word

/-- What has been read so far: the values in turn, the options with what belongs to them, and
whether a word has been left over. A value may be missing although its turn was used up. -/
structure Arguments where
  values : List (Option String)
  options : Table String
  surplus : Bool

namespace Arguments

def none : Arguments :=
  ⟨[], [], false⟩

def hasRoom (g : Grammar) (a : Arguments) : Bool :=
  match g.arity with
  | .exactly count => a.values.length < count
  | .atMostOne => a.values.length < 1

def take (g : Grammar) (a : Arguments) (v : Option String) : Arguments :=
  if a.hasRoom g then { a with values := a.values ++ [v] } else { a with surplus := true }

/-- A separator with no value before or behind it is left over, unless a value could be missing. -/
def takeSeparator (g : Grammar) (a : Arguments) : Arguments :=
  match g.arity with
  | .atMostOne => if a.values.isEmpty then a else { a with surplus := true }
  | .exactly _ => { a with surplus := true }

/-- Note an option; what is given last stands. -/
def note (a : Arguments) (s : Switch) (v : String) : Arguments :=
  { a with options := a.options.insert s.name v }

def isComplete (g : Grammar) (a : Arguments) : Bool :=
  !a.surplus &&
    match g.arity with
    | .exactly count => a.values.length == count
    | .atMostOne => true

/-- Read classified words from left to right. A value takes the separator before it or behind it
along. A separator written once more, directly in the place of a value, uses up the turn of that
value without being one. -/
def scan (g : Grammar) (a : Arguments) : List Word → Except Stop Arguments
  | [] => if a.isComplete g then .ok a else .error .misuse
  | .separator :: .value v :: ws => scan g (a.take g v) ws
  | .separator :: ws => scan g (a.takeSeparator g) ws
  | .value v :: .separator :: ws => scan g (a.take g v) ws
  | .value v :: ws => scan g (a.take g (if v = "--" then Option.none else some v)) ws
  | .switch ⟨name, true⟩ (some v) :: ws => scan g (a.note ⟨name, true⟩ v) ws
  | .switch ⟨name, true⟩ Option.none :: .value v :: ws => scan g (a.note ⟨name, true⟩ v) ws
  | .switch ⟨name, false⟩ Option.none :: ws => scan g (a.note ⟨name, false⟩ "") ws
  | .switch _ _ :: _ => .error .misuse
  | .stop s :: _ => .error s
  | .unknown :: ws => scan g { a with surplus := true } ws

def read (g : Grammar) (words : List String) : Except Stop Arguments :=
  match Word.classifyAll? g words with
  | Option.none => .error .misuse
  | some ws => scan g none ws

end Arguments

end CallAttribution.CommandLine
