import CallAttribution.Signature
import CallAttribution.Table
import CallAttribution.Text.Basic

/-!
# Assignments between variables

The intermediate representation of a contract shows how a local variable was obtained, one
assignment a line: `troveManagerCached(ITroveManager) := troveManager(ITroveManager)`. A line
assigns when it is, in this order and with optional white space before the target and around the
assignment sign, a name, a parenthesized nonempty text without closing parentheses, the sign `:=`,
a name and an opening parenthesis; what follows is ignored. Every other line is skipped. The source
assigned last stands.
-/

namespace CallAttribution

/-- The source of each assigned variable. -/
abbrev Assignments := Table String

namespace Assignment

/-- What follows a nonempty text without closing parentheses and its closing parenthesis. -/
def afterType? (cs : List Char) : Option (List Char) :=
  match Text.span (· != ')') cs with
  | ([], _) => none
  | (_, ')' :: rest) => some rest
  | _ => none

def afterSign? (cs : List Char) : Option (List Char) :=
  match cs.dropWhile Text.isSpace with
  | ':' :: '=' :: rest => some rest
  | _ => none

def ofLine? (line : List Char) : Option (String × String) := do
  let (target, rest) ← Signature.callee? (line.dropWhile Text.isSpace)
  let rest ← afterType? rest
  let rest ← afterSign? rest
  let (source, _) ← Signature.callee? (rest.dropWhile Text.isSpace)
  return (String.ofList target, String.ofList source)

end Assignment

/-- The assignments of a text, the last one of each target standing. -/
def Assignments.ofText (text : String) : Assignments :=
  Table.ofEntries ((Text.lines text.toList).filterMap Assignment.ofLine?)

/-- The assignments of several named texts; of two texts of one name the later counts. -/
def Assignments.ofTexts (texts : List (String × String)) : Table Assignments :=
  Table.ofEntries (texts.map fun (name, text) => (name, ofText text))

/-- Replace a variable by its source, at most `hops` times; stop where no source is known. -/
def Assignments.follow (m : Assignments) : Nat → String → String
  | 0, name => name
  | hops + 1, name =>
    match m.get? name with
    | none => name
    | some source => m.follow hops source

/-- The same with a limit that may be any whole number; one below 1 admits no replacement. -/
def Assignments.followWithin (m : Assignments) (limit : Int) (name : String) : String :=
  m.follow limit.toNat name

end CallAttribution
