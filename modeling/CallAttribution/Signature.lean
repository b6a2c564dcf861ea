import CallAttribution.Text.Word

/-!
# Function signatures

A contract's interface is a list of readable declarations such as
`function deposit(uint256 amount) payable`. Only declarations that begin with the word `function`
and a plain space count; constructors, events and errors do not. The declared name is the run of
word characters between the keyword and an opening parenthesis.
-/

namespace CallAttribution.Signature

/-- The keyword and the plain space that open a function declaration. -/
def keyword : List Char :=
  "function ".toList

def isFunction (signature : String) : Bool :=
  keyword.isPrefixOf signature.toList

/-- A nonempty run of word characters followed by an opening parenthesis, and the rest. -/
def callee? (cs : List Char) : Option (List Char × List Char) :=
  match Text.span Text.isWord cs with
  | ([], _) => none
  | (name, '(' :: rest) => some (name, rest)
  | _ => none

/-- The declared function name; absent when the declaration is not of a function or is malformed. -/
def functionName? (signature : String) : Option String :=
  if isFunction signature then
    let rest := (signature.toList.drop keyword.length).dropWhile Text.isSpace
    (callee? rest).map fun r => String.ofList r.1
  else none

def exposes (interface : List String) (name : String) : Bool :=
  interface.any fun s => functionName? s == some name

end CallAttribution.Signature
