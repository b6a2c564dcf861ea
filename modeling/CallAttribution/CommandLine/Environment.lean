import CallAttribution.Path
import CallAttribution.Table

/-!
# Paths on a command line

A path on a command line is seen from the working directory, and a tilde at its beginning stands
for a home directory. What comes out is a place, with all detours taken back.
-/

namespace CallAttribution.CommandLine

/-- Where a command line is read: the working directory, which may have been removed, the home
directory, the home directories of other accounts, and the place for a temporary directory. -/
structure Environment where
  workingDirectory : Option Location
  home : Option String
  accounts : Table String
  scratch : Location

inductive PlaceError where
  | noPath
  | embeddedNull
  | unknownHome
  | noWorkingDirectory
  deriving DecidableEq

def PlaceError.message : PlaceError → String
  | noPath => "expected str, bytes or os.PathLike object, not list"
  | embeddedNull => "embedded null byte"
  | unknownHome => "Could not determine home directory."
  | noWorkingDirectory => "[Errno 2] No such file or directory"

/-- The home directories in a list of accounts, one account a line with fields between colons. -/
def accountsOf (list : String) : Table String :=
  (Text.pieces '\n' list.toList).filterMap fun line =>
    match (Text.pieces ':' line).map String.ofList with
    | [name, _, _, _, _, home, _] => some (name, home)
    | _ => none

namespace Environment

/-- A text without the slashes at its end, or a single slash if nothing else is left. -/
def withoutSlashes (s : String) : String :=
  match (s.toList.reverse.dropWhile (· == '/')).reverse with
  | [] => "/"
  | cs => String.ofList cs

/-- The home directory of the named account, or the own one if the name is empty. -/
def homeOf (env : Environment) (account : String) : Except PlaceError Path :=
  if Path.hasNull account then .error .embeddedNull
  else
    match if account = "" then env.home else env.accounts.get? account with
    | none => .error .unknownHome
    | some h =>
      if h.toList.head? = some '~' then .error .unknownHome
      else .ok (.ofString (withoutSlashes h))

/-- The path with the tilde at its beginning replaced. -/
def expand (env : Environment) (p : Path) : Except PlaceError Path :=
  match p.isAbsolute, p.parts with
  | false, part :: parts =>
    match part.toList with
    | '~' :: account => do
      let h ← env.homeOf (String.ofList account)
      return ⟨h.anchor, h.parts ++ parts⟩
    | _ => .ok p
  | _, _ => .ok p

def locate (env : Environment) (p : Path) : Except PlaceError Location :=
  if p.isMalformed then .error .embeddedNull
  else if p.isAbsolute then .ok (Path.walk [] p.parts)
  else
    match env.workingDirectory with
    | none => .error .noWorkingDirectory
    | some l => .ok (Path.walk l p.parts)

def place (env : Environment) (word : String) : Except PlaceError Location := do
  env.locate (← env.expand (.ofString word))

def placeOf? (env : Environment) : Option String → Except PlaceError Location
  | none => .error .noPath
  | some word => env.place word

end Environment

end CallAttribution.CommandLine
