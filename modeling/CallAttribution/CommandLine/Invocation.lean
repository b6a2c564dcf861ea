import CallAttribution.CommandLine.Grammar

/-!
# Commands

Three commands work on a project: `resolve` makes artifacts, `validate` checks artifacts by
themselves and `verify` compares them with what the inputs give. The name of the command comes
first; what stands before it can only be a request for help, and makes the line a misuse otherwise.
-/

namespace CallAttribution.CommandLine

inductive Command where
  | resolve
  | validate
  | verify
  deriving DecidableEq

namespace Command

def name : Command → String
  | resolve => "resolve"
  | validate => "validate"
  | verify => "verify"

def ofName? (n : String) : Option Command :=
  [resolve, validate, verify].find? fun c => c.name == n

theorem ofName?_name (c : Command) : ofName? c.name = some c := by
  cases c <;> rfl

end Command

def rootSwitch : Switch := ⟨"--root", true⟩

def outDirSwitch : Switch := ⟨"--out-dir", true⟩

def artifactsSwitch : Switch := ⟨"--artifacts-dir", true⟩

def verboseSwitch : Switch := ⟨"--verbose", false⟩

def Command.grammar : Command → Grammar
  | resolve => ⟨.exactly 2, [rootSwitch, outDirSwitch, verboseSwitch]⟩
  | validate => ⟨.atMostOne, [artifactsSwitch]⟩
  | verify => ⟨.exactly 2, [rootSwitch, artifactsSwitch]⟩

/-- The two input files, either of which may be left without a path. -/
structure Inputs where
  snapshot : Option String
  calls : Option String
  deriving DecidableEq

inductive Task where
  | resolve (inputs : Inputs) (outDir : Option String) (verbose : Bool)
  | validate (artifacts : Option String)
  | verify (inputs : Inputs) (artifacts : Option String)
  deriving DecidableEq

/-- The directory of a project, as it was written, and what is to be done. -/
structure Invocation where
  root : String
  task : Task
  deriving DecidableEq

def defaultRoot : String := "."

def usage : String :=
  "usage: calltarget resolve [--root ROOT] [--out-dir DIR] [--verbose] SNAPSHOT CALLS\n" ++
  "       calltarget validate [--artifacts-dir DIR] [ROOT]\n" ++
  "       calltarget verify [--root ROOT] [--artifacts-dir DIR] SNAPSHOT CALLS"

namespace Arguments

def option? (a : Arguments) (s : Switch) : Option String :=
  a.options.get? s.name

def inputs (a : Arguments) : Inputs :=
  ⟨(a.values[0]?).join, (a.values[1]?).join⟩

def rootOption (a : Arguments) : String :=
  (a.option? rootSwitch).getD defaultRoot

def toInvocation (a : Arguments) : Command → Invocation
  | .resolve =>
    ⟨a.rootOption, .resolve a.inputs (a.option? outDirSwitch) (a.option? verboseSwitch).isSome⟩
  | .validate =>
    ⟨((a.values[0]?).join).getD defaultRoot, .validate (a.option? artifactsSwitch)⟩
  | .verify => ⟨a.rootOption, .verify a.inputs (a.option? artifactsSwitch)⟩

end Arguments

namespace Invocation

/-- What stands before the name of the command. -/
def outerGrammar : Grammar :=
  ⟨.exactly 1, []⟩

def ofCommand (name : String) (words : List String) : Except Stop Invocation :=
  match Command.ofName? name with
  | none => .error .misuse
  | some c => (Arguments.read c.grammar words).map fun a => a.toInvocation c

/-- What the words of a command line ask for. -/
def ofWords : List String → Except Stop Invocation
  | [] => .error .misuse
  | w :: ws =>
    match Word.classify? outerGrammar w with
    | some (.value name) => ofCommand name ws
    | some (.stop s) => .error s
    | some .unknown =>
      match ofWords ws with
      | .ok _ => .error .misuse
      | .error s => .error s
    | _ => .error .misuse

end Invocation

end CallAttribution.CommandLine
