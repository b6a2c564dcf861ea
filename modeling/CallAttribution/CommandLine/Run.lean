import CallAttribution.CommandLine.Environment
import CallAttribution.CommandLine.Invocation
import CallAttribution.Validation
import CallAttribution.Verification

/-!
# Carrying out commands

A command answers with an exit status, with lines for its output and with notices for whoever
watches. Refused configurations and inputs are answered as well: status 2 and one notice. What a
command has no answer for, such as a directory that cannot be made, is a `RunError`.
-/

namespace CallAttribution.CommandLine

/-- What a command tells besides its output: a line, or a log entry. -/
inductive Notice where
  | line (text : String)
  | log (level : Level) (message : String)
  deriving DecidableEq

structure Reply where
  status : Nat
  output : List String
  notices : List Notice
  deriving DecidableEq

inductive RunError where
  | place (error : PlaceError)
  | failure (error : Failure)
  | verification (error : VerificationError)
  | file (error : FileError)
  deriving DecidableEq

def RunError.message : RunError → String
  | place e => e.message
  | failure e => e.message
  | verification e => e.message
  | file e => e.message

namespace Reply

def silent : Reply :=
  ⟨0, [], []⟩

def complaint (status : Nat) (lines : List String) : Reply :=
  ⟨status, [], lines.map .line⟩

def refusal (message : String) : Reply :=
  complaint 2 ["error: " ++ message]

end Reply

def showsLevel (verbose : Bool) : Level → Bool
  | .debug | .info => verbose
  | .warning => true

def noticeOf? (traced verbose : Bool) : Event → Option Notice
  | .trace line => if traced then some (.line line) else none
  | .log level message => if showsLevel verbose level then some (.log level message) else none

/-- What is answered when a run fails: a refusal if the configuration or an input is at fault. -/
def replyToFailure : Failure → Except RunError Reply
  | .project (.config e) => .ok (.refusal e.message)
  | .input .badPath => .error (.failure (.input .badPath))
  | .input e => .ok (.refusal e.message)
  | e => .error (.failure e)

/-- What is answered when verification fails, for artifacts at the given place. Whatever is missing
on the way, or is no directory, is answered like missing artifacts. -/
def replyToVerificationError (dir : Location) (e : VerificationError) : Except RunError Reply :=
  let refusal := Reply.complaint 2
    ["artifacts-dir: " ++ (Path.ofLocation dir).toString, "error: " ++ e.message]
  match e with
  | .directoryMissing _ | .notDirectory _ => .ok refusal
  | .file (.fault .notFound _) | .file (.fault .notDirectory _) => .ok refusal
  | .failure (.write (.file (.fault .notFound _))) => .ok refusal
  | .failure (.write (.file (.fault .notDirectory _))) => .ok refusal
  | .failure (.input .badPath) => .error (.verification e)
  | .failure (.input _) => .ok refusal
  | _ => .error (.verification e)

def replyToRun (traced verbose : Bool) (g : Generated) : Reply where
  status := 0
  output := ["resolved " ++ Text.showInt g.summary.resolved ++ "/" ++
    Text.showInt g.summary.total ++ " call(s), " ++ Text.showInt g.summary.unresolved ++
    " unresolved"]
  notices := g.events.filterMap (noticeOf? traced verbose)

/-- The places of the input files, the snapshot first. -/
def Inputs.places (env : Environment) (i : Inputs) : Except PlaceError (Location × Location) := do
  let s ← env.placeOf? i.snapshot
  let c ← env.placeOf? i.calls
  return (s, c)

def Inputs.request (env : Environment) (i : Inputs) (root : Location) (c : Config)
    (outDir : Option String) : Except PlaceError Request := do
  let (s, b) ← i.places env
  let out ← outDir.mapM env.place
  return ⟨.ofLocation root, .ofLocation s, .ofLocation b, out.map .ofLocation, some c⟩

/-- The directory of artifacts that a command names, or else the one that is configured. -/
def artifactsPlace (env : Environment) (root : Location) (c : Config) :
    Option String → Except PlaceError Location
  | some word => env.place word
  | none => env.locate ((Path.ofLocation root).child c.outputDir)

/-- Make artifacts. The trace is shown if the command or the configuration asks for it. -/
def runResolve (env : Environment) (root : Location) (i : Inputs) (outDir : Option String)
    (verbose : Bool) (t : FileTree) : Except RunError Reply × FileTree :=
  match Project.loadConfig t (.ofLocation root) with
  | .error e => (replyToFailure (.project e), t)
  | .ok c =>
    match i.request env root c outDir with
    | .error e => (.error (.place e), t)
    | .ok r =>
      let traced := verbose || c.trace.enabled
      match generate r (if traced then some (.fresh c.trace.throttle) else none) t with
      | (.error e, t) => (replyToFailure e, t)
      | (.ok g, t) => (.ok (replyToRun traced verbose g), t)

def validationLines (v : Validation) : List String :=
  v.warnings.map (fun r => r.location ++ ": warning: " ++ r.complaint.message) ++
    v.errors.map (fun r => r.location ++ ": " ++ r.complaint.message)

def validateAt (dir : Location) (t : FileTree) : Except RunError Reply := do
  let v ← (Validation.ofDirectory t (.ofLocation dir) Validation.defaultSpecs).mapError .file
  return .complaint (if v.ok then 0 else 1) (validationLines v)

/-- Check artifacts. The configuration matters only if no directory is named. -/
def runValidate (env : Environment) (root : Location) (artifacts : Option String) (t : FileTree) :
    Except RunError Reply :=
  match artifacts with
  | some word => do validateAt (← (env.place word).mapError .place) t
  | none =>
    match Project.loadConfig t (.ofLocation root) with
    | .error e => replyToFailure (.project e)
    | .ok c => do validateAt (← (artifactsPlace env root c none).mapError .place) t

def deviationLines (d : Deviation) : List String :=
  d.missing.map ("missing: " ++ ·) ++ d.extra.map ("extra: " ++ ·) ++
    d.mismatches.map ("mismatches: " ++ ·)

/-- Compare the artifacts at a place with what a run writes at the scratch place. -/
def verifyAt (scratch dir : Location) (r : Request) (t : FileTree) :
    Except RunError Reply × FileTree :=
  match Verification.ofDirectory r (.ofLocation dir) scratch t with
  | (.error e, t) => (replyToVerificationError dir e, t)
  | (.ok d, t) => (.ok (.complaint (if d.ok then 0 else 1) (deviationLines d)), t)

/-- What is answered when the inputs of a verification have no place. A working directory that has
been removed is taken for missing artifacts. -/
def replyToPlaceError (dir : Location) : PlaceError → Except RunError Reply
  | .noWorkingDirectory =>
    .ok (.complaint 2 ["artifacts-dir: " ++ (Path.ofLocation dir).toString,
      "error: " ++ PlaceError.noWorkingDirectory.message])
  | e => .error (.place e)

def runVerify (env : Environment) (root : Location) (i : Inputs) (artifacts : Option String)
    (t : FileTree) : Except RunError Reply × FileTree :=
  match Project.loadConfig t (.ofLocation root) with
  | .error e => (replyToFailure (.project e), t)
  | .ok c =>
    match artifactsPlace env root c artifacts with
    | .error e => (.error (.place e), t)
    | .ok dir =>
      match i.request env root c none with
      | .error e => (replyToPlaceError dir e, t)
      | .ok r => verifyAt env.scratch dir r t

/-- The directory of artifacts that a command names or that the configuration found in a file tree
gives. -/
def Task.artifactsPlace? (env : Environment) (root : Location) (t : FileTree) (task : Task) :
    Option Location :=
  let word := match task with
    | .resolve _ outDir _ => outDir
    | .validate artifacts | .verify _ artifacts => artifacts
  match word with
  | some w => (env.place w).toOption
  | none => do
    let c ← (Project.loadConfig t (.ofLocation root)).toOption
    (CommandLine.artifactsPlace env root c none).toOption

def Task.inputPlaces (env : Environment) : Task → List Location
  | .validate _ => []
  | .resolve i _ _ | .verify i _ =>
    ([i.snapshot, i.calls].filterMap id).filterMap fun w => (env.place w).toOption

/-- The directory in which a command makes a temporary one. -/
def Task.scratchPlaces (env : Environment) : Task → List Location
  | .verify _ _ => [env.scratch.dropLast]
  | _ => []

/-- The places that a command looks at, as far as the files that are known tell. -/
def Invocation.places (env : Environment) (v : Invocation) (t : FileTree) : List Location :=
  match env.place v.root with
  | .error _ => []
  | .ok root =>
    (root ++ [Project.configFile]) :: v.task.inputPlaces env ++ v.task.scratchPlaces env ++
      match v.task.artifactsPlace? env root t with
      | none => []
      | some dir => [dir ++ [Artifact.recordsFile], dir ++ [Artifact.summaryFile]]

/-- The place below which a command looks at everything. -/
def Invocation.wholePlace? (env : Environment) (v : Invocation) (t : FileTree) :
    Option Location :=
  match v.task, env.place v.root with
  | .verify i artifacts, .ok root => (Task.verify i artifacts).artifactsPlace? env root t
  | _, _ => none

/-- Carry out a command on a file tree. -/
def Invocation.run (env : Environment) (v : Invocation) (t : FileTree) :
    Except RunError Reply × FileTree :=
  match env.place v.root with
  | .error e => (.error (.place e), t)
  | .ok root =>
    match v.task with
    | .resolve i outDir verbose => runResolve env root i outDir verbose t
    | .validate artifacts => (runValidate env root artifacts t, t)
    | .verify i artifacts => runVerify env root i artifacts t

end CallAttribution.CommandLine
