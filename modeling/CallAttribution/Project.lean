import CallAttribution.Config
import CallAttribution.FileTree
import CallAttribution.Toml.Reader

/-!
# Projects

A project is a directory. Its configuration stands in a file there; without the file the defaults
hold. Artifacts go into a directory that is named relative to the project and must not lie outside
of it, whatever the name looks like: what counts is where it leads once all detours are taken back.
-/

namespace CallAttribution

inductive ConfigError where
  | notToml (path : Path)
  | invalid (path : Path) (report : Schema.Report)
  | emptyOutputDir
  | absoluteOutputDir
  | escapingOutputDir (dir : String)
  deriving DecidableEq

/-- The message for a wrong configuration. Behind a file that is not TOML the reason that a reader
of TOML gives, after a colon, is left out. -/
def ConfigError.message : ConfigError → String
  | notToml p => Toml.Error.malformed.message ++ " in " ++ p.toString
  | invalid p r => "Invalid config in " ++ p.toString ++ ": " ++ r.message
  | emptyOutputDir => "output_dir must be a non-empty relative path"
  | absoluteOutputDir => "output_dir must be a relative path within the project root"
  | escapingOutputDir d => "output_dir '" ++ d ++ "' escapes the project root"

/-- Why a project cannot be used. Besides a wrong configuration the file itself may fail: it may
not be text, hold a number that is not read, or have a path that cannot be asked about. -/
inductive ProjectError where
  | config (error : ConfigError)
  | notText
  | oversizedInteger (digits : Nat)
  | file (error : FileError)
  deriving DecidableEq

def ProjectError.message : ProjectError → String
  | config e => e.message
  | notText => "configuration is not UTF-8 text"
  | oversizedInteger n => (Toml.Error.oversizedInteger n).message
  | file e => e.message

namespace Project

def configFile : String := "calltarget.toml"

def configOf (p : Path) (document : Table Value) : Except ConfigError Config :=
  ((Config.shape (.obj document)).toExcept "ResolverConfig").mapError (.invalid p)

def configOfBytes (p : Path) (b : Bytes) : Except ProjectError Config :=
  match Text.decode? b with
  | none => .error .notText
  | some cs =>
    match Toml.read cs with
    | .error .malformed => .error (.config (.notToml p))
    | .error (.oversizedInteger n) => .error (.oversizedInteger n)
    | .ok document => (configOf p document).mapError .config

def loadConfig (t : FileTree) (root : Path) : Except ProjectError Config := do
  let p := root.child configFile
  if ← (t.isFile? p).mapError .file then
    configOfBytes p (← (t.read p).mapError .file)
  else return .default

/-- The place of a path as it was written, counted from the root. -/
def placeOf (p : Path) : Except ProjectError Location :=
  match p.resolve? [] with
  | some l => .ok l
  | none => .error (.file .embeddedNull)

/-- The place of a directory named relative to a project, which has to lie inside of it. -/
def outputDir (root : Path) (dir : String) : Except ProjectError Location := do
  if dir = "" then .error (.config .emptyOutputDir)
  else if dir.toList.head? = some '~' ∨ (Path.ofString dir).isAbsolute then
    .error (.config .absoluteOutputDir)
  else
    let l ← placeOf root
    let out ← placeOf ((Path.ofLocation l).child dir)
    if Path.contains l out then return out
    else .error (.config (.escapingOutputDir dir))

end Project

end CallAttribution
