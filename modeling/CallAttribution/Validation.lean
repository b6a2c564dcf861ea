import CallAttribution.Artifact
import CallAttribution.Json.Reader

/-!
# Validation of artifacts

A directory of artifacts is checked file by file. Each line of the records has to be a record of
the known version whose flag agrees with the presence of a decision, and the summary has to be an
object of the known version whose counts agree with each other and with the number of valid
records. Nothing stops the check: all that is wrong is reported, in the order of the files and
lines. A wrong version is reported for the first line that has one.
-/

namespace CallAttribution

inductive Complaint where
  | directoryMissing
  | notDirectory
  | fileMissing
  | unknownFormat (format : String)
  | unreadable (error : FileError)
  | notJson
  | notObject (file : String)
  | badDocument (report : Schema.Report)
  | otherVersion (version : Int)
  | flagDisagrees
  | totalDisagrees (total : Int) (records : Nat)
  | countsDisagree (resolved unresolved total : Int)
  | attributionDisagrees

/-- What a complaint says. Behind "Invalid JSON" the reason that a reader of JSON gives, after a
colon and up to a full stop, is left out. -/
def Complaint.message : Complaint → String
  | directoryMissing => "Artifacts directory does not exist."
  | notDirectory => "Artifacts path is not a directory."
  | fileMissing => "Required artifact file is missing."
  | unknownFormat f => "Unsupported artifact format: " ++ f ++ "."
  | unreadable e => "Failed to read file: " ++ e.message ++ "."
  | notJson => "Invalid JSON"
  | notObject f => "Expected JSON object for " ++ f ++ "."
  | badDocument r => "Schema validation failed: " ++ r.message ++ "."
  | otherVersion v =>
    "Schema version mismatch: expected " ++ Text.showInt schemaVersion ++ ", got " ++
      Text.showInt v ++ "."
  | flagDisagrees => "'resolved' disagrees with presence of 'decision'."
  | totalDisagrees t n =>
    "Summary total (" ++ Text.showInt t ++ ") does not match " ++ Text.showNat n ++
      " valid resolution records."
  | countsDisagree r u t =>
    "Summary totals disagree: resolved (" ++ Text.showInt r ++ ") + unresolved (" ++
      Text.showInt u ++ ") != total (" ++ Text.showInt t ++ ")."
  | attributionDisagrees => "Per-heuristic counts do not add up to 'resolved'."

/-- A complaint about an artifact, about one of its lines if it has a line number. -/
structure Remark where
  artifact : String
  path : Path
  line : Option Nat
  complaint : Complaint

def Remark.location (r : Remark) : String :=
  match r.line with
  | none => r.path.toString
  | some n => r.path.toString ++ ":" ++ Text.showNat n

/-- An expected file: the name of the artifact, the name of the file and the format. -/
structure ArtifactSpec where
  artifact : String
  file : String
  format : String

/-- What was found wrong. Warnings do not make artifacts invalid. -/
structure Validation where
  errors : List Remark
  warnings : List Remark

namespace Validation

def ok (v : Validation) : Bool :=
  v.errors.isEmpty

def append (v w : Validation) : Validation :=
  ⟨v.errors ++ w.errors, v.warnings ++ w.warnings⟩

def nothing : Validation :=
  ⟨[], []⟩

def defaultSpecs : List ArtifactSpec :=
  [⟨"resolutions", Artifact.recordsFile, "jsonl"⟩, ⟨"summary", Artifact.summaryFile, "json"⟩]

inductive LineContent where
  | blank
  | notJson
  | refused (report : Schema.Report)
  | record (r : Record)

def LineContent.ofBytes (line : Bytes) : LineContent :=
  let line := Text.trimBytes line
  if line = [] then .blank
  else match Json.read? line with
    | none => .notJson
    | some v =>
      match (Record.shape v).toExcept "ResolutionRecord" with
      | .error r => .refused r
      | .ok r => .record r

def linesOf (b : Bytes) : List LineContent :=
  (Text.pieces 0x0a b).map LineContent.ofBytes

/-- What is wrong with a record, apart from its version. -/
def flagComplaints (r : Record) : List Complaint :=
  if r.resolved = r.decision.isSome then [] else [.flagDisagrees]

/-- What is wrong with the version of a record; a wrong version is reported once. -/
def versionComplaints (reported : Bool) (r : Record) : List Complaint :=
  if r.version = schemaVersion ∨ reported then [] else [.otherVersion r.version]

/-- The complaints about lines, the first of which has the number `n`. -/
def lineComplaints (n : Nat) (reported : Bool) : List LineContent → List (Nat × Complaint)
  | [] => []
  | .blank :: ls => lineComplaints (n + 1) reported ls
  | .notJson :: ls => (n, .notJson) :: lineComplaints (n + 1) reported ls
  | .refused r :: ls => (n, .badDocument r) :: lineComplaints (n + 1) reported ls
  | .record r :: ls =>
    (versionComplaints reported r ++ flagComplaints r).map (n, ·) ++
      lineComplaints (n + 1) (reported || r.version != schemaVersion) ls

def recordsOf (ls : List LineContent) : List Record :=
  ls.filterMap fun
    | .record r => some r
    | _ => none

/-- The complaints about a file of records, and the number of its valid records. -/
def checkRecords (t : FileTree) (artifact : String) (p : Path) : Validation × Nat :=
  match t.read p with
  | .error e => (⟨[⟨artifact, p, none, .unreadable e⟩], []⟩, 0)
  | .ok b =>
    let ls := linesOf b
    (⟨(lineComplaints 1 false ls).map fun c => ⟨artifact, p, some c.1, c.2⟩, []⟩,
      (recordsOf ls).length)

def readSummary (t : FileTree) (p : Path) : Except Complaint Summary :=
  match t.read p with
  | .error _ => .error .notJson
  | .ok b =>
    match Json.read? b with
    | none => .error .notJson
    | some (.obj ms) =>
      ((Summary.shape (.obj ms)).toExcept "ResolutionSummary").mapError .badDocument
    | some _ => .error (.notObject p.name)

/-- What is wrong with the counts of a summary, given the number of valid records if there is a
file of records. -/
def countComplaints (records : Option Nat) (s : Summary) : List Complaint :=
  (match records with
    | some n => if (n : Int) = s.total then [] else [.totalDisagrees s.total n]
    | none => []) ++
  (if s.resolved + s.unresolved = s.total then []
    else [.countsDisagree s.resolved s.unresolved s.total])

def countWarnings (s : Summary) : List Complaint :=
  if s.attributed = s.resolved then [] else [.attributionDisagrees]

def checkSummary (t : FileTree) (artifact : String) (p : Path) (records : Option Nat) :
    Validation :=
  let remark := fun c => (⟨artifact, p, none, c⟩ : Remark)
  match readSummary t p with
  | .error c => ⟨[remark c], []⟩
  | .ok s =>
    let version := if s.version = schemaVersion then [] else [.otherVersion s.version]
    ⟨(version ++ countComplaints records s).map remark, (countWarnings s).map remark⟩

/-- Check the expected files in turn, given the number of valid records counted so far. -/
def checkFiles (t : FileTree) (dir : Path) (records : Option Nat) :
    List ArtifactSpec → Except FileError Validation
  | [] => .ok nothing
  | s :: specs => do
    let p := dir.child s.file
    match ← t.stat? p with
    | none =>
      return append ⟨[⟨s.artifact, p, none, .fileMissing⟩], []⟩
        (← checkFiles t dir records specs)
    | some _ =>
      if s.format = "jsonl" then
        let (v, n) := checkRecords t s.artifact p
        return append v (← checkFiles t dir (some n) specs)
      else if s.format = "json" then
        return append (checkSummary t s.artifact p records) (← checkFiles t dir records specs)
      else
        return append ⟨[⟨s.artifact, p, none, .unknownFormat s.format⟩], []⟩
          (← checkFiles t dir records specs)

/-- Check a directory of artifacts. It fails only if a path cannot be looked up at all. -/
def ofDirectory (t : FileTree) (dir : Path) (specs : List ArtifactSpec) :
    Except FileError Validation := do
  let wrong := fun c => (⟨[⟨"artifacts_dir", dir, none, c⟩], []⟩ : Validation)
  match ← t.stat? dir with
  | none => return wrong .directoryMissing
  | some (.file _) => return wrong .notDirectory
  | some .directory => checkFiles t dir none specs

end Validation

end CallAttribution
