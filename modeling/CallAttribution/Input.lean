import CallAttribution.CallSite
import CallAttribution.FileTree
import CallAttribution.Json.Reader
import CallAttribution.Snapshot

/-!
# Input files

A snapshot and a batch of call sites are read from JSON files. A snapshot that is broken in parts
still loads: of its recorded interfaces only arrays count, and of these only the texts. All other
deviations from the expected shape are reported together.
-/

namespace CallAttribution

inductive InputError where
  | unreadable (path : Path) (error : FileError)
  | notJson (path : Path)
  | notObject (path : Path)
  | badSnapshot (path : Path) (report : Schema.Report)
  | badBatch (path : Path) (report : Schema.Report)
  /-- The path itself is malformed. -/
  | badPath
  deriving DecidableEq

/-- The message for a wrong input. Behind a file that is not JSON the reason that a reader of JSON
gives, after a colon, is left out. -/
def InputError.message : InputError → String
  | unreadable p e => "Failed to read " ++ p.toString ++ ": " ++ e.message
  | notJson p => "Invalid JSON in " ++ p.toString
  | notObject p => "Expected a JSON object in " ++ p.toString
  | badSnapshot p r => "Invalid discovery snapshot in " ++ p.toString ++ ": " ++ r.message
  | badBatch p r => "Invalid call batch in " ++ p.toString ++ ": " ++ r.message
  | badPath => FileError.embeddedNull.message

namespace Input

def readJson (t : FileTree) (p : Path) : Except InputError Value :=
  match t.read p with
  | .error .embeddedNull => .error .badPath
  | .error e => .error (.unreadable p e)
  | .ok b =>
    match Json.read? b with
    | none => .error (.notJson p)
    | some v => .ok v

def snapshotOf (p : Path) : Value → Except InputError Snapshot
  | .obj ms =>
    ((Snapshot.fields (Snapshot.relevant ms)).toExcept "DiscoveryOutput").mapError
      (.badSnapshot p)
  | _ => .error (.notObject p)

def readSnapshot (t : FileTree) (p : Path) : Except InputError Snapshot := do
  snapshotOf p (← readJson t p)

def readBatch (t : FileTree) (p : Path) : Except InputError CallBatch := do
  ((CallBatch.shape (← readJson t p)).toExcept "CallBatch").mapError (.badBatch p)

end Input

end CallAttribution
