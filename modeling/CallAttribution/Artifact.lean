import CallAttribution.Batch
import CallAttribution.FileTree

/-!
# Artifacts

The outcome of a batch is written as two files: the records, one JSON document a line, and the
summary, an indented JSON document. These names and the version of the documents are what other
programs rely on. A document with a whole number beyond 64 bits cannot be written, and the records
are written one after the other, so such a number in a record leaves the records before it behind.
-/

namespace CallAttribution

inductive WriteError where
  | file (error : FileError)
  /-- A whole number is beyond 64 bits and would be read back as another kind of number. -/
  | oversized
  deriving DecidableEq

def WriteError.message : WriteError → String
  | file e => e.message
  | oversized => "Integer exceeds 64-bit range"

namespace Artifact

def recordsFile : String := "resolutions.jsonl"

def summaryFile : String := "resolution_summary.json"

/-- The line of a record, unless a number in it does not fit. -/
def encodeRecord? (r : Record) : Option Bytes :=
  if r.toJson.fits then some (Text.encode (String.ofList r.toJson.compact) ++ [0x0a]) else none

/-- The summary, unless a count does not fit. -/
def encodeSummary? (s : Summary) : Option Bytes :=
  if s.toJson.fits then some (Text.encode (String.ofList (s.toJson.indented 0))) else none

/-- Append records to the file at a place, up to the first one that has no line. -/
def appendRecords (l : Location) : FileTree → List Record → Except WriteError Unit × FileTree
  | t, [] => (.ok (), t)
  | t, r :: rs =>
    match encodeRecord? r with
    | none => (.error .oversized, t)
    | some b => appendRecords l (t.append l b) rs

/-- Write records over the former content of a file. -/
def writeRecords (t : FileTree) (p : Path) (rs : List Record) : Except WriteError Unit × FileTree :=
  match t.openFile p with
  | .error e => (.error (.file e), t)
  | .ok (l, t) => appendRecords l t rs

/-- Write both files into a directory, which is made if it is missing. What has been written stays
even if a later step fails. -/
def write (t : FileTree) (dir : Path) (o : Outcome) : Except WriteError (List Path) × FileTree :=
  match t.makeDirectories dir with
  | (.error e, t) => (.error (.file e), t)
  | (.ok (), t) =>
    match writeRecords t (dir.child recordsFile) o.records with
    | (.error e, t) => (.error e, t)
    | (.ok (), t) =>
      match encodeSummary? o.summary with
      | none => (.error .oversized, t)
      | some b =>
        match t.write (dir.child summaryFile) b with
        | .error e => (.error (.file e), t)
        | .ok t => (.ok [dir.child recordsFile, dir.child summaryFile], t)

end Artifact

end CallAttribution
