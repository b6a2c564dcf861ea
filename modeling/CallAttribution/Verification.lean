import CallAttribution.Generation

/-!
# Verification of artifacts

Artifacts can be reproduced: resolving the same inputs again has to give the same files, byte for
byte. Verification makes a scratch directory, lets a run write there, tells how a directory deviates
from what the run has written, and removes the scratch directory again. While the two directories
are compared the scratch directory is there, so it is seen if it lies in the other one.
-/

namespace CallAttribution

/-- How a directory deviates from the artifacts of a run. The names of the lists are seen from the
artifacts that stand in the directory: `missing` files are not reproduced, `extra` files are
reproduced but not there, and `mismatches` differ. -/
structure Deviation where
  mismatches : List String
  missing : List String
  extra : List String

def Deviation.ok (d : Deviation) : Bool :=
  d.mismatches.isEmpty && d.missing.isEmpty && d.extra.isEmpty

inductive VerificationError where
  | directoryMissing (dir : Path)
  | notDirectory (dir : Path)
  | file (error : FileError)
  | failure (failure : Failure)
  deriving DecidableEq

def VerificationError.message : VerificationError → String
  | directoryMissing p => "Artifacts directory does not exist: " ++ p.toString
  | notDirectory p => "Artifacts path is not a directory: " ++ p.toString
  | file e => e.message
  | failure f => f.message

namespace Verification

/-- Files with their contents, by the path that leads to them. -/
abbrev Files := List (List String × Bytes)

def content? (files : Files) (name : List String) : Option Bytes :=
  files.lookup name

/-- The paths of files as they are shown, in increasing order. -/
def showSorted (names : List (List String)) : List String :=
  (names.map Path.showParts).mergeSort fun a b => a ≤ b

def select (files : Files) (p : List String → Bytes → Bool) : List String :=
  showSorted ((files.filter fun f => p f.1 f.2).map Prod.fst)

/-- How the files that are there deviate from those that a run writes. -/
def compare (present reproduced : Files) : Deviation where
  mismatches := select present fun n b =>
    match content? reproduced n with
    | some c => b != c
    | none => false
  missing := select present fun n _ => (content? reproduced n).isNone
  extra := select reproduced fun n _ => (content? present n).isNone

/-- Let a run write into a directory that is there for it, and compare with what it has written. -/
def reproduce (r : Request) (dir : Path) (scratch : Location) (t : FileTree) :
    Except VerificationError Deviation × FileTree :=
  match generate { r with outputDir := some (.ofLocation scratch) } none t with
  | (.error e, t) => (.error (.failure e), t)
  | (.ok _, t) =>
    match t.locate dir with
    | .error e => (.error (.file e), t)
    | .ok l => (.ok (compare (t.filesUnder l) (t.filesUnder scratch)), t)

/-- Verify a directory against a run, which gets a directory of its own at the scratch place for as
long as it takes. Where the run itself would write does not matter. -/
def ofDirectory (r : Request) (dir : Path) (scratch : Location) (t : FileTree) :
    Except VerificationError Deviation × FileTree :=
  match t.stat? dir with
  | .error e => (.error (.file e), t)
  | .ok none => (.error (.directoryMissing dir), t)
  | .ok (some (.file _)) => (.error (.notDirectory dir), t)
  | .ok (some .directory) =>
    match t.makeDirectory (.ofLocation scratch) with
    | .error e => (.error (.file e), t)
    | .ok t =>
      let (answer, t) := reproduce r dir scratch t
      (answer, t.erase scratch)

end Verification

end CallAttribution
