import CallAttribution.Assignment
import CallAttribution.CallSite
import CallAttribution.Snapshot

/-!
# Heuristics

A heuristic guesses which contract a call targets. Its finding is a nonempty list of candidates
with a confidence between 0 and 100; when it has no evidence it finds nothing. The confidence of a
finding usually hangs on the number of candidates alone, by a table of steps.
-/

namespace CallAttribution

structure Candidate where
  address : String
  name : Option String
  deriving DecidableEq

/-- How many characters of an address stand for a candidate without a name. -/
def Candidate.labelLength : Nat := 14

/-- The name of a candidate, or the beginning of its address when it has none. -/
def Candidate.label (c : Candidate) : String :=
  match c.name with
  | some n => if n = "" then String.ofList (c.address.toList.take labelLength) else n
  | none => String.ofList (c.address.toList.take labelLength)

def Entry.toCandidate (e : Entry) : Candidate :=
  ⟨e.address, e.name⟩

def maxConfidence : Nat := 100

structure Finding where
  candidates : List Candidate
  confidence : Nat
  nonempty : candidates ≠ []
  confidence_le : confidence ≤ maxConfidence
  deriving DecidableEq

inductive FindingError where
  | noCandidate
  | confidenceOutOfRange (confidence : Int)

def FindingError.message : FindingError → String
  | noCandidate => "HeuristicResult requires at least one match"
  | confidenceOutOfRange c =>
    "confidence must be within [0, " ++ Text.showNat maxConfidence ++ "], got " ++ Text.showInt c

def Finding.make (candidates : List Candidate) (confidence : Int) : Except FindingError Finding :=
  if h : candidates = [] then .error .noCandidate
  else match confidence with
    | .ofNat c =>
      if hc : c ≤ maxConfidence then .ok ⟨candidates, c, h, hc⟩
      else .error (.confidenceOutOfRange confidence)
    | .negSucc _ => .error (.confidenceOutOfRange confidence)

/-- The confidence that a table of steps gives to a number of candidates; a number beyond the
table has the confidence of a crowd. -/
def stepConfidence {κ ν : Type} [BEq κ] (steps : List (κ × ν)) (crowd : ν) (count : κ) : ν :=
  ((steps.find? fun s => s.1 == count).map Prod.snd).getD crowd

/-- What a heuristic may look at: a call site, who calls, the snapshot and the caller's
assignments. -/
structure Context where
  call : CallSite
  caller : String
  snapshot : Snapshot
  assignments : Assignments

structure Heuristic where
  name : String
  description : String
  apply : Context → Option Finding

end CallAttribution
