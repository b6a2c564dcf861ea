import CallAttribution.Heuristic.Builtin
import CallAttribution.Json.Basic

/-!
# Records of resolution

A decision names the heuristic that won a call site, its candidates in order and its confidence. A
record keeps a call site with its decision, if there is one, and a summary counts the records. The
documents that are written hold the fields in alphabetical order.
-/

namespace CallAttribution

open Schema

/-- The version of the documents that are written. -/
def schemaVersion : Int := 1

namespace Candidate

def shape : Value → Checked Candidate :=
  record "ResolutionCandidate" fun ms =>
    mk <$> required "address" text ms <*> defaulted "contract_name" none (nullable text) ms

def toJson (c : Candidate) : Json :=
  .obj [("address", .str c.address),
    ("contract_name", match c.name with | some n => .str n | none => .null)]

end Candidate

/-- The outcome for a call site that was resolved. -/
structure Decision where
  heuristic : String
  candidates : List Candidate
  confidence : Int
  deriving DecidableEq

namespace Decision

def confidenceShape (v : Value) : Checked Int :=
  atLeast 0 (atMost maxConfidence (integer v))

def shape : Value → Checked Decision :=
  record "ResolutionDecision" fun ms =>
    mk <$> required "heuristic_name" text ms
      <*> required "matches" (tuple Candidate.shape) ms
      <*> required "confidence" confidenceShape ms

def toJson (d : Decision) : Json :=
  .obj [("confidence", .int d.confidence), ("heuristic_name", .str d.heuristic),
    ("matches", .arr (d.candidates.map Candidate.toJson))]

end Decision

/-- A call site and what was decided about it. -/
structure Record where
  version : Int
  caller : String
  call : CallSite
  resolved : Bool
  decision : Option Decision
  deriving DecidableEq

namespace Record

def ofDecision (caller : String) (call : CallSite) (decision : Option Decision) : Record :=
  ⟨schemaVersion, caller, call, decision.isSome, decision⟩

def shape : Value → Checked Record :=
  record "ResolutionRecord" fun ms =>
    mk <$> defaulted "schema_version" schemaVersion integer ms
      <*> required "caller_address" text ms
      <*> required "call" CallSite.shape ms
      <*> required "resolved" truth ms
      <*> defaulted "decision" none (nullable Decision.shape) ms

def toJson (r : Record) : Json :=
  .obj [("call", r.call.toJson), ("caller_address", .str r.caller),
    ("decision", match r.decision with | some d => d.toJson | none => .null),
    ("resolved", .bool r.resolved), ("schema_version", .int r.version)]

end Record

structure Summary where
  version : Int
  total : Int
  resolved : Int
  unresolved : Int
  byHeuristic : Table Int
  cancelled : Bool
  deriving DecidableEq

namespace Summary

def shape : Value → Checked Summary :=
  record "ResolutionSummary" fun ms =>
    mk <$> defaulted "schema_version" schemaVersion integer ms
      <*> required "total" integer ms
      <*> required "resolved" integer ms
      <*> required "unresolved" integer ms
      <*> defaulted "by_heuristic" [] (table integer) ms
      <*> defaulted "cancelled" false truth ms

def toJson (s : Summary) : Json :=
  .obj [("by_heuristic", .obj (s.byHeuristic.map fun e => (e.1, .int e.2))),
    ("cancelled", .bool s.cancelled), ("resolved", .int s.resolved),
    ("schema_version", .int s.version), ("total", .int s.total),
    ("unresolved", .int s.unresolved)]

def sumCounts (t : Table Int) : Int :=
  t.foldr (fun e n => e.2 + n) 0

/-- The sum of the counts of the single heuristics. -/
def attributed (s : Summary) : Int :=
  sumCounts s.byHeuristic

/-- Count one more under this name; the names stay in increasing order. -/
def count (name : String) : Table Int → Table Int
  | [] => [(name, 1)]
  | (k, n) :: t =>
    if name < k then (name, 1) :: (k, n) :: t
    else if k = name then (k, n + 1) :: t
    else (k, n) :: count name t

/-- How many of the records each heuristic has won, in increasing order of the names. -/
def tally (records : List Record) : Table Int :=
  (records.filterMap (·.decision)).foldr (fun d t => count d.heuristic t) []

def ofRecords (records : List Record) (cancelled : Bool) : Summary :=
  let byHeuristic := tally records
  let resolved := sumCounts byHeuristic
  { version := schemaVersion
    total := records.length
    resolved := resolved
    unresolved := records.length - resolved
    byHeuristic := byHeuristic
    cancelled := cancelled }

end Summary

end CallAttribution
