import CallAttribution.Artifact

/-!
# Published names

Programs that consume artifacts refer to the version, the file names and the documents by fixed
names. Each stands for a number, a text or a definition of its own name; any other name is unknown.
-/

namespace CallAttribution

/-- What a published name stands for. -/
inductive Published where
  | number (i : Int)
  | text (s : String)
  | definition (name : String)

structure UnknownName where
  name : String

def UnknownName.message (e : UnknownName) : String :=
  "module 'contract' has no attribute " ++ Text.quote e.name

namespace Published

def definitions : List String :=
  ["ArtifactSpec", "ResolutionCandidate", "ResolutionDecision", "ResolutionRecord",
   "ResolutionSummary", "ValidationMessage", "ValidationResult", "validate_artifacts"]

def find (name : String) : Except UnknownName Published :=
  if name = "ARTIFACT_SCHEMA_VERSION" then .ok (.number schemaVersion)
  else if name = "RESOLUTIONS_JSONL" then .ok (.text Artifact.recordsFile)
  else if name = "RESOLUTION_SUMMARY_JSON" then .ok (.text Artifact.summaryFile)
  else if definitions.contains name then .ok (.definition name)
  else .error ⟨name⟩

end Published

end CallAttribution
