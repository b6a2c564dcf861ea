import CallAttribution.Heuristic

/-!
# Interface names

By convention the interface of a contract `TroveManager` is called `ITroveManager`. Contracts whose
name is that of the call's interface without the leading capital I, letter case aside, are
candidates.
-/

namespace CallAttribution.Heuristic

/-- The contract name that an interface name promises. -/
def promisedName? (interfaceType : String) : Option String :=
  match interfaceType.toList with
  | 'I' :: c :: cs => some (String.ofList (c :: cs))
  | _ => none

/-- The contracts whose name is the given one, letter case aside. -/
def namedContracts (s : Snapshot) (name : String) : List Candidate :=
  (s.contracts.filter fun e => Text.lower (e.name.getD "") == Text.lower name).map
    (·.toCandidate)

def namedCandidates (c : Context) : List Candidate :=
  match promisedName? c.call.interfaceType with
  | none => []
  | some name => namedContracts c.snapshot name

/-- The fewer contracts share the name, the more it says. -/
def namingSteps : List (Nat × Nat) := [(1, 90), (2, 60)]

def namingConfidence (count : Nat) : Nat :=
  stepConfidence namingSteps 40 count

theorem namingConfidence_le (count : Nat) : namingConfidence count ≤ maxConfidence := by
  simp only [namingConfidence, stepConfidence, namingSteps, maxConfidence, List.find?_cons]
  split
  · decide
  · split
    · decide
    · simp

def interfaceName : Heuristic where
  name := "interface-name"
  description := "Match interface name to contract name (strip I prefix)"
  apply c :=
    let found := namedCandidates c
    if h : found = [] then none
    else some ⟨found, namingConfidence found.length, h, namingConfidence_le _⟩

end CallAttribution.Heuristic
