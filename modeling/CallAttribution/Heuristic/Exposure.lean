import CallAttribution.Heuristic

/-!
# Exposed functions

Contracts whose recorded interface declares a function of the called name are candidates.
-/

namespace CallAttribution.Heuristic

/-- The contracts that expose a function of this name, in order of discovery. -/
def exposingContracts (s : Snapshot) (function : String) : List Candidate :=
  (s.contracts.filter fun e => Signature.exposes (s.interfaceOf e.address) function).map
    (·.toCandidate)

/-- The fewer contracts expose the function, the more it says. -/
def exposureSteps : List (Nat × Nat) := [(1, 99), (2, 50)]

def exposureConfidence (count : Nat) : Nat :=
  stepConfidence exposureSteps 30 count

theorem exposureConfidence_le (count : Nat) : exposureConfidence count ≤ maxConfidence := by
  simp only [exposureConfidence, stepConfidence, exposureSteps, maxConfidence, List.find?_cons]
  split
  · decide
  · split
    · decide
    · simp

def functionSignature : Heuristic where
  name := "function-signature"
  description := "Match called function to contracts with that function in ABI"
  apply c :=
    let found := exposingContracts c.snapshot c.call.calledFunction
    if h : found = [] then none
    else some ⟨found, exposureConfidence found.length, h, exposureConfidence_le _⟩

end CallAttribution.Heuristic
