import CallAttribution.Heuristic

/-!
# Following assignments

A local variable that caches a state variable is traced back through the assignments of the
calling contract. When the variable at the end of the chain is another one, and discovery recorded
for it a text that begins like an address, that text is the target. The target's name is taken
from the first entry with this address, whatever its kind.
-/

namespace CallAttribution.Heuristic

def maxHops : Nat := 10

def defaultAddressPrefix : String := "eth:"

/-- The variable at the end of the chain that begins at the call's variable. -/
def root (c : Context) : String :=
  c.assignments.follow maxHops c.call.storageVariable

/-- The address recorded in the caller's state for the end of the chain. -/
def recordedTarget? (addressPrefix : String) (c : Context) : Option String :=
  if root c = c.call.storageVariable then none
  else
    ((c.snapshot.findContract? c.caller).bind (·.textValue? (root c))).filter
      fun v => addressPrefix.toList.isPrefixOf v.toList

def chainCandidate (c : Context) (address : String) : Candidate :=
  ⟨address, (c.snapshot.find? address).bind (·.name)⟩

/-- Evidence from assignments is taken for certain. -/
def variableChain (addressPrefix : String) : Heuristic where
  name := "variable-chain"
  description := "Follow variable assignment chain to state variable"
  apply c := (recordedTarget? addressPrefix c).map fun v =>
    ⟨[chainCandidate c v], 100, by simp, by decide⟩

end CallAttribution.Heuristic
