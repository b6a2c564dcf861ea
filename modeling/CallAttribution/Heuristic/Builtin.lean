import CallAttribution.Heuristic.Chain
import CallAttribution.Heuristic.Exposure
import CallAttribution.Heuristic.Naming

/-!
# The heuristics that can be chosen by name

Three heuristics are known by name. The usual order puts the most certain evidence first, because
among equally confident findings the one of the earlier heuristic counts.
-/

namespace CallAttribution

/-- A heuristic that a configuration can name. -/
inductive Builtin where
  | variableChain
  | interfaceName
  | functionSignature
  deriving DecidableEq

namespace Builtin

/-- The heuristic itself; only chains look at how addresses begin. -/
def toHeuristic (addressPrefix : String) : Builtin → Heuristic
  | variableChain => Heuristic.variableChain addressPrefix
  | interfaceName => Heuristic.interfaceName
  | functionSignature => Heuristic.functionSignature

def name : Builtin → String
  | variableChain => "variable-chain"
  | interfaceName => "interface-name"
  | functionSignature => "function-signature"

theorem name_toHeuristic (addressPrefix : String) (b : Builtin) :
    (b.toHeuristic addressPrefix).name = b.name := by
  cases b <;> rfl

def defaultOrder : List Builtin :=
  [variableChain, interfaceName, functionSignature]

def ofName? (n : String) : Option Builtin :=
  defaultOrder.find? fun b => b.name == n

theorem ofName?_name (b : Builtin) : ofName? b.name = some b := by
  cases b <;> rfl

theorem name_injective {a b : Builtin} (h : a.name = b.name) : a = b := by
  have := congrArg ofName? h
  simpa [ofName?_name] using this

/-- The known names in alphabetical order, as messages list them. -/
def knownNames : String :=
  "function-signature, interface-name, variable-chain"

end Builtin

structure UnknownHeuristic where
  name : String

def UnknownHeuristic.message (e : UnknownHeuristic) : String :=
  "Unknown heuristic '" ++ e.name ++ "'. Valid heuristics: " ++ Builtin.knownNames

def Builtin.ofNames (names : List String) : Except UnknownHeuristic (List Builtin) :=
  names.mapM fun n =>
    match ofName? n with
    | some b => .ok b
    | none => .error ⟨n⟩

end CallAttribution
