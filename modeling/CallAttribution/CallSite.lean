import CallAttribution.Schema.Shape
import CallAttribution.Json.Basic

/-!
# Call sites

A call site is a call whose target address does not stand in the source: it names the variable
that the target was read from, the interface that the variable is declared with and the function
that is called. Call sites come in a batch, grouped by the contract that makes the calls; each
calling contract brings the text of its intermediate representation and is listed once.
-/

namespace CallAttribution

open Schema

structure CallSite where
  storageVariable : String
  interfaceType : String
  calledFunction : String
  deriving DecidableEq

namespace CallSite

def shape : Value → Checked CallSite :=
  record "ExternalCall" fun ms =>
    mk <$> requiredAs "storageVariable" "storage_variable" text ms
      <*> requiredAs "interfaceType" "interface_type" text ms
      <*> requiredAs "calledFunction" "called_function" text ms

def toJson (c : CallSite) : Json :=
  .obj [("called_function", .str c.calledFunction), ("interface_type", .str c.interfaceType),
    ("storage_variable", .str c.storageVariable)]

end CallSite

/-- A calling contract with its intermediate representation and its call sites. -/
structure Caller where
  address : String
  representation : String
  calls : List CallSite
  deriving DecidableEq

namespace Caller

def shape : Value → Checked Caller :=
  record "CallerBatch" fun ms =>
    mk <$> required "address" text ms
      <*> defaulted "ir" "" text ms
      <*> defaulted "calls" [] (tuple CallSite.shape) ms

end Caller

/-- The first element that occurs again, seen at its second occurrence; `seen` holds the elements
before the list. -/
def firstRepeated? (seen : List String) : List String → Option String
  | [] => none
  | x :: xs => if seen.contains x then some x else firstRepeated? (x :: seen) xs

structure CallBatch where
  callers : List Caller
  deriving DecidableEq

namespace CallBatch

/-- No calling contract is listed twice. Addresses are compared exactly. -/
def unrepeated (callers : List Caller) : Checked (List Caller) :=
  match firstRepeated? [] (callers.map (·.address)) with
  | some a => .refuse (.rule ("Caller '" ++ a ++ "' is listed more than once"))
  | none => .accepted callers

def callersShape (v : Value) : Checked (List Caller) :=
  (tuple Caller.shape v).andThen unrepeated

def shape : Value → Checked CallBatch :=
  record "CallBatch" fun ms => mk <$> defaulted "callers" [] callersShape ms

def callCount (b : CallBatch) : Nat :=
  b.callers.foldr (fun c n => c.calls.length + n) 0

end CallBatch

end CallAttribution
