import CallAttribution.Schema.Shape
import CallAttribution.Text.Letter

/-!
# Snapshots of discovered contracts

A snapshot lists what a discovery run found, in its order, and the interface recorded for each
address. Only an entry whose kind is exactly `Contract` takes part in resolution. Addresses are
compared without regard to letter case, except that an interface recorded under the very spelling
that is asked for comes first.
-/

namespace CallAttribution

open Schema

/-- An address that discovery found, with what is known about it. -/
structure Entry where
  address : String
  name : Option String
  kind : Option String
  values : Option (Table Value)

namespace Entry

/-- The kind of the entries that take part in resolution. -/
def contractKind : String := "Contract"

def isContract (e : Entry) : Bool :=
  e.kind == some contractKind

/-- The recorded state value of this name, if it is a text. -/
def textValue? (e : Entry) (name : String) : Option String :=
  ((e.values.getD []).get? name).bind Value.str?

def shape : Value → Checked Entry :=
  record "DiscoveredEntry" fun ms =>
    mk <$> required "address" text ms
      <*> defaulted "name" none (nullable text) ms
      <*> defaulted "type" none (nullable text) ms
      <*> defaulted "values" none (nullable (table .accepted)) ms

end Entry

/-- The entries in order of discovery and the function signatures by address. -/
structure Snapshot where
  entries : List Entry
  interfaces : Table (List String)

namespace Snapshot

def sameAddress (a b : String) : Bool :=
  Text.lower a == Text.lower b

def contracts (s : Snapshot) : List Entry :=
  s.entries.filter (·.isContract)

def find? (s : Snapshot) (address : String) : Option Entry :=
  s.entries.find? fun e => sameAddress e.address address

def findContract? (s : Snapshot) (address : String) : Option Entry :=
  s.contracts.find? fun e => sameAddress e.address address

/-- The signatures recorded for an address: under this very spelling, else under the first
spelling that differs only in letter case, else none. -/
def interfaceOf (s : Snapshot) (address : String) : List String :=
  match s.interfaces.get? address with
  | some i => i
  | none =>
    match s.interfaces.find? fun e => sameAddress e.1 address with
    | some e => e.2
    | none => []

def fields (ms : Table Value) : Checked Snapshot :=
  mk <$> defaulted "entries" [] (tuple Entry.shape) ms
    <*> defaulted "abis" [] (table (tuple text)) ms

def shape : Value → Checked Snapshot :=
  record "DiscoveryOutput" fields

/-- What remains of a recorded interface: the texts of an array, and nothing of anything else. -/
def cleanInterface? (e : String × Value) : Option (String × Value) :=
  e.2.arr?.map fun items => (e.1, .arr (items.filter fun v => v.str?.isSome))

/-- The same interfaces without the parts that are no signatures. A value that is no table at all
stays as it is. -/
def cleanInterfaces : Value → Value
  | .obj ms => .obj (ms.filterMap cleanInterface?)
  | v => v

/-- The two members of a discovery document that matter, the interfaces cleaned. -/
def relevant (ms : Table Value) : Table Value :=
  (match ms.get? "entries" with
    | some v => [("entries", v)]
    | none => []) ++
  (match ms.get? "abis" with
    | some v => [("abis", cleanInterfaces v)]
    | none => [])

end Snapshot

end CallAttribution
