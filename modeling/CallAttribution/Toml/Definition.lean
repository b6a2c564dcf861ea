import CallAttribution.Value

/-!
# Definitions of TOML tables

A document defines each key once. Tables come into being by headers, by dotted keys or on the way
to a deeper table, and each way decides what may be added later: values written on one line are
closed for good, a table with a header has only one, and a table that dotted keys opened cannot be
opened by a header. An array of tables stands for its last table.
-/

namespace CallAttribution.Toml

/-- The names that lead to a table or a value. -/
abbrev Key := List String

inductive Mark where
  /-- The value was written in one piece; nothing below it can change. -/
  | closed
  /-- The table has been opened and cannot be opened by a header. -/
  | opened
  deriving DecidableEq

structure Document where
  root : Table Value
  marks : List (Key × Mark)
  /-- Tables that dotted keys have opened since the last header. -/
  pending : List Key
  /-- The table that keys are defined in. -/
  header : Key

namespace Document

def empty : Document :=
  ⟨[], [], [], []⟩

def isOpened (d : Document) (k : Key) : Bool :=
  d.marks.contains (k, .opened)

/-- The key or one above it is closed. -/
def isClosed (marks : List (Key × Mark)) (k : Key) : Bool :=
  marks.any fun m => m.2 == .closed && m.1.isPrefixOf k

def mark (d : Document) (k : Key) (m : Mark) : Document :=
  { d with marks := (k, m) :: d.marks }

def unmark (d : Document) (k : Key) : Document :=
  { d with marks := d.marks.filter fun m => !k.isPrefixOf m.1 }

/-- A header ends the section in which dotted keys may go on with what they opened. -/
def settle (d : Document) : Document :=
  { d with marks := d.pending.map (·, .opened) ++ d.marks, pending := [] }

end Document

/-- Change the table at a key, making the tables on the way that are missing. With `throughArrays`
an array of tables stands for its last table. -/
def updateAt (throughArrays : Bool) (f : Table Value → Option (Table Value)) :
    Key → Table Value → Option (Table Value)
  | [], t => f t
  | k :: ks, t =>
    match t.get? k with
    | none => (updateAt throughArrays f ks []).map fun sub => t.insert k (.obj sub)
    | some (.obj sub) =>
      (updateAt throughArrays f ks sub).map fun sub => t.insert k (.obj sub)
    | some (.arr items) =>
      if throughArrays then
        match items.getLast? with
        | some (.obj sub) =>
          (updateAt throughArrays f ks sub).map fun sub =>
            t.insert k (.arr (items.dropLast ++ [.obj sub]))
        | _ => none
      else none
    | some _ => none

def define (k : String) (v : Value) (t : Table Value) : Option (Table Value) :=
  match t.get? k with
  | none => some (t.insert k v)
  | some _ => none

def addTable (k : String) (t : Table Value) : Option (Table Value) :=
  match t.get? k with
  | none => some (t.insert k (.arr [.obj []]))
  | some (.arr items) => some (t.insert k (.arr (items ++ [.obj []])))
  | some _ => none

/-- Values whose parts cannot be changed later. -/
def isCompound : Value → Bool
  | .arr _ | .obj _ => true
  | _ => false

/-- The proper beginnings of a key, the empty one aside. -/
def beginnings (k : Key) : List Key :=
  (List.range (k.length - 1)).map fun i => k.take (i + 1)

namespace Document

def openTable (d : Document) (k : Key) : Option Document := do
  if d.isOpened k || isClosed d.marks k then none
  else
    let root ← updateAt true some k d.root
    return { d.mark k .opened with root := root, header := k }

def openElement (d : Document) (k : Key) : Option Document := do
  if isClosed d.marks k then none
  else
    let root ← updateAt true (addTable (k.getLast?.getD "")) k.dropLast d.root
    return { (d.unmark k).mark k .opened with root := root, header := k }

/-- A key with its value, in the table of the last header. -/
def addValue (d : Document) (k : Key) (v : Value) : Option Document := do
  let parents := (beginnings k).map (d.header ++ ·)
  if parents.any d.isOpened || isClosed d.marks (d.header ++ k.dropLast) then none
  else
    let root ← updateAt true (define (k.getLast?.getD "") v) (d.header ++ k.dropLast) d.root
    let d := { d with root := root, pending := d.pending ++ parents }
    return if isCompound v then d.mark (d.header ++ k) .closed else d

end Document

end CallAttribution.Toml
