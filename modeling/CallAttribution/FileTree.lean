import CallAttribution.Path
import CallAttribution.Text.Basic

/-!
# File trees

A tree of directories and files is a list of different places with what stands there; the root is
always a directory. Paths are looked up name by name, so every directory on the way has to exist,
two points included. Failures are the ones that an operating system reports; its limit on the bytes
of a whole path is left out. Writing touches one place only: `node?_set` is the frame rule.
-/

namespace CallAttribution

inductive Node where
  | file (content : Bytes)
  | directory
  deriving DecidableEq

inductive Fault where
  | notFound
  | alreadyExists
  | notDirectory
  | isDirectory
  | nameTooLong
  deriving DecidableEq

/-- The number that an operating system gives to a fault. -/
def Fault.number : Fault → Nat
  | notFound => 2
  | alreadyExists => 17
  | notDirectory => 20
  | isDirectory => 21
  | nameTooLong => 36

def Fault.description : Fault → String
  | notFound => "No such file or directory"
  | alreadyExists => "File exists"
  | notDirectory => "Not a directory"
  | isDirectory => "Is a directory"
  | nameTooLong => "File name too long"

/-- Why an operation on a file failed: a fault reported for a path, or a path that cannot even be
asked about. -/
inductive FileError where
  | fault (f : Fault) (path : Path)
  | embeddedNull
  deriving DecidableEq

def FileError.message : FileError → String
  | fault f p =>
    "[Errno " ++ Text.showNat f.number ++ "] " ++ f.description ++ ": " ++ Text.quote p.toString
  | embeddedNull => "embedded null byte"

/-- The places other than the root, each with what stands there. -/
structure FileTree where
  nodes : List (Location × Node)
  distinct : (nodes.map Prod.fst).Nodup

namespace FileTree

def empty : FileTree :=
  ⟨[], by simp⟩

def lookup (l : Location) : List (Location × Node) → Option Node
  | [] => none
  | (k, n) :: ns => if k = l then some n else lookup l ns

def node? (t : FileTree) (l : Location) : Option Node :=
  if l = [] then some .directory else lookup l t.nodes

def put (l : Location) (n : Node) : List (Location × Node) → List (Location × Node)
  | [] => [(l, n)]
  | (k, m) :: ns => if k = l then (k, n) :: ns else (k, m) :: put l n ns

theorem mem_map_fst_put {l k : Location} {n : Node} {ns : List (Location × Node)} :
    k ∈ (put l n ns).map Prod.fst ↔ k = l ∨ k ∈ ns.map Prod.fst := by
  induction ns with
  | nil => simp [put]
  | cons e ns ih =>
    obtain ⟨m, x⟩ := e
    by_cases h : m = l
    · subst h; simp [put]
    · rw [put, if_neg h, List.map_cons, List.map_cons, List.mem_cons, List.mem_cons, ih]
      grind

theorem nodup_map_fst_put (l : Location) (n : Node) {ns : List (Location × Node)}
    (h : (ns.map Prod.fst).Nodup) : ((put l n ns).map Prod.fst).Nodup := by
  induction ns with
  | nil => simp [put]
  | cons e ns ih =>
    obtain ⟨m, x⟩ := e
    rw [List.map_cons, List.nodup_cons] at h
    by_cases hm : m = l
    · subst hm; rw [put, if_pos rfl]; exact List.nodup_cons.mpr h
    · rw [put, if_neg hm, List.map_cons, List.nodup_cons, mem_map_fst_put]
      exact ⟨fun hk => hk.elim hm h.1, ih h.2⟩

def set (t : FileTree) (l : Location) (n : Node) : FileTree :=
  ⟨put l n t.nodes, nodup_map_fst_put l n t.distinct⟩

/-- Remove a place and everything below it. -/
def erase (t : FileTree) (l : Location) : FileTree :=
  ⟨t.nodes.filter fun e => !l.isPrefixOf e.1, t.distinct.sublist (List.filter_sublist.map _)⟩

theorem lookup_put (l k : Location) (n : Node) (ns : List (Location × Node)) :
    lookup k (put l n ns) = if l = k then some n else lookup k ns := by
  induction ns with
  | nil => simp [put, lookup]
  | cons e ns ih =>
    obtain ⟨m, x⟩ := e
    by_cases hm : m = l
    · subst hm; by_cases hk : m = k <;> simp [put, lookup, hk]
    · by_cases hk : m = k
      · subst hk; simp [put, lookup, hm, Ne.symm hm]
      · simp [put, lookup, hm, hk, ih]

theorem node?_set (t : FileTree) (l k : Location) (n : Node) (hl : l ≠ []) :
    (t.set l n).node? k = if l = k then some n else t.node? k := by
  by_cases hk : k = []
  · subst hk; simp [node?, hl]
  · simp [node?, set, hk, lookup_put]

/-- The longest name that a directory holds, in bytes. -/
def maxName : Nat := 255

/-- Follow names from a place. Each step has to start from a directory. -/
def enter (t : FileTree) (l : Location) : List String → Except Fault Location
  | [] => .ok l
  | part :: parts =>
    match t.node? l with
    | none => .error .notFound
    | some (.file _) => .error .notDirectory
    | some .directory =>
      if part ≠ ".." ∧ maxName < part.utf8ByteSize then .error .nameTooLong
      else t.enter (Path.follow l part) parts

/-- The place of an absolute path. Only the directories on the way need to exist. -/
def locate (t : FileTree) (p : Path) : Except FileError Location :=
  if p.isMalformed then .error .embeddedNull
  else (t.enter [] p.parts).mapError (.fault · p)

def stat (t : FileTree) (p : Path) : Except FileError Node := do
  match t.node? (← t.locate p) with
  | some n => .ok n
  | none => .error (.fault .notFound p)

/-- What stands at a path, if anything does. A path that leads nowhere is no error. -/
def stat? (t : FileTree) (p : Path) : Except FileError (Option Node) :=
  match t.stat p with
  | .ok n => .ok (some n)
  | .error (.fault .notFound _) | .error (.fault .notDirectory _) | .error .embeddedNull =>
    .ok none
  | .error e => .error e

def isFile? (t : FileTree) (p : Path) : Except FileError Bool := do
  match ← t.stat? p with
  | some (.file _) => return true
  | _ => return false

def isDirectory? (t : FileTree) (p : Path) : Except FileError Bool := do
  match ← t.stat? p with
  | some .directory => return true
  | _ => return false

def read (t : FileTree) (p : Path) : Except FileError Bytes := do
  match ← t.stat p with
  | .file b => .ok b
  | .directory => .error (.fault .isDirectory p)

/-- Write a file, over its former content; its directory has to exist. -/
def write (t : FileTree) (p : Path) (b : Bytes) : Except FileError FileTree := do
  let l ← t.locate p
  match t.node? l with
  | some .directory => .error (.fault .isDirectory p)
  | _ => .ok (t.set l (.file b))

/-- Open a file to be written from the start: it loses its former content, or is made. What is
opened is the place, however the path is spelled. -/
def openFile (t : FileTree) (p : Path) : Except FileError (Location × FileTree) := do
  return (← t.locate p, ← t.write p [])

/-- Write more at the end of a file that is open. -/
def append (t : FileTree) (l : Location) (b : Bytes) : FileTree :=
  match t.node? l with
  | some (.file c) => t.set l (.file (c ++ b))
  | _ => t

/-- Make a directory where nothing stands yet. -/
def makeDirectory (t : FileTree) (p : Path) : Except FileError FileTree := do
  let l ← t.locate p
  match t.node? l with
  | some _ => .error (.fault .alreadyExists p)
  | none => .ok (t.set l .directory)

/-- A failure to make a directory does not matter if the directory is there. A missing directory
on the way always does. -/
def excuse (t : FileTree) (p : Path) : FileError → Except FileError Unit
  | .fault .notFound q => .error (.fault .notFound q)
  | e => do if ← t.isDirectory? p then .ok () else .error e

/-- Make a directory inside an existing one unless it is there already. -/
def makeOne (t : FileTree) (p : Path) : Except FileError Unit × FileTree :=
  match t.makeDirectory p with
  | .ok t => (.ok (), t)
  | .error e => (t.excuse p e, t)

/-- Make a directory together with the directories above it that are missing, at most `depth` of
them. What has been made stays even if a later step fails. -/
def makeWithin : Nat → FileTree → Path → Except FileError Unit × FileTree
  | 0, t, p => t.makeOne p
  | depth + 1, t, p =>
    match t.makeDirectory p with
    | .error (.fault .notFound _) =>
      match makeWithin depth t p.parent with
      | (.error e, t) => (.error e, t)
      | (.ok (), t) => t.makeOne p
    | _ => t.makeOne p

def makeDirectories (t : FileTree) (p : Path) : Except FileError Unit × FileTree :=
  makeWithin p.parts.length t p

/-- The files below a place, seen from it, each with its content. -/
def filesUnder (t : FileTree) (l : Location) : List (List String × Bytes) :=
  t.nodes.filterMap fun e =>
    match e.2 with
    | .directory => none
    | .file b => if l.isPrefixOf e.1 && l != e.1 then some (e.1.drop l.length, b) else none

end FileTree

end CallAttribution
