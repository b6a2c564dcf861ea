import CallAttribution.Text.Basic
import CallAttribution.Text.Quoted

/-!
# Paths

A path is a text of names separated by slashes. Empty names and single points say nothing and are
dropped at once, while two points are kept until the path is resolved. Resolving is lexical: with
no symbolic links about, two points take back the name before them and stop at the root. What
comes out, a `Location`, is the list of names that leads from the root to the place.
-/

namespace CallAttribution

/-- How a path begins. Exactly two slashes are kept apart from one, all larger numbers are not. -/
inductive Anchor where
  | relative
  | root
  | doubleRoot
  deriving DecidableEq

/-- A path as it was written, without what says nothing. -/
structure Path where
  anchor : Anchor
  parts : List String
  deriving DecidableEq

/-- The names that lead from the root to a place. -/
abbrev Location := List String

namespace Path

def anchorOf : List Char → Anchor
  | '/' :: '/' :: '/' :: _ => .root
  | '/' :: '/' :: _ => .doubleRoot
  | '/' :: _ => .root
  | _ => .relative

/-- The names between the slashes of a path text, those that say nothing dropped. -/
def partsOf (cs : List Char) : List String :=
  ((Text.pieces '/' cs).filter fun p => p ≠ [] && p ≠ ['.']).map String.ofList

def ofString (s : String) : Path :=
  ⟨anchorOf s.toList, partsOf s.toList⟩

def ofLocation (l : Location) : Path :=
  ⟨.root, l⟩

def showParts (parts : List String) : String :=
  "/".intercalate parts

protected def toString (p : Path) : String :=
  match p.anchor with
  | .relative => if p.parts.isEmpty then "." else showParts p.parts
  | .root => "/" ++ showParts p.parts
  | .doubleRoot => "//" ++ showParts p.parts

def isAbsolute (p : Path) : Bool :=
  p.anchor != .relative

/-- A path seen from another one. An absolute path is the same from everywhere. -/
def append (p q : Path) : Path :=
  if q.isAbsolute then q else ⟨p.anchor, p.parts ++ q.parts⟩

def child (p : Path) (s : String) : Path :=
  p.append (ofString s)

def name (p : Path) : String :=
  p.parts.getLast?.getD ""

def parent (p : Path) : Path :=
  { p with parts := p.parts.dropLast }

/-- One more step from a place: two points lead back, and the root leads back to itself. -/
def follow (l : Location) (part : String) : Location :=
  if part = ".." then l.dropLast else l ++ [part]

/-- The place that names lead to from another place. -/
def walk (start : Location) (parts : List String) : Location :=
  parts.foldl follow start

def hasNull (s : String) : Bool :=
  s.toList.contains '\x00'

/-- Some name holds the character U+0000, which no file system admits. -/
def isMalformed (p : Path) : Bool :=
  p.parts.any hasNull

/-- The place of a path seen from a working directory; absent for a malformed path. -/
def resolve? (cwd : Location) (p : Path) : Option Location :=
  if p.isMalformed then none
  else some (walk (if p.isAbsolute then [] else cwd) p.parts)

def contains (outer inner : Location) : Bool :=
  outer.isPrefixOf inner

theorem walk_append (start : Location) (ps qs : List String) :
    walk start (ps ++ qs) = walk (walk start ps) qs := by
  simp [walk]

end Path

end CallAttribution
