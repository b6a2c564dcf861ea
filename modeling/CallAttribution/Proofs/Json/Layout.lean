import CallAttribution.Json.Reader

/-!
# Layouts of JSON documents

The two layouts in which documents are written differ only in the blanks between tokens. A `Layout`
says which blanks stand before the parts of a container and after a colon, and carries the proof
that they are blanks. Both layouts are instances, so whatever is proved of `Layout.print` holds of
the compact and of the indented form.
-/

namespace CallAttribution.Json

/-- The blanks between the tokens of a document. -/
structure Layout where
  /-- Before a part of a container or before its end, which stand on this level. -/
  gap : Nat → List Char
  afterColon : List Char
  gap_blank : ∀ level, ∀ c ∈ gap level, State.isBlank c = true
  afterColon_blank : ∀ c ∈ afterColon, State.isBlank c = true

namespace Layout

def compact : Layout where
  gap _ := []
  afterColon := []
  gap_blank := by simp
  afterColon_blank := by simp

theorem blank_of_mem_newLine (level : Nat) : ∀ c ∈ newLine level, State.isBlank c = true := by
  intro c hc
  rcases List.mem_cons.mp hc with rfl | hc
  · rfl
  · obtain rfl := List.eq_of_mem_replicate hc
    rfl

def indented : Layout where
  gap := newLine
  afterColon := [' ']
  gap_blank := blank_of_mem_newLine
  afterColon_blank := by simp [State.isBlank]

mutual

/-- The document in a layout, its first token standing on a level. -/
def print (l : Layout) (level : Nat) : Json → List Char
  | .null => "null".toList
  | .bool b => truth b
  | .int i => Text.integerNumeral i
  | .str s => string s
  | .arr [] => "[]".toList
  | .arr (j :: js) =>
    '[' :: l.gap (level + 1) ++ l.print (level + 1) j ++ l.printRest (level + 1) js ++
      l.gap level ++ [']']
  | .obj [] => "\x7b\x7d".toList
  | .obj ((k, j) :: ms) =>
    '\x7b' :: l.gap (level + 1) ++ string k ++ ':' :: l.afterColon ++ l.print (level + 1) j ++
      l.printMembers (level + 1) ms ++ l.gap level ++ ['\x7d']

/-- The elements of an array after the first. -/
def printRest (l : Layout) (level : Nat) : List Json → List Char
  | [] => []
  | j :: js => ',' :: l.gap level ++ l.print level j ++ l.printRest level js

/-- The members of an object after the first. -/
def printMembers (l : Layout) (level : Nat) : List (String × Json) → List Char
  | [] => []
  | (k, j) :: ms =>
    ',' :: l.gap level ++ string k ++ ':' :: l.afterColon ++ l.print level j ++
      l.printMembers level ms

end

mutual

theorem print_compact (level : Nat) : ∀ j : Json, compact.print level j = j.compact
  | .null => rfl
  | .bool _ => rfl
  | .int _ => rfl
  | .str _ => rfl
  | .arr [] => rfl
  | .arr (j :: js) => by
    have hj := print_compact (level + 1) j
    have hjs := printRest_compact (level + 1) js
    simp only [print, Json.compact, hj, hjs]
    simp [compact]
  | .obj [] => rfl
  | .obj ((k, j) :: ms) => by
    have hj := print_compact (level + 1) j
    have hms := printMembers_compact (level + 1) ms
    simp only [print, Json.compact, hj, hms]
    simp [compact]

theorem printRest_compact (level : Nat) :
    ∀ js : List Json, compact.printRest level js = compactRest js
  | [] => rfl
  | j :: js => by
    have hj := print_compact level j
    have hjs := printRest_compact level js
    simp only [printRest, compactRest, hj, hjs]
    simp [compact]

theorem printMembers_compact (level : Nat) :
    ∀ ms : List (String × Json), compact.printMembers level ms = compactMembers ms
  | [] => rfl
  | (k, j) :: ms => by
    have hj := print_compact level j
    have hms := printMembers_compact level ms
    simp only [printMembers, compactMembers, hj, hms]
    simp [compact]

end

mutual

theorem print_indented (level : Nat) : ∀ j : Json, indented.print level j = j.indented level
  | .null => rfl
  | .bool _ => rfl
  | .int _ => rfl
  | .str _ => rfl
  | .arr [] => rfl
  | .arr (j :: js) => by
    have hj := print_indented (level + 1) j
    have hjs := printRest_indented (level + 1) js
    simp only [print, Json.indented, hj, hjs]
    rfl
  | .obj [] => rfl
  | .obj ((k, j) :: ms) => by
    have hj := print_indented (level + 1) j
    have hms := printMembers_indented (level + 1) ms
    simp only [print, Json.indented, hj, hms]
    simp [indented]

theorem printRest_indented (level : Nat) :
    ∀ js : List Json, indented.printRest level js = indentedRest level js
  | [] => rfl
  | j :: js => by
    have hj := print_indented level j
    have hjs := printRest_indented level js
    simp only [printRest, indentedRest, hj, hjs]
    rfl

theorem printMembers_indented (level : Nat) :
    ∀ ms : List (String × Json), indented.printMembers level ms = indentedMembers level ms
  | [] => rfl
  | (k, j) :: ms => by
    have hj := print_indented level j
    have hms := printMembers_indented level ms
    simp only [printMembers, indentedMembers, hj, hms]
    simp [indented]

end

end Layout

end CallAttribution.Json
