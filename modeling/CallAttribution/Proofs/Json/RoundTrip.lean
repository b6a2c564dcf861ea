import CallAttribution.Proofs.Json.Layout
import CallAttribution.Proofs.Json.Token
import CallAttribution.Proofs.Table
import Mathlib.Tactic.FinCases

/-!
# Reading a document back

A document in either layout is read as the value it denotes, provided that it is readable: its
numbers are in range, the keys of each object differ, and it is not nested too deeply. The proof is
an induction over the document in which the text that follows is arbitrary.
-/

namespace CallAttribution.Json

mutual

/-- The reader takes the document for what it was written for when so many containers may still
be opened. -/
def Readable (room : Nat) : Json → Prop
  | .int i => inRange i = true
  | .arr items => 0 < room ∧ ReadableAll (room - 1) items
  | .obj members =>
    0 < room ∧ (members.map Prod.fst).Nodup ∧ ReadableMembers (room - 1) members
  | _ => True

def ReadableAll (room : Nat) : List Json → Prop
  | [] => True
  | j :: js => j.Readable room ∧ ReadableAll room js

def ReadableMembers (room : Nat) : List (String × Json) → Prop
  | [] => True
  | (_, j) :: ms => j.Readable room ∧ ReadableMembers room ms

end

theorem toMembers_keys (ms : List (String × Json)) :
    (toMembers ms).map Prod.fst = ms.map Prod.fst := by
  induction ms with
  | nil => rfl
  | cons m ms ih => rw [toMembers, List.map_cons, List.map_cons, ih]

namespace State

theorem push?_of_lt {fs : List Frame} (h : fs.length < maxDepth) (f : Frame) (mode : Mode) :
    push? fs f mode = some ⟨f :: fs, mode⟩ :=
  if_pos h

theorem readFrom_open {fs : List Frame} (h : fs.length < maxDepth) (cs : List Char) :
    readFrom ⟨fs, .value⟩ ('[' :: cs) = readFrom ⟨.arr [] :: fs, .item⟩ cs := by
  have hs : step ⟨fs, .value⟩ '[' = push? fs (.arr []) .item := rfl
  rw [readFrom_cons, hs, push?_of_lt h, Option.bind_some]

theorem readFrom_openObject {fs : List Frame} (h : fs.length < maxDepth) (cs : List Char) :
    readFrom ⟨fs, .value⟩ ('\x7b' :: cs) = readFrom ⟨.obj [] "" :: fs, .member⟩ cs := by
  have hs : step ⟨fs, .value⟩ '\x7b' = push? fs (.obj [] "") .member := rfl
  rw [readFrom_cons, hs, push?_of_lt h, Option.bind_some]

theorem readFrom_close {mode : Mode} (hm : mode = .item ∨ mode = .rest) (fs : List Frame)
    (items : List Value) (cs : List Char) :
    readFrom ⟨.arr items :: fs, mode⟩ (']' :: cs) =
      (complete fs (.arr items.reverse)).readFrom cs := by
  rcases hm with rfl | rfl <;> rfl

theorem readFrom_closeObject {mode : Mode} (hm : mode = .member ∨ mode = .rest) (fs : List Frame)
    {members : List (String × Value)} (h : (members.reverse.map Prod.fst).Nodup) (key : String)
    (cs : List Char) :
    readFrom ⟨.obj members key :: fs, mode⟩ ('\x7d' :: cs) =
      (complete fs (.obj members.reverse)).readFrom cs := by
  have hs : step ⟨.obj members key :: fs, mode⟩ '\x7d' =
      some (complete fs (.obj (Table.ofEntries members.reverse))) := by
    rcases hm with rfl | rfl <;> rfl
  rw [readFrom_cons_of_step hs, Table.ofEntries_eq_self h]

/-- Neither a blank nor the end of an array, as every first character of a value. -/
def opens (c : Char) : Bool :=
  !isBlank c && c != ']'

/-- A character that is not the end of an array opens its first element. -/
theorem readFrom_item (fs : List Frame) {c : Char} (h : opens c = true) (cs : List Char) :
    readFrom ⟨fs, .item⟩ (c :: cs) = readFrom ⟨fs, .value⟩ (c :: cs) := by
  have hs : step ⟨fs, .item⟩ c = step ⟨fs, .value⟩ c := by
    rw [step_of_waiting .item, step_of_waiting .value]
    have hc : isBlank c = false ∧ c ≠ ']' := by simpa [opens] using h
    simp [between?, hc.1, hc.2]
  rw [readFrom_cons, readFrom_cons, hs]

theorem delimited_blanks {ws : List Char} (hw : ∀ c ∈ ws, isBlank c = true) {c : Char}
    (hc : isDelimiter c = true) (cs : List Char) : Delimited (ws ++ c :: cs) := by
  cases ws with
  | nil => exact delimited_cons hc cs
  | cons w ws => exact delimited_cons (by simp [isDelimiter, hw w (by simp)]) _

end State

open State

theorem opens_of_isDigit {c : Char} (h : Text.isDigit c = true) : opens c = true := by
  have hne : ∀ x ∈ [' ', '\t', '\n', '\r', ']'], c ≠ x := fun x hx =>
    ne_of_isDigit h (by fin_cases hx <;> rfl)
  simpa [opens, isBlank, and_assoc] using hne

theorem integerNumeral_opens (i : Int) :
    ∃ c cs, Text.integerNumeral i = c :: cs ∧ opens c = true := by
  rcases i with n | n
  · rcases Nat.eq_zero_or_pos n with rfl | hn
    · exact ⟨'0', [], rfl, rfl⟩
    · obtain ⟨d, ds, hd, -, h₁, -⟩ := Text.numeral_of_pos hn
      exact ⟨d, ds, hd, opens_of_isDigit (h₁ d (by simp))⟩
  · exact ⟨'-', _, rfl, rfl⟩

theorem print_opens (l : Layout) (level : Nat) (j : Json) :
    ∃ c cs, l.print level j = c :: cs ∧ opens c = true := by
  match j with
  | .null => exact ⟨'n', _, rfl, rfl⟩
  | .bool true => exact ⟨'t', _, rfl, rfl⟩
  | .bool false => exact ⟨'f', _, rfl, rfl⟩
  | .int i => exact integerNumeral_opens i
  | .str s => exact ⟨'"', _, rfl, rfl⟩
  | .arr [] => exact ⟨'[', _, rfl, rfl⟩
  | .arr (j :: js) => exact ⟨'[', _, rfl, rfl⟩
  | .obj [] => exact ⟨'\x7b', _, rfl, rfl⟩
  | .obj ((k, j) :: ms) => exact ⟨'\x7b', _, rfl, rfl⟩

/-- The first element of an array is read like any other value. -/
theorem readFrom_firstItem (fs : List Frame) (l : Layout) (level : Nat) (j : Json)
    (cs : List Char) :
    readFrom ⟨fs, .item⟩ (l.print level j ++ cs) =
      readFrom ⟨fs, .value⟩ (l.print level j ++ cs) := by
  obtain ⟨c, ds, hj, hc⟩ := print_opens l level j
  rw [hj, List.cons_append, readFrom_item fs hc]

theorem delimited_printRest (l : Layout) (level : Nat) (js : List Json) {cs : List Char}
    (h : Delimited cs) : Delimited (l.printRest level js ++ cs) := by
  cases js with
  | nil => exact h
  | cons j js => exact delimited_cons rfl _

theorem delimited_printMembers (l : Layout) (level : Nat) (ms : List (String × Json))
    {cs : List Char} (h : Delimited cs) : Delimited (l.printMembers level ms ++ cs) := by
  cases ms with
  | nil => exact h
  | cons m ms => exact delimited_cons rfl _

mutual

/-- A readable document in the place of a value is read as what it denotes. -/
theorem readFrom_print (l : Layout) (level : Nat) (j : Json) (fs : List Frame)
    (hj : j.Readable (maxDepth - fs.length)) {cs : List Char} (hcs : Delimited cs) :
    readFrom ⟨fs, .value⟩ (l.print level j ++ cs) = (complete fs j.toValue).readFrom cs := by
  match j with
  | .null => exact readFrom_null fs cs
  | .bool b => exact readFrom_truth fs b cs
  | .int i => exact readFrom_integerNumeral fs hj hcs
  | .str s => exact readFrom_string fs s cs
  | .arr [] =>
    have hlt : fs.length < maxDepth := Nat.lt_of_sub_pos hj.1
    change readFrom ⟨fs, .value⟩ ('[' :: ']' :: cs) = _
    rw [readFrom_open hlt, readFrom_close (Or.inl rfl)]
    rfl
  | .arr (j :: js) =>
    obtain ⟨hroom, hfirst, hrest⟩ := hj
    have hlt : fs.length < maxDepth := Nat.lt_of_sub_pos hroom
    rw [Nat.sub_sub] at hfirst hrest
    have hend : Delimited (l.gap level ++ ']' :: cs) :=
      delimited_blanks (l.gap_blank level) rfl cs
    have h₁ := readFrom_print l (level + 1) j (.arr [] :: fs) hfirst
      (delimited_printRest l (level + 1) js hend)
    have h₂ := readFrom_printRest l (level + 1) js [j.toValue] fs hrest hend
    simp only [Layout.print, List.cons_append, List.append_assoc, List.nil_append]
    rw [readFrom_open hlt, readFrom_blanks .item _ (l.gap_blank (level + 1)), readFrom_firstItem,
      h₁, complete, h₂, readFrom_blanks .rest _ (l.gap_blank level), readFrom_close (Or.inr rfl)]
    simp [toValue, toValues]
  | .obj [] =>
    have hlt : fs.length < maxDepth := Nat.lt_of_sub_pos hj.1
    change readFrom ⟨fs, .value⟩ ('\x7b' :: '\x7d' :: cs) = _
    rw [readFrom_openObject hlt, readFrom_closeObject (Or.inl rfl) fs (by simp)]
    rfl
  | .obj ((k, j) :: ms) =>
    obtain ⟨hroom, hkeys, hfirst, hrest⟩ := hj
    have hlt : fs.length < maxDepth := Nat.lt_of_sub_pos hroom
    rw [Nat.sub_sub] at hfirst hrest
    have hend : Delimited (l.gap level ++ '\x7d' :: cs) :=
      delimited_blanks (l.gap_blank level) rfl cs
    have h₁ := readFrom_print l (level + 1) j (.obj [] k :: fs) hfirst
      (delimited_printMembers l (level + 1) ms hend)
    obtain ⟨key, h₂⟩ := readFrom_printMembers l (level + 1) ms [(k, j.toValue)] k fs hrest hend
    -- the keys are compared only when the object is closed
    have hnodup : (((toMembers ms).reverse ++ [(k, j.toValue)]).reverse.map Prod.fst).Nodup := by
      simpa [toMembers_keys] using hkeys
    have hcolon : ∀ ds, readFrom ⟨.obj [] k :: fs, .colon⟩ (':' :: ds) =
        readFrom ⟨.obj [] k :: fs, .value⟩ ds := fun ds => rfl
    simp only [Layout.print, List.cons_append, List.append_assoc, List.nil_append]
    rw [readFrom_openObject hlt, readFrom_blanks .member _ (l.gap_blank (level + 1)),
      readFrom_key (Or.inl rfl), hcolon, readFrom_blanks .value _ l.afterColon_blank, h₁, complete,
      h₂, readFrom_blanks .rest _ (l.gap_blank level), readFrom_closeObject (Or.inr rfl) fs hnodup]
    simp [toValue, toMembers]

/-- The further elements of an array join those already read. -/
theorem readFrom_printRest (l : Layout) (level : Nat) (js : List Json) (items : List Value)
    (fs : List Frame) (hjs : ReadableAll (maxDepth - (fs.length + 1)) js) {cs : List Char}
    (hcs : Delimited cs) :
    readFrom ⟨.arr items :: fs, .rest⟩ (l.printRest level js ++ cs) =
      readFrom ⟨.arr ((toValues js).reverse ++ items) :: fs, .rest⟩ cs := by
  match js with
  | [] => rfl
  | j :: js =>
    have h₁ := readFrom_print l level j (.arr items :: fs) hjs.1
      (delimited_printRest l level js hcs)
    have h₂ := readFrom_printRest l level js (j.toValue :: items) fs hjs.2 hcs
    have hcomma : ∀ ds, readFrom ⟨.arr items :: fs, .rest⟩ (',' :: ds) =
        readFrom ⟨.arr items :: fs, .value⟩ ds := fun ds => rfl
    simp only [Layout.printRest, List.cons_append, List.append_assoc]
    rw [hcomma, readFrom_blanks .value _ (l.gap_blank level), h₁, complete, h₂]
    simp [toValues]

/-- The further members of an object join those already read. -/
theorem readFrom_printMembers (l : Layout) (level : Nat) (ms : List (String × Json))
    (members : List (String × Value)) (key : String) (fs : List Frame)
    (hms : ReadableMembers (maxDepth - (fs.length + 1)) ms) {cs : List Char}
    (hcs : Delimited cs) :
    ∃ last, readFrom ⟨.obj members key :: fs, .rest⟩ (l.printMembers level ms ++ cs) =
      readFrom ⟨.obj ((toMembers ms).reverse ++ members) last :: fs, .rest⟩ cs := by
  match ms with
  | [] => exact ⟨key, rfl⟩
  | (k, j) :: ms =>
    have h₁ := readFrom_print l level j (.obj members k :: fs) hms.1
      (delimited_printMembers l level ms hcs)
    obtain ⟨last, h₂⟩ :=
      readFrom_printMembers l level ms ((k, j.toValue) :: members) k fs hms.2 hcs
    have hcomma : ∀ ds, readFrom ⟨.obj members key :: fs, .rest⟩ (',' :: ds) =
        readFrom ⟨.obj members key :: fs, .key⟩ ds := fun ds => rfl
    have hcolon : ∀ ds, readFrom ⟨.obj members k :: fs, .colon⟩ (':' :: ds) =
        readFrom ⟨.obj members k :: fs, .value⟩ ds := fun ds => rfl
    refine ⟨last, ?_⟩
    simp only [Layout.printMembers, List.cons_append, List.append_assoc]
    rw [hcomma, readFrom_blanks .key _ (l.gap_blank level), readFrom_key (Or.inr rfl), hcolon,
      readFrom_blanks .value _ l.afterColon_blank, h₁, complete, h₂]
    simp [toMembers]

end

theorem readChars?_print (l : Layout) (level : Nat) {j : Json} (h : j.Readable maxDepth) :
    readChars? (l.print level j) = some j.toValue := by
  have hr := readFrom_print l level j [] h delimited_nil
  rw [List.append_nil] at hr
  rw [readChars?_eq, start, hr]
  rfl

theorem read?_encode (cs : List Char) :
    read? (Text.encode (String.ofList cs)) = readChars? cs := by
  rw [read?, Text.decode?_encode, String.toList_ofList]
  rfl

/-- A readable document on one line is read as what it denotes. -/
theorem read?_compact {j : Json} (h : j.Readable maxDepth) :
    read? (Text.encode (String.ofList j.compact)) = some j.toValue := by
  rw [read?_encode, ← Layout.print_compact 0, readChars?_print Layout.compact 0 h]

/-- A readable indented document is read as what it denotes. -/
theorem read?_indented (level : Nat) {j : Json} (h : j.Readable maxDepth) :
    read? (Text.encode (String.ofList (j.indented level))) = some j.toValue := by
  rw [read?_encode, ← Layout.print_indented, readChars?_print Layout.indented level h]

end CallAttribution.Json
