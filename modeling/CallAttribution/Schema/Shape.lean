import CallAttribution.Schema.Scalar

/-!
# Sequences, tables and records

The shapes that are built from other shapes. A sequence is an array, a table is an object whose
members are all of one shape, and a record is an object with named fields. Fields that a record
does not know are ignored, unless the record is `exact`.
-/

namespace CallAttribution.Schema

variable {α : Type}

/-- A value of a shape, or nothing where the document has `null`. -/
def nullable (shape : Value → Checked α) : Value → Checked (Option α)
  | .null => .accepted none
  | v => some <$> shape v

/-- Every element in turn, counting from `i`. -/
def elements (shape : Value → Checked α) (i : Nat) : List Value → Checked (List α)
  | [] => .accepted []
  | v :: vs =>
    List.cons <$> (shape v).under (Text.showNat i) <*> elements shape (i + 1) vs

def tuple (shape : Value → Checked α) : Value → Checked (List α)
  | .arr items => elements shape 0 items
  | _ => .refuse .notTuple

def members (shape : Value → Checked α) : Table Value → Checked (Table α)
  | [] => .accepted []
  | (k, v) :: ms => (fun a t => (k, a) :: t) <$> (shape v).under k <*> members shape ms

def table (shape : Value → Checked α) : Value → Checked (Table α)
  | .obj ms => members shape ms
  | _ => .refuse .notTable

/-- An object with the fields of the named record. -/
def record (name : String) (fields : Table Value → Checked α) : Value → Checked α
  | .obj ms => fields ms
  | _ => .refuse (.notRecord name)

theorem record_eq_accepted_iff {name : String} {fields : Table Value → Checked α} {v : Value}
    {a : α} : record name fields v = .accepted a ↔ ∃ ms, v = .obj ms ∧ fields ms = .accepted a := by
  cases v <;> simp [record, Checked.refuse]

def required (key : String) (shape : Value → Checked α) (ms : Table Value) : Checked α :=
  match ms.get? key with
  | some v => (shape v).under key
  | none => (Checked.refuse .missing).under key

/-- A field with two spellings, of which the first is preferred and the one whose absence is
reported. -/
def requiredAs (key other : String) (shape : Value → Checked α) (ms : Table Value) : Checked α :=
  match ms.get? key with
  | some v => (shape v).under key
  | none =>
    match ms.get? other with
    | some v => (shape v).under other
    | none => (Checked.refuse .missing).under key

def defaulted (key : String) (default : α) (shape : Value → Checked α) (ms : Table Value) :
    Checked α :=
  match ms.get? key with
  | some v => (shape v).under key
  | none => .accepted default

/-- One issue for each member that is not a known field, in the order of the document. -/
def unexpected (known : List String) : Table Value → List Issue
  | [] => []
  | (k, _) :: ms =>
    if known.contains k then unexpected known ms
    else ⟨[k], .unexpected⟩ :: unexpected known ms

/-- Fields of a record that has no others than these. -/
def exact (known : List String) (fields : Table Value → Checked α) (ms : Table Value) :
    Checked α :=
  match unexpected known ms with
  | [] => fields ms
  | is => (fun a _ => a) <$> fields ms <*> (.refused is : Checked Unit)

theorem unexpected_eq_nil_iff {known : List String} {ms : Table Value} :
    unexpected known ms = [] ↔ ∀ key ∈ ms.keys, key ∈ known := by
  induction ms with
  | nil => simp [unexpected, Table.keys]
  | cons m ms ih =>
    obtain ⟨key, v⟩ := m
    have hkeys : Table.keys ((key, v) :: ms) = key :: Table.keys ms := rfl
    rw [unexpected, hkeys, List.forall_mem_cons, ← ih]
    by_cases h : key ∈ known <;> simp [h]

theorem exact_eq_accepted_iff {known : List String} {fields : Table Value → Checked α}
    {ms : Table Value} {a : α} :
    exact known fields ms = .accepted a ↔ unexpected known ms = [] ∧ fields ms = .accepted a := by
  rw [exact]
  split
  · next h => simp [h]
  · next h =>
    refine iff_of_false ?_ fun ha => h ha.1
    cases fields ms <;> exact fun hx => by cases hx

end CallAttribution.Schema
