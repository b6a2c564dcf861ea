/-!
# Tables

A table keeps its keys in the order in which they first appeared and, for each key, the value that
was entered last. `get?_insert` is the whole theory of entering a value: it changes the look-up of
its own key and of no other.
-/

namespace CallAttribution

/-- Values by name, in the order of the first appearance of the names. -/
abbrev Table (α : Type) := List (String × α)

namespace Table

variable {α : Type}

def get? : Table α → String → Option α
  | [], _ => none
  | (k, v) :: t, x => if k = x then some v else get? t x

/-- Enter a value: a known key keeps its place, a new one comes last. -/
def insert : Table α → String → α → Table α
  | [], x, v => [(x, v)]
  | (k, w) :: t, x, v => if k = x then (k, v) :: t else (k, w) :: insert t x v

def keys (t : Table α) : List String :=
  t.map Prod.fst

/-- The table of a sequence of entries, later ones overriding earlier ones. -/
def ofEntries (entries : List (String × α)) : Table α :=
  entries.foldl (fun t e => t.insert e.1 e.2) []

theorem get?_insert (t : Table α) (x y : String) (v : α) :
    (t.insert x v).get? y = if x = y then some v else t.get? y := by
  induction t with
  | nil => simp [insert, get?]
  | cons e t ih =>
    obtain ⟨k, w⟩ := e
    by_cases hk : k = x
    · subst hk; by_cases hy : k = y <;> simp [insert, get?, hy]
    · by_cases hy : k = y
      · subst hy; simp [insert, get?, hk, Ne.symm hk]
      · simp [insert, get?, hk, hy, ih]

end Table

end CallAttribution
