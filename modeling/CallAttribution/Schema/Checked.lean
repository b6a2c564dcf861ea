import CallAttribution.Schema.Report

/-!
# Collecting issues

The outcome of checking a part of a document is a value of the domain or a list of issues. When
parts are combined the issues of all of them are kept, in order, so one pass reports everything
that is wrong.
-/

namespace CallAttribution.Schema

/-- A checked value, or the issues that prevent it. -/
inductive Checked (α : Type) where
  | accepted (value : α)
  | refused (issues : List Issue)

namespace Checked

variable {α β : Type}

def map (f : α → β) : Checked α → Checked β
  | accepted a => accepted (f a)
  | refused is => refused is

/-- Apply a checked function to a checked argument; issues of both are kept. -/
def apply : Checked (α → β) → Checked α → Checked β
  | accepted f, accepted a => accepted (f a)
  | accepted _, refused is => refused is
  | refused is, accepted _ => refused is
  | refused is, refused js => refused (is ++ js)

instance : Applicative Checked where
  pure := accepted
  map := map
  seq f a := apply f (a ())

def andThen : Checked α → (α → Checked β) → Checked β
  | accepted a, f => f a
  | refused is, _ => refused is

/-- The issue that stands at this very place. -/
def refuse (p : Problem) : Checked α :=
  refused [⟨[], p⟩]

/-- The outcome for a part, seen from the whole: its issues stand one step deeper. -/
def under (part : String) : Checked α → Checked α
  | accepted a => accepted a
  | refused is => refused (is.map fun i => { i with place := part :: i.place })

def toExcept (shape : String) : Checked α → Except Report α
  | accepted a => .ok a
  | refused is => .error ⟨shape, is⟩

@[simp] theorem map_accepted (f : α → β) (a : α) : f <$> accepted a = accepted (f a) := rfl

@[simp] theorem map_refused (f : α → β) (is : List Issue) :
    f <$> (refused is : Checked α) = refused is := rfl

@[simp] theorem accepted_seq_accepted (f : α → β) (a : α) :
    (accepted f : Checked (α → β)) <*> accepted a = accepted (f a) := rfl

@[simp] theorem under_accepted (part : String) (a : α) :
    (accepted a).under part = accepted a := rfl

theorem seq_eq_accepted_iff {f : Checked (α → β)} {a : Checked α} {b : β} :
    f <*> a = accepted b ↔ ∃ g x, f = accepted g ∧ a = accepted x ∧ g x = b := by
  constructor
  · intro h
    cases f <;> cases a <;> simp_all [Seq.seq, apply]
  · rintro ⟨g, x, rfl, rfl, rfl⟩
    rfl

theorem map_eq_accepted_iff {f : α → β} {a : Checked α} {b : β} :
    f <$> a = accepted b ↔ ∃ x, a = accepted x ∧ f x = b := by
  cases a <;> simp

theorem andThen_eq_accepted_iff {a : Checked α} {f : α → Checked β} {b : β} :
    a.andThen f = accepted b ↔ ∃ x, a = accepted x ∧ f x = accepted b := by
  cases a <;> simp [andThen]

theorem under_eq_accepted_iff {part : String} {a : Checked α} {x : α} :
    a.under part = accepted x ↔ a = accepted x := by
  cases a <;> simp [under]

theorem toExcept_eq_ok_iff {shape : String} {a : Checked α} {x : α} :
    a.toExcept shape = .ok x ↔ a = accepted x := by
  cases a <;> simp [toExcept]

end Checked

end CallAttribution.Schema
