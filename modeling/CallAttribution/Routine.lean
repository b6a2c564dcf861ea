/-!
# Cooperating routines

A routine hands out events one at a time, may give way to another routine between two of them, and
ends with a result. Run alone it never notices that it gave way. Two routines share one thread:
each runs until it gives way or ends, then the other one runs.
-/

namespace CallAttribution

/-- A computation that hands out events and gives way now and then. -/
inductive Routine (ε α : Type) where
  | done (result : α)
  | emit (event : ε) (next : Routine ε α)
  | pause (next : Routine ε α)

namespace Routine

variable {ε α β : Type}

def bind : Routine ε α → (α → Routine ε β) → Routine ε β
  | done a, f => f a
  | emit e p, f => emit e (p.bind f)
  | pause p, f => pause (p.bind f)

instance : Monad (Routine ε) where
  pure := done
  bind := bind

def emitAll : List ε → Routine ε Unit
  | [] => done ()
  | e :: es => emit e (emitAll es)

/-- The events that the routine hands out when it runs alone. -/
def events : Routine ε α → List ε
  | done _ => []
  | emit e p => e :: p.events
  | pause p => p.events

def result : Routine ε α → α
  | done a => a
  | emit _ p => p.result
  | pause p => p.result

def relabel {δ : Type} (f : ε → δ) : Routine ε α → Routine δ α
  | done a => done a
  | emit e p => emit (f e) (p.relabel f)
  | pause p => pause (p.relabel f)

def size : Routine ε α → Nat
  | done _ => 0
  | emit _ p => p.size + 1
  | pause p => p.size + 1

/-- The events of two routines that share a thread, the first one running first. -/
def interleave {ε : Type} : {α β : Type} → Routine ε α → Routine ε β → List ε
  | _, _, done _, q => q.events
  | _, _, emit e p, q => e :: interleave p q
  | _, _, pause p, q => interleave q p
termination_by _ _ p q => p.size + q.size
decreasing_by all_goals simp only [size]; omega

theorem events_bind (p : Routine ε α) (f : α → Routine ε β) :
    (p.bind f).events = p.events ++ (f p.result).events := by
  induction p with
  | done a => rfl
  | emit e p ih => simp [bind, events, result, ih]
  | pause p ih => simp [bind, events, result, ih]

theorem result_bind (p : Routine ε α) (f : α → Routine ε β) :
    (p.bind f).result = (f p.result).result := by
  induction p with
  | done a => rfl
  | emit e p ih => simpa [bind, result] using ih
  | pause p ih => simpa [bind, result] using ih

end Routine

end CallAttribution
