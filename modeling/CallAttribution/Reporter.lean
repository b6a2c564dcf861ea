import CallAttribution.Routine
import CallAttribution.Text.Basic

/-!
# Reporting lines while giving way

A long pass hands out many lines. A reporter delivers each of them and gives way to whoever shares
the thread once a fixed number of lines has been delivered since it last gave way, so that a viewer
can keep up. Giving way changes neither the lines nor their order.
-/

namespace CallAttribution

/-- A number of lines after which to give way. -/
structure Interval where
  lines : Nat
  positive : 0 < lines
  deriving DecidableEq

def Interval.one : Interval :=
  ⟨1, by decide⟩

def Interval.ofInt? (i : Int) : Option Interval :=
  if h : 0 < i.toNat then some ⟨i.toNat, h⟩ else none

/-- How often to give way, how many lines were delivered since, and how many in all. -/
structure Reporter where
  interval : Interval
  pending : Nat
  emitted : Nat

structure IntervalError where
  lines : Int
  deriving DecidableEq

def IntervalError.message (e : IntervalError) : String :=
  "every must be >= 1, got " ++ Text.showInt e.lines

namespace Reporter

def fresh (i : Interval) : Reporter :=
  ⟨i, 0, 0⟩

def make (lines : Int) : Except IntervalError Reporter :=
  match Interval.ofInt? lines with
  | some i => .ok (fresh i)
  | none => .error ⟨lines⟩

/-- The reporter after one more line, and whether it gives way now. -/
def accept (r : Reporter) : Reporter × Bool :=
  if r.interval.lines ≤ r.pending + 1 then ({ r with pending := 0, emitted := r.emitted + 1 }, true)
  else ({ r with pending := r.pending + 1, emitted := r.emitted + 1 }, false)

/-- Deliver what a routine hands out, giving way at the reporter's pace. -/
def deliver {ε α : Type} (r : Reporter) : Routine ε α → Routine ε (α × Reporter)
  | .done a => .done (a, r)
  | .emit e p =>
    let (s, yields) := r.accept
    .emit e (if yields then .pause (deliver s p) else deliver s p)
  | .pause p => .pause (deliver r p)

theorem accept_emitted (r : Reporter) : r.accept.1.emitted = r.emitted + 1 := by
  unfold accept
  split <;> rfl

theorem events_deliver {ε α : Type} (r : Reporter) (p : Routine ε α) :
    (r.deliver p).events = p.events := by
  induction p generalizing r with
  | done a => rfl
  | emit e p ih =>
    simp only [deliver]
    split <;> simp [Routine.events, ih]
  | pause p ih => simp [deliver, Routine.events, ih]

end Reporter

/-- Hand out the same event a number of times, giving way after each. -/
def Routine.beat {ε : Type} (event : ε) : Nat → Routine ε Unit
  | 0 => .done ()
  | n + 1 => .emit event (.pause (beat event n))

end CallAttribution
