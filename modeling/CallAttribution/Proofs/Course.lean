import CallAttribution.Proofs.Delivery
import Mathlib.Data.List.TakeWhile

/-!
# The course of a batch

An engine hands out one line for each of its heuristics and two more, whatever they find. So every
call site takes up the same number of lines, and what a batch comes to is known call site by call
site: without a rule for stopping, each of them in turn; with a rule, those before the first poll
that answers yes.
-/

namespace CallAttribution

/-- How many polls answer no before the first one that answers yes, of `n` polls counted from 0. -/
def noesBefore (answer : Nat → Bool) (n : Nat) : Nat :=
  ((List.range n).takeWhile fun i => !answer i).length

section Polls

variable {answer : Nat → Bool} {n : Nat}

/-- The first poll decides, or it is left to the others, which are then counted from the second. -/
theorem noesBefore_succ (answer : Nat → Bool) (n : Nat) :
    noesBefore answer (n + 1) =
      if answer 0 then 0 else noesBefore (fun i => answer (i + 1)) n + 1 := by
  rw [noesBefore, List.range_succ_eq_map, List.takeWhile_cons]
  cases answer 0 <;> simp [noesBefore, List.takeWhile_map, Function.comp_def]

theorem noesBefore_eq_self (h : ∀ i < n, answer i = false) : noesBefore answer n = n := by
  rw [noesBefore, List.takeWhile_eq_self_iff.mpr, List.length_range]
  intro i hi
  simp [h i (List.mem_range.mp hi)]

/-- Polls that answer yes from the `m`-th on. -/
theorem noesBefore_of_threshold {m : Nat} (h : ∀ i < n, answer i = true ↔ m ≤ i) :
    noesBefore answer n = min n m := by
  induction n generalizing answer m with
  | zero => simp [noesBefore]
  | succ n ih =>
    have hfirst := h 0 (Nat.succ_pos n)
    rw [noesBefore_succ]
    cases m with
    | zero => simp [hfirst]
    | succ m =>
      have hlater : ∀ i < n, answer (i + 1) = true ↔ m ≤ i := fun i hi => by
        rw [h (i + 1) (Nat.succ_lt_succ hi), Nat.succ_le_succ_iff]
      rw [if_neg (by simp [hfirst]), ih hlater, Nat.succ_min_succ]

end Polls

/-- Pieces of one length are cut off whole. -/
theorem take_flatMap_of_length {α β : Type} {f : α → List β} {m : Nat}
    (h : ∀ x, (f x).length = m) (xs : List α) (k : Nat) :
    (xs.flatMap f).take (k * m) = (xs.take k).flatMap f := by
  induction xs generalizing k with
  | nil => simp
  | cons x xs ih =>
    cases k with
    | zero => simp
    | succ k =>
      rw [List.flatMap_cons, List.take_succ_cons, List.flatMap_cons, ← ih k,
        Nat.succ_mul, Nat.add_comm, ← h x, List.take_length_add_append]

theorem length_flatMap_of_length {α β : Type} {f : α → List β} {m : Nat}
    (h : ∀ x, (f x).length = m) (xs : List α) : (xs.flatMap f).length = xs.length * m := by
  simp only [List.length_flatMap, h, List.map_const', List.sum_replicate_nat]

namespace Engine

/-- How many lines every call site takes up: one for each heuristic and two more. -/
def linesPerCall (e : Engine) : Nat :=
  e.heuristics.length + 2

/-- The lines of the heuristics in turn. -/
def reportLines (c : Context) (hs : List Heuristic) : List String :=
  hs.map fun h => heuristicLine h.name (h.apply c)

/-- The line that tells a decision. -/
def outcomeLine : Option Decision → String
  | none => noWinnerLine
  | some d =>
    "      Winner: " ++ d.heuristic ++ " (" ++ Text.showInt d.confidence ++ "%) -> " ++
      showLabels d.candidates

/-- The winner's line tells the decision that is made of the winner. -/
theorem outcomeLine_toDecision (a : Answer) : outcomeLine (some a.toDecision) = winnerLine a :=
  rfl

theorem events_consult (c : Context) (before : List Ranked) (place : Nat) (hs : List Heuristic) :
    (consult c before place hs).events = reportLines c hs := by
  induction hs generalizing before place with
  | nil => rfl
  | cons h hs ih =>
    rw [consult, reportLines, List.map_cons, ← reportLines]
    split
    · next hf => rw [Routine.events, ih, hf]
    · next f hf => rw [Routine.events, ih, hf]

/-- The lines in their order, whatever the heuristics find. The last line is made of the winner, as
the decision is, and tells the decision. -/
theorem events_resolve (e : Engine) (c : Context) :
    (e.resolve c).events = headerLine c.call ::
      (reportLines c e.heuristics ++ [outcomeLine (e.resolve c).result]) := by
  rw [resolve, Routine.events, Routine.events_bind, events_consult, Routine.result,
    Routine.result_bind]
  cases winner? (consult c [] 0 e.heuristics).result with
  | none => rfl
  | some a => simp only [Routine.events, Routine.result, outcomeLine_toDecision]

theorem length_events_resolve (e : Engine) (c : Context) :
    (e.resolve c).events.length = e.linesPerCall := by
  rw [events_resolve, List.length_cons, List.length_append, reportLines, List.length_map,
    List.length_singleton, linesPerCall]

/-- The record of a call site. -/
def recordFor (e : Engine) (c : Context) : Record :=
  recordOf c (e.decide c)

theorem recordOf_resolvePlain (e : Engine) (c : Context) :
    recordOf c (e.resolvePlain c).2 = e.recordFor c := by
  rw [resolvePlain, recordFor, result_resolve]

/-- Without a rule for stopping, every call site is resolved in turn. -/
theorem resolveFrom_none (e : Engine) (polls : Nat) (lines : List String) (cs : List Context) :
    e.resolveFrom none polls lines cs =
      (cs.flatMap fun c => (e.resolvePlain c).1, ⟨cs.map e.recordFor, false, polls⟩) := by
  induction cs generalizing lines with
  | nil => rfl
  | cons c cs ih =>
    rw [resolveFrom]
    simp [stops, nextPolls, ih, recordOf_resolvePlain]

/-- With a rule for stopping, the call sites before the first poll that answers yes are resolved in
turn. Each poll sees the lines of the call sites before it. -/
theorem resolveFrom_some (e : Engine) (rule : CancelRule) (polls : Nat) (lines : List String)
    (cs : List Context) :
    e.resolveFrom (some rule) polls lines cs =
      let k := noesBefore (fun i => rule (polls + i + 1)
        (lines ++ (cs.take i).flatMap fun c => (e.resolve c).events)) cs.length
      ((cs.take k).flatMap fun c => (e.resolvePlain c).1,
        ⟨(cs.take k).map e.recordFor, Decidable.decide (k < cs.length),
          polls + min (k + 1) cs.length⟩) := by
  induction cs generalizing polls lines with
  | nil => simp [resolveFrom, noesBefore]
  | cons c cs ih =>
    rw [resolveFrom, List.length_cons, noesBefore_succ]
    simp only [stops, Nat.add_zero, List.take_zero, List.flatMap_nil, List.append_nil]
    by_cases hyes : rule (polls + 1) lines = true
    · simp [hyes]
    · -- the polls that are left see the lines of this call site as well
      have hpolls (i : Nat) : polls + (i + 1) + 1 = polls + 1 + i + 1 := by omega
      simp only [if_neg hyes, nextPolls, Option.isSome_some, if_true, ih, lines_resolvePlain,
        recordOf_resolvePlain, List.take_succ_cons, List.flatMap_cons, List.map_cons,
        List.append_assoc, hpolls, Nat.add_lt_add_iff_right, Nat.succ_min_succ]
      congr 2
      omega

theorem length_contexts (b : CallBatch) (s : Snapshot) :
    (b.contexts s).length = b.callCount := by
  rw [CallBatch.contexts, CallBatch.callCount, List.length_flatMap]
  simp only [List.length_map, List.sum_eq_foldr, List.foldr_map]

variable (e : Engine) (s : Snapshot) (b : CallBatch) (reporter : Option Reporter)

theorem outcome_none :
    e.outcome s b none reporter = ⟨(b.contexts s).map e.recordFor, false, 0⟩ := by
  rw [outcome_eq, resolveFrom_none]

theorem length_records_none :
    (e.outcome s b none reporter).records.length = b.callCount := by
  rw [outcome_none, List.length_map, length_contexts]

theorem trace_none :
    e.trace s b none reporter = (b.contexts s).flatMap fun c => (e.resolve c).events := by
  simp only [trace_eq, resolveFrom_none, List.filterMap_flatMap, lines_resolvePlain]

/-- The lines of the first `k` call sites. -/
theorem take_trace_none (k : Nat) :
    (e.trace s b none reporter).take (k * e.linesPerCall) =
      ((b.contexts s).take k).flatMap fun c => (e.resolve c).events := by
  rw [trace_none, take_flatMap_of_length e.length_events_resolve]

theorem length_trace_none :
    (e.trace s b none reporter).length = b.callCount * e.linesPerCall := by
  rw [trace_none, length_flatMap_of_length e.length_events_resolve, length_contexts]

end Engine

end CallAttribution
