import CallAttribution.Proofs.Delivery
import Mathlib.Data.List.TakeDrop

/-!
# The pace of a reporter

A task that delivers lines through a reporter shares its thread with a task that ticks and gives way
after every tick. Whoever has the thread keeps it until it gives way or ends, so the lines come in
runs of one length, each followed by a tick, as long as there are both; what is left of the one
comes when the other has ended.
-/

namespace CallAttribution

namespace Routine

variable {ε α β : Type}

/-- Hand out events, giving way after each. -/
def ticking : List ε → Routine ε Unit
  | [] => done ()
  | e :: es => emit e (pause (ticking es))

theorem ticking_replicate (e : ε) (n : Nat) : ticking (List.replicate n e) = beat e n := by
  induction n with
  | zero => rfl
  | succ n ih => rw [List.replicate_succ, ticking, ih, beat]

theorem events_ticking (es : List ε) : (ticking es).events = es := by
  induction es with
  | nil => rfl
  | cons e es ih => simp only [ticking, events, ih]

theorem events_emitAll (es : List ε) : (emitAll es).events = es := by
  induction es with
  | nil => rfl
  | cons e es ih => simp only [emitAll, events, ih]

/-- Beside a task that has ended, giving way changes nothing. -/
theorem interleave_done (p : Routine ε α) (b : β) : interleave p (done b) = p.events := by
  induction p with
  | done a => simp only [interleave, events]
  | emit e p ih => rw [interleave, events, ih]
  | pause p ih => rw [interleave, interleave, events]

end Routine

namespace Reporter

open Routine

variable {ε τ β : Type}

/-- A reporter that still has room for some lines delivers so many, or all if there are fewer, and
only then the other task goes on. -/
theorem interleave_deliver (r : Reporter) {room : Nat}
    (h : r.pending + (room + 1) = r.interval.lines) (es : List ε) (q : Routine ε β) :
    interleave (r.deliver (emitAll es)) q =
      es.take (room + 1) ++
        if es.length < room + 1 then q.events
        else interleave q
          ((⟨r.interval, 0, r.emitted + (room + 1)⟩ : Reporter).deliver
            (emitAll (es.drop (room + 1)))) := by
  induction es generalizing r room with
  | nil => simp [emitAll, deliver, interleave]
  | cons e es ih =>
    simp only [emitAll, deliver, accept]
    cases room with
    | zero =>
      -- the reporter is full with this line and gives way
      have hfull : r.interval.lines ≤ r.pending + 1 := by omega
      simp [hfull, interleave]
    | succ room =>
      have hroom : ¬ r.interval.lines ≤ r.pending + 1 := by omega
      have hnext : r.pending + 1 + (room + 1) = r.interval.lines := by omega
      have hrest := ih ⟨r.interval, r.pending + 1, r.emitted + 1⟩ hnext
      have hemitted : r.emitted + 1 + (room + 1) = r.emitted + (room + 1 + 1) := by omega
      simp only [hroom, if_false, Bool.false_eq_true, interleave, hrest, List.take_succ_cons,
        List.cons_append, List.drop_succ_cons, List.length_cons, Nat.add_lt_add_iff_right, hemitted]

/-- Lines in runs of `n`, each followed by a tick as long as there are ticks. -/
def paced (n : Nat) (lines : List ε) : List τ → List (ε ⊕ τ)
  | [] => lines.map .inl
  | t :: ts => (lines.take n).map .inl ++ .inr t :: paced n (lines.drop n) ts

theorem paced_nil (n : Nat) (ts : List τ) : paced n ([] : List ε) ts = ts.map .inr := by
  induction ts with
  | nil => rfl
  | cons t ts ih => simp [paced, ih]

/-- Whenever it is the ticking task's turn, the reporter has just given way or ended, so that each
turn of the reporter begins with a whole run. -/
theorem interleave_deliver_ticking (i : Interval) (emitted : Nat) (lines : List ε) (ts : List τ) :
    interleave ((⟨i, 0, emitted⟩ : Reporter).deliver (emitAll (lines.map .inl)))
        (ticking (ts.map .inr)) =
      paced i.lines lines ts := by
  induction ts generalizing emitted lines with
  | nil =>
    rw [List.map_nil, ticking, interleave_done, events_deliver, events_emitAll, paced]
  | cons t ts ih =>
    obtain ⟨room, hroom⟩ := Nat.exists_eq_succ_of_ne_zero (Nat.ne_of_gt i.positive)
    rw [Nat.succ_eq_add_one] at hroom
    have hfresh : 0 + (room + 1) = i.lines := by omega
    rw [interleave_deliver _ hfresh, paced, List.map_take, ← hroom, List.length_map]
    split_ifs with hshort
    · rw [events_ticking, List.drop_of_length_le (Nat.le_of_lt hshort), paced_nil]
      rfl
    · rw [List.map_cons, ticking, interleave, interleave, ← List.map_drop, ih]

theorem filterMap_inl (lines : List ε) :
    (lines.map (Sum.inl : ε → ε ⊕ τ)).filterMap Sum.getLeft? = lines ∧
      (lines.map (Sum.inl : ε → ε ⊕ τ)).filterMap Sum.getRight? = [] := by
  induction lines with
  | nil => simp
  | cons line lines ih => simpa using ih

/-- Nothing is lost and nothing changes places: apart, the lines and the ticks are what they
were. -/
theorem filterMap_paced (n : Nat) (lines : List ε) (ts : List τ) :
    (paced n lines ts).filterMap Sum.getLeft? = lines ∧
      (paced n lines ts).filterMap Sum.getRight? = ts := by
  induction ts generalizing lines with
  | nil => exact filterMap_inl lines
  | cons t ts ih =>
    obtain ⟨hleft, hright⟩ := ih (lines.drop n)
    obtain ⟨hlines, hticks⟩ := @filterMap_inl ε τ (lines.take n)
    rw [paced, List.filterMap_append, List.filterMap_append, hlines, hticks,
      List.filterMap_cons_none rfl, List.filterMap_cons, hleft, hright, List.take_append_drop]
    exact ⟨rfl, rfl⟩

/-- Before the tick with the number `k`, counted from 0, there are as many runs as ticks up to this
one. -/
theorem exists_paced_eq (n : Nat) (lines : List ε) (ts : List τ) {k : Nat} (hk : k < ts.length) :
    ∃ before after, paced n lines ts = before ++ .inr ts[k] :: after ∧
      before.filterMap Sum.getLeft? = lines.take (n * (k + 1)) ∧
      before.filterMap Sum.getRight? = ts.take k := by
  induction ts generalizing lines k with
  | nil => simp at hk
  | cons t ts ih =>
    obtain ⟨hlines, hticks⟩ := @filterMap_inl ε τ (lines.take n)
    cases k with
    | zero =>
      refine ⟨(lines.take n).map .inl, paced n (lines.drop n) ts, rfl, ?_, hticks⟩
      rw [hlines, Nat.zero_add, Nat.mul_one]
    | succ k =>
      obtain ⟨before, after, hsplit, hleft, hright⟩ :=
        ih (lines.drop n) (Nat.lt_of_succ_lt_succ hk)
      refine ⟨(lines.take n).map .inl ++ .inr t :: before, after, ?_, ?_, ?_⟩
      · rw [paced, hsplit, List.append_assoc, List.cons_append, List.getElem_cons_succ]
      · have hruns : n * (k + 1 + 1) = n + n * (k + 1) := by rw [Nat.mul_succ, Nat.add_comm]
        rw [List.filterMap_append, hlines, List.filterMap_cons_none rfl, hleft, hruns,
          List.take_add]
      · rw [List.filterMap_append, hticks, List.filterMap_cons, hright]
        rfl

/-- A new reporter beside a ticking task, whatever the interval and however many lines and ticks
there are: all lines appear in order and all ticks appear in order, the tick with the number `k`,
counted from 0, comes after the ticks before it and after as many lines as `k + 1` intervals hold,
or after all of them if there are fewer, and in the end the reporter has counted every line. Ticks
that are all alike are handed out as a beat. -/
theorem lines_before_tick (i : Interval) (lines : List ε) (ticks : List τ) :
    let reporting := (fresh i).deliver (emitAll (lines.map .inl))
    let shown := interleave reporting (ticking (ticks.map .inr))
    shown.filterMap Sum.getLeft? = lines ∧
      shown.filterMap Sum.getRight? = ticks ∧
      (∀ k, (hk : k < ticks.length) → ∃ before after, shown = before ++ .inr ticks[k] :: after ∧
        (before.filterMap Sum.getLeft?).length = min lines.length (i.lines * (k + 1)) ∧
        before.filterMap Sum.getRight? = ticks.take k) ∧
      reporting.result.2.emitted = lines.length ∧
      ∀ tick, ticks = List.replicate ticks.length tick →
        shown = interleave reporting (beat (.inr tick) ticks.length) := by
  intro reporting shown
  have hshown : shown = paced i.lines lines ticks := interleave_deliver_ticking i 0 lines ticks
  obtain ⟨hlines, hticks⟩ := filterMap_paced i.lines lines ticks
  refine ⟨hshown ▸ hlines, hshown ▸ hticks, fun k hk => ?_, ?_, fun tick htick => ?_⟩
  · obtain ⟨before, after, hsplit, hleft, hright⟩ := exists_paced_eq i.lines lines ticks hk
    refine ⟨before, after, hshown.trans hsplit, ?_, hright⟩
    rw [hleft, List.length_take, Nat.min_comm]
  · have hemitted := emitted_deliver (fresh i) (emitAll (lines.map (Sum.inl : ε → ε ⊕ τ)))
    rw [events_emitAll, List.length_map] at hemitted
    exact hemitted.trans (Nat.zero_add _)
  · have hbeat : ticks.map (Sum.inr : τ → ε ⊕ τ) = List.replicate ticks.length (.inr tick) :=
      (congrArg (List.map Sum.inr) htick).trans List.map_replicate
    rw [← ticking_replicate, ← hbeat]

/-- Of three lines and an interval of two, the first tick has two lines before it, and the second
one, for which the interval is not filled, all three. -/
theorem lines_before_tick_unfilled :
    let shown := interleave ((fresh ⟨2, by decide⟩).deliver (emitAll (["a", "b", "c"].map .inl)))
      (ticking ([0, 1, 2].map .inr))
    (∃ before after, shown = before ++ .inr 0 :: after ∧
      (before.filterMap Sum.getLeft?).length = 2) ∧
    ∃ before after, shown = before ++ .inr 1 :: after ∧
      (before.filterMap Sum.getLeft?).length = 3 := by
  obtain ⟨-, -, hticks, -⟩ := lines_before_tick ⟨2, by decide⟩ ["a", "b", "c"] [0, 1, 2]
  obtain ⟨before, after, hfirst, hlines, -⟩ := hticks 0 (by decide)
  obtain ⟨before', after', hsecond, hlines', -⟩ := hticks 1 (by decide)
  exact ⟨⟨before, after, hfirst, hlines⟩, before', after', hsecond, hlines'⟩

end Reporter

end CallAttribution
