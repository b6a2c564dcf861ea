import CallAttribution.Artifact
import CallAttribution.Proofs.Ranking

/-!
# Modes of delivery

A batch is resolved in the plain mode or in the suspending one. The latter threads a reporter
through the call sites, gives way between lines and collects the records in reverse. None of this
shows: both modes ask the same questions, stop at the same call site, hand out the same lines and
log entries in one order and make the same records. Every record is consistent in itself, whatever
the engine and wherever it stopped.
-/

namespace CallAttribution

namespace Routine

variable {ε δ α : Type}

theorem events_relabel (f : ε → δ) (p : Routine ε α) :
    (p.relabel f).events = p.events.map f := by
  induction p with
  | done a => rfl
  | emit e p ih => simp [relabel, events, ih]
  | pause p ih => simpa [relabel, events] using ih

theorem result_relabel (f : ε → δ) (p : Routine ε α) : (p.relabel f).result = p.result := by
  induction p with
  | done a => rfl
  | emit e p ih => simpa [relabel, result] using ih
  | pause p ih => simpa [relabel, result] using ih

end Routine

theorem Reporter.result_deliver {ε α : Type} (r : Reporter) (p : Routine ε α) :
    (r.deliver p).result.1 = p.result := by
  induction p generalizing r with
  | done a => rfl
  | emit e p ih =>
    simp only [deliver]
    split <;> simp [Routine.result, ih]
  | pause p ih => simpa [deliver, Routine.result] using ih r

/-- A reporter counts what it delivers, wherever it gives way. -/
theorem Reporter.emitted_deliver {ε α : Type} (r : Reporter) (p : Routine ε α) :
    (r.deliver p).result.2.emitted = r.emitted + p.events.length := by
  induction p generalizing r with
  | done a => rfl
  | emit e p ih =>
    have hs := ih r.accept.1
    rw [accept_emitted] at hs
    simp only [deliver, Routine.events, List.length_cons]
    split <;> simp only [Routine.result, hs] <;> omega
  | pause p ih => simpa [deliver, Routine.result, Routine.events] using ih r

/-- A record that an engine can have made: it is of the version that is written, its flag tells
whether there is a decision, and the confidence is within its bounds. -/
structure Record.Consistent (r : Record) : Prop where
  version : r.version = schemaVersion
  resolved : r.resolved = r.decision.isSome
  confidence : ∀ d ∈ r.decision, 0 ≤ d.confidence ∧ d.confidence ≤ maxConfidence

namespace Engine

/-- The confidence of a decision is that of a finding. -/
theorem confidence_of_decide {e : Engine} {c : Context} {d : Decision} (h : e.decide c = some d) :
    0 ≤ d.confidence ∧ d.confidence ≤ maxConfidence := by
  obtain ⟨a, -, rfl⟩ := Option.map_eq_some_iff.mp h
  simpa [Answer.toDecision] using a.finding.confidence_le

theorem consistent_recordOf (e : Engine) (c : Context) :
    (recordOf c (e.resolve c).result).Consistent where
  version := rfl
  resolved := rfl
  confidence := by
    intro d hd
    rw [result_resolve] at hd
    exact confidence_of_decide hd

theorem consistent_of_mem_records {e : Engine} {cancel : Option CancelRule} {polls : Nat}
    {lines : List String} {cs : List Context} {r : Record}
    (h : r ∈ (e.resolveFrom cancel polls lines cs).2.records) : r.Consistent := by
  induction cs generalizing polls lines with
  | nil => cases h
  | cons c cs ih =>
    rw [resolveFrom] at h
    split at h
    · cases h
    · rcases List.mem_cons.mp h with rfl | h
      · exact consistent_recordOf e c
      · exact ih h

theorem events_resolveSuspending (e : Engine) (c : Context) (r : Reporter) :
    (e.resolveSuspending c r).events = (e.resolvePlain c).1 := by
  simp only [resolveSuspending, resolvePlain, Routine.events_bind, Reporter.events_deliver,
    Routine.events_relabel, Routine.events, Reporter.result_deliver, Routine.result_relabel]

theorem result_resolveSuspending (e : Engine) (c : Context) (r : Reporter) :
    (e.resolveSuspending c r).result.1 = (e.resolvePlain c).2 := by
  simp only [resolveSuspending, resolvePlain, Routine.result_bind, Routine.result,
    Reporter.result_deliver, Routine.result_relabel]

/-- The suspending mode puts the records that it is given, in their order, before those that the
plain mode makes from here. -/
theorem result_suspendFrom (e : Engine) (cancel : Option CancelRule) (polls : Nat)
    (lines : List String) (records : List Record) (r : Reporter) (cs : List Context) :
    (e.suspendFrom cancel polls lines records r cs).result.1 =
      let o := (e.resolveFrom cancel polls lines cs).2
      { o with records := records.reverse ++ o.records } := by
  induction cs generalizing polls lines records r with
  | nil => simp [suspendFrom, resolveFrom, Routine.result]
  | cons c cs ih =>
    rw [suspendFrom, resolveFrom]
    split
    · simp [Routine.result]
    · rw [Routine.result_bind, ih, events_resolveSuspending, result_resolveSuspending]
      simp

/-- Wherever the suspending mode gives way, it hands out what the plain mode does. -/
theorem events_suspendFrom (e : Engine) (cancel : Option CancelRule) (polls : Nat)
    (lines : List String) (records : List Record) (r : Reporter) (cs : List Context) :
    (e.suspendFrom cancel polls lines records r cs).events =
      (e.resolveFrom cancel polls lines cs).1 := by
  induction cs generalizing polls lines records r with
  | nil => rfl
  | cons c cs ih =>
    rw [suspendFrom, resolveFrom]
    split
    · rfl
    · rw [Routine.events_bind, ih, events_resolveSuspending]

/-- Of the events of a call site, the lines are those that its resolution hands out. -/
theorem lines_resolvePlain (e : Engine) (c : Context) :
    (e.resolvePlain c).1.filterMap (·.line?) = (e.resolve c).events := by
  have hentry : (decisionEntry c (e.resolve c).result).line? = none := by
    cases (e.resolve c).result <;> rfl
  have hlines : Event.line? ∘ Event.trace = some := rfl
  have hnone : [decisionEntry c (e.resolve c).result].filterMap (·.line?) = [] :=
    List.filterMap_cons_none hentry
  rw [resolvePlain, List.filterMap_append, List.filterMap_map, hnone, List.append_nil, hlines,
    List.filterMap_some]

theorem emitted_resolveSuspending (e : Engine) (c : Context) (r : Reporter) :
    (e.resolveSuspending c r).result.2.emitted =
      r.emitted + ((e.resolvePlain c).1.filterMap (·.line?)).length := by
  rw [lines_resolvePlain]
  simp only [resolveSuspending, Routine.result_bind, Routine.result, Reporter.emitted_deliver,
    Routine.events_relabel, List.length_map]

/-- The reporter is passed on from call site to call site and counts the lines of all of them. -/
theorem emitted_suspendFrom (e : Engine) (cancel : Option CancelRule) (polls : Nat)
    (lines : List String) (records : List Record) (r : Reporter) (cs : List Context) :
    (e.suspendFrom cancel polls lines records r cs).result.2.emitted =
      r.emitted + ((e.resolveFrom cancel polls lines cs).1.filterMap (·.line?)).length := by
  induction cs generalizing polls lines records r with
  | nil => rfl
  | cons c cs ih =>
    rw [suspendFrom, resolveFrom]
    split
    · rfl
    · rw [Routine.result_bind, ih, emitted_resolveSuspending, events_resolveSuspending]
      simp only [List.filterMap_append, List.length_append]
      omega

theorem result_suspendBatch (e : Engine) (s : Snapshot) (b : CallBatch)
    (cancel : Option CancelRule) (r : Reporter) :
    (e.suspendBatch s b cancel r).result.1 = (e.resolveBatch s b cancel).2 := by
  simp only [suspendBatch, Routine.result_bind, Routine.result]
  exact result_suspendFrom e cancel 0 [] [] r (b.contexts s)

theorem events_suspendBatch (e : Engine) (s : Snapshot) (b : CallBatch)
    (cancel : Option CancelRule) (r : Reporter) :
    (e.suspendBatch s b cancel r).events = (e.resolveBatch s b cancel).1 := by
  have hresult := result_suspendFrom e cancel 0 [] [] r (b.contexts s)
  simp only [suspendBatch, Routine.events_bind, events_suspendFrom, Routine.events, hresult]
  rfl

/-- The entry at the end of a batch is no line. -/
theorem lines_resolveBatch (e : Engine) (s : Snapshot) (b : CallBatch)
    (cancel : Option CancelRule) :
    (e.resolveBatch s b cancel).1.filterMap (·.line?) =
      (e.resolveFrom cancel 0 [] (b.contexts s)).1.filterMap (·.line?) := by
  have hlast (o : Outcome) : (outcomeEntry o).line? = none := by
    unfold outcomeEntry
    split <;> rfl
  simp [resolveBatch, hlast]

theorem emitted_suspendBatch (e : Engine) (s : Snapshot) (b : CallBatch)
    (cancel : Option CancelRule) (r : Reporter) :
    (e.suspendBatch s b cancel r).result.2.emitted =
      r.emitted + ((e.resolveBatch s b cancel).1.filterMap (·.line?)).length := by
  rw [lines_resolveBatch]
  simp only [suspendBatch, Routine.result_bind, Routine.result, emitted_suspendFrom]

/-- The suspending mode refines the plain one. With a new reporter of any interval it hands out
the same lines and log entries in the same order and has the same outcome, hence the same summary;
either outcome is written as the same files, and the reporter has counted every line. -/
theorem suspendBatch_refines_resolveBatch (e : Engine) (s : Snapshot) (b : CallBatch)
    (cancel : Option CancelRule) (i : Interval) :
    let p := e.suspendBatch s b cancel (.fresh i)
    let q := e.resolveBatch s b cancel
    p.events = q.1 ∧ p.result.1 = q.2 ∧ p.result.1.summary = q.2.summary ∧
      (∀ t dir, Artifact.write t dir p.result.1 = Artifact.write t dir q.2) ∧
      p.result.2.emitted = (q.1.filterMap (·.line?)).length := by
  intro p q
  have hresult : p.result.1 = q.2 := result_suspendBatch e s b cancel (.fresh i)
  have hemitted := emitted_suspendBatch e s b cancel (.fresh i)
  refine ⟨events_suspendBatch e s b cancel (.fresh i), hresult, ?_, ?_, ?_⟩
  · rw [hresult]
  · intro t dir
    rw [hresult]
  · rw [hemitted]
    exact Nat.zero_add _

/-- The outcome of a batch in the plain mode, or with a reporter in the suspending mode. -/
def outcome (e : Engine) (s : Snapshot) (b : CallBatch) (cancel : Option CancelRule) :
    Option Reporter → Outcome
  | none => (e.resolveBatch s b cancel).2
  | some r => (e.suspendBatch s b cancel r).result.1

/-- The lines that a batch hands out, in either mode, when nothing else runs. -/
def trace (e : Engine) (s : Snapshot) (b : CallBatch) (cancel : Option CancelRule) :
    Option Reporter → List String
  | none => (e.resolveBatch s b cancel).1.filterMap (·.line?)
  | some r => (e.suspendBatch s b cancel r).events.filterMap (·.line?)

theorem outcome_eq (e : Engine) (s : Snapshot) (b : CallBatch) (cancel : Option CancelRule)
    (reporter : Option Reporter) :
    e.outcome s b cancel reporter = (e.resolveFrom cancel 0 [] (b.contexts s)).2 := by
  cases reporter with
  | none => rfl
  | some r => exact result_suspendBatch e s b cancel r

theorem outcome_eq_plain (e : Engine) (s : Snapshot) (b : CallBatch) (cancel : Option CancelRule)
    (reporter : Option Reporter) : e.outcome s b cancel reporter = e.outcome s b cancel none :=
  (e.outcome_eq s b cancel reporter).trans (e.outcome_eq s b cancel none).symm

theorem trace_eq (e : Engine) (s : Snapshot) (b : CallBatch) (cancel : Option CancelRule)
    (reporter : Option Reporter) :
    e.trace s b cancel reporter =
      (e.resolveFrom cancel 0 [] (b.contexts s)).1.filterMap (·.line?) := by
  have hplain := lines_resolveBatch e s b cancel
  cases reporter with
  | none => exact hplain
  | some r => rw [trace, events_suspendBatch, hplain]

/-- Every record of an outcome is consistent, in either mode. -/
theorem consistent_of_mem_outcome {e : Engine} {s : Snapshot} {b : CallBatch}
    {cancel : Option CancelRule} {reporter : Option Reporter} {r : Record}
    (h : r ∈ (e.outcome s b cancel reporter).records) : r.Consistent := by
  rw [outcome_eq] at h
  exact consistent_of_mem_records h

end Engine

end CallAttribution
