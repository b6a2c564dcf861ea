import CallAttribution.Config
import CallAttribution.Proofs.Course
import Mathlib.Algebra.Order.Floor.Div

/-!
# Cancellation

A rule for stopping is asked before each call site and may answer as it likes, by the number of the
poll and by the lines handed out so far. Whatever it answers, the batch comes to a prefix of the
whole batch that ends between two call sites, in both modes of delivery: the first poll that answers
yes decides how long the prefix is, and a wish to stop that comes up while the last call site is
being resolved is not heard any more.
-/

namespace CallAttribution

/-- Stop as soon as so many lines have been handed out. -/
def CancelRule.afterLines (m : Nat) : CancelRule :=
  fun _ lines => m ≤ lines.length

namespace Engine

/-- With the rule, a batch comes to its first `k` call sites: their records and their lines are
those of the whole batch, one more poll than that is made unless no call site is left, and the
batch counts as cancelled if call sites are left. -/
structure StopsAfter (e : Engine) (s : Snapshot) (b : CallBatch) (rule : CancelRule)
    (reporter : Option Reporter) (k : Nat) : Prop where
  records : (e.outcome s b (some rule) reporter).records =
    (e.outcome s b none reporter).records.take k
  trace : e.trace s b (some rule) reporter =
    (e.trace s b none reporter).take (k * (e.heuristics.length + 2))
  polls : (e.outcome s b (some rule) reporter).polls = min (k + 1) b.callCount
  cancelled : (e.outcome s b (some rule) reporter).cancelled = true ↔ k < b.callCount

variable (e : Engine) (s : Snapshot) (b : CallBatch) (rule : CancelRule)
  (reporter : Option Reporter)

/-- What a rule answers to the poll before a call site of this number, counted from 0, if it has
not stopped the batch before. -/
def answerBefore (i : Nat) : Bool :=
  rule (i + 1) ((e.trace s b none reporter).take (i * e.linesPerCall))

theorem stopsAfter_noesBefore :
    e.StopsAfter s b rule reporter
      (noesBefore (e.answerBefore s b rule reporter) b.callCount) := by
  have hanswer (i : Nat) : rule (0 + i + 1)
      ([] ++ ((b.contexts s).take i).flatMap fun c => (e.resolve c).events) =
      e.answerBefore s b rule reporter i := by
    rw [answerBefore, take_trace_none, Nat.zero_add, List.nil_append]
  have hrun := e.resolveFrom_some rule 0 [] (b.contexts s)
  simp only [hanswer, length_contexts] at hrun
  refine ⟨?_, ?_, ?_, ?_⟩
  · rw [outcome_eq, hrun, outcome_none, List.map_take]
  · refine Eq.trans ?_ (e.take_trace_none s b reporter _).symm
    rw [trace_eq, hrun]
    simp only [List.filterMap_flatMap, lines_resolvePlain]
  · rw [outcome_eq, hrun, Nat.zero_add]
  · rw [outcome_eq, hrun]
    exact decide_eq_true_iff

/-- So many lines are reached within the call site of this number, rounded up. -/
theorem answerBefore_afterLines (m : Nat) {i : Nat} (hi : i < b.callCount) :
    e.answerBefore s b (.afterLines m) reporter i = true ↔ m ⌈/⌉ e.linesPerCall ≤ i := by
  have hpos : 0 < e.linesPerCall := Nat.succ_pos _
  have hle : i * e.linesPerCall ≤ b.callCount * e.linesPerCall :=
    Nat.mul_le_mul_right _ (Nat.le_of_lt hi)
  rw [ceilDiv_le_iff_le_mul hpos, answerBefore, CancelRule.afterLines, decide_eq_true_iff,
    List.length_take, length_trace_none, Nat.min_eq_left hle, Nat.mul_comm]

/-- A rule that is content with the lines before the last call site never answers yes in time. -/
theorem answerBefore_eq_false
    (h : ∀ j lines, lines.length ≤ (b.callCount - 1) * e.linesPerCall → rule j lines = false)
    {i : Nat} (hi : i < b.callCount) : e.answerBefore s b rule reporter i = false := by
  refine h (i + 1) _ (Nat.le_trans (List.length_take_le _ _) ?_)
  exact Nat.mul_le_mul_right _ (by omega)

/-- Cancelling a batch keeps each call site whole and leaves a prefix of the whole batch. The whole
batch has one record and the same number of lines for each call site; with a rule for stopping it
comes to as many call sites as there are polls that answer no before the first one that answers
yes. In particular, a rule that stops after so many lines leaves the call site in which the last of
them is handed out complete, and a rule that is content until the last call site has begun does
not cancel anything. -/
theorem cancelled_batch_is_prefix :
    let whole := e.outcome s b none reporter
    let lines := e.trace s b none reporter
    let n := b.callCount
    let stride := e.heuristics.length + 2
    (whole.records.length = n ∧ lines.length = n * stride) ∧
      e.StopsAfter s b rule reporter
        (noesBefore (fun i => rule (i + 1) (lines.take (i * stride))) n) ∧
      (∀ m, e.StopsAfter s b (.afterLines m) reporter (min n (m ⌈/⌉ stride))) ∧
      ((∀ j shown, shown.length ≤ (n - 1) * stride → rule j shown = false) →
        (e.outcome s b (some rule) reporter).cancelled = false) := by
  intro whole lines n stride
  have hwhole : whole.records.length = n := e.length_records_none s b reporter
  have hlines : lines.length = n * stride := e.length_trace_none s b reporter
  have hstops := e.stopsAfter_noesBefore s b rule reporter
  refine ⟨⟨hwhole, hlines⟩, hstops, ?_, ?_⟩
  · intro m
    have hm := e.stopsAfter_noesBefore s b (.afterLines m) reporter
    rwa [noesBefore_of_threshold fun i => e.answerBefore_afterLines s b reporter m] at hm
  · intro h
    rw [noesBefore_eq_self fun i => e.answerBefore_eq_false s b rule reporter h] at hstops
    exact Bool.eq_false_iff.mpr fun hc => Nat.lt_irrefl n (hstops.cancelled.mp hc)

/-- Two callers and two call sites of five lines each. The wish to stop comes up at the first line
of the last call site, in the suspending mode with a reporter that was used before. -/
theorem cancelled_batch_is_prefix_late :
    let calls : CallBatch := ⟨[⟨"0x1", "", [⟨"v", "IToken", "f"⟩]⟩, ⟨"0x2", "", []⟩,
      ⟨"0x3", "", [⟨"w", "IToken", "g"⟩]⟩]⟩
    let e := Config.default.engine
    (∀ j (shown : List String), shown.length ≤ (calls.callCount - 1) * (e.heuristics.length + 2) →
      CancelRule.afterLines 6 j shown = false) ∧
      (e.outcome ⟨[], []⟩ calls (some (.afterLines 6)) (some ⟨⟨2, by decide⟩, 1, 7⟩)).cancelled =
        false := by
  intro calls e
  have hquiet : ∀ j (shown : List String),
      shown.length ≤ (calls.callCount - 1) * (e.heuristics.length + 2) →
      CancelRule.afterLines 6 j shown = false := by
    intro j shown hle
    have hfive : (calls.callCount - 1) * (e.heuristics.length + 2) = 5 := rfl
    rw [CancelRule.afterLines, decide_eq_false_iff_not]
    omega
  exact ⟨hquiet, (e.cancelled_batch_is_prefix ⟨[], []⟩ calls _ _).2.2.2 hquiet⟩

end Engine

end CallAttribution
