import CallAttribution.Proofs.Course
import CallAttribution.Proofs.Document
import CallAttribution.Proofs.Precedence
import CallAttribution.Proofs.Table

/-!
# What a summary counts

A summary takes its numbers from one table, which grows record by record and keeps its names in
increasing order. Looked up from outside, this table has the number of records that each heuristic
has won, and no name that has won none. So the sum over the table, the flags of the records and the
presence of decisions all come to the same number.
-/

namespace CallAttribution

/-- The decision of the record names this heuristic. -/
def Record.wonBy (name : String) (r : Record) : Bool :=
  r.decision.any fun d => d.heuristic == name

namespace Summary

/-- The table has the number of records that each heuristic has won, under the names of those that
have won any. -/
structure Tallies (t : Table Int) (records : List Record) : Prop where
  distinct : t.keys.Nodup
  counted : ∀ name, t.get? name =
    if records.countP (Record.wonBy name) = 0 then none
    else some (records.countP (Record.wonBy name) : Int)

/-- The summary has the numbers that are computed from the records: how many there are, how many
have a decision and how many have none, and how many each heuristic has won. -/
structure Describes (s : Summary) (records : List Record) : Prop where
  total : s.total = records.length
  resolved : s.resolved = records.countP fun r => r.decision.isSome
  unresolved : s.unresolved = records.countP fun r => r.decision.isNone
  byHeuristic : Tallies s.byHeuristic records

/-- A name before all names of a table is not in it. -/
theorem get?_eq_none_of_lt {name k : String} {n : Int} {t : Table Int}
    (h : Increasing ((k, n) :: t)) (hlt : name < k) : Table.get? ((k, n) :: t) name = none := by
  obtain ⟨hk, -⟩ := List.pairwise_cons.mp h
  have hnot : name ∉ Table.keys ((k, n) :: t) := by
    intro hm
    rcases List.mem_cons.mp hm with hm | hm
    · exact String.ne_of_lt hlt hm
    · exact String.ne_of_lt (String.lt_trans hlt (hk name hm)) rfl
  simpa [Table.mem_keys_iff] using hnot

/-- In a table whose names increase, counting a name changes what is found under it and nothing
else. -/
theorem get?_count (name x : String) {t : Table Int} (h : Increasing t) :
    (count name t).get? x =
      if name = x then some ((t.get? x).getD 0 + 1) else t.get? x := by
  -- counting follows the order of the names, so a name that is passed over is not in the rest
  induction t with
  | nil => rfl
  | cons e t ih =>
    obtain ⟨k, n⟩ := e
    have hrest := ih (List.pairwise_cons.mp h).2
    unfold count
    by_cases hlt : name < k
    · rw [if_pos hlt, Table.get?]
      by_cases hx : name = x
      · rw [if_pos hx, if_pos hx, ← hx, get?_eq_none_of_lt h hlt]
        rfl
      · rw [if_neg hx, if_neg hx]
    · rw [if_neg hlt]
      by_cases hk : k = name
      · rw [if_pos hk, ← hk, Table.get?, Table.get?]
        by_cases hx : k = x
        · simp [hx]
        · simp [hx]
      · rw [if_neg hk, Table.get?, Table.get?, hrest]
        by_cases hx : name = x
        · simp [← hx, hk]
        · simp [hx]

/-- Counting a name adds one to the sum. -/
theorem sumCounts_count (name : String) (t : Table Int) :
    sumCounts (count name t) = sumCounts t + 1 := by
  induction t with
  | nil => rfl
  | cons e t ih =>
    obtain ⟨k, n⟩ := e
    unfold count
    split_ifs
    all_goals simp only [sumCounts, List.foldr_cons] at ih ⊢
    all_goals omega

theorem tally_cons_none {r : Record} (h : r.decision = none) (records : List Record) :
    tally (r :: records) = tally records := by
  simp only [tally, List.filterMap_cons, h]

theorem tally_cons_some {r : Record} {d : Decision} (h : r.decision = some d)
    (records : List Record) : tally (r :: records) = count d.heuristic (tally records) := by
  simp only [tally, List.filterMap_cons, h, List.foldr_cons]

theorem get?_tally (records : List Record) (x : String) :
    (tally records).get? x =
      if records.countP (Record.wonBy x) = 0 then none
      else some (records.countP (Record.wonBy x) : Int) := by
  induction records with
  | nil => rfl
  | cons r records ih =>
    cases hd : r.decision with
    | none => simp [tally_cons_none hd, ih, Record.wonBy, hd]
    | some d =>
      rw [tally_cons_some hd, get?_count _ _ (increasing_tally records), ih]
      by_cases hx : d.heuristic = x
      · have hwon : (r :: records).countP (Record.wonBy x) = records.countP (Record.wonBy x) + 1 :=
          List.countP_cons_of_pos (by simp [Record.wonBy, hd, hx])
        rw [if_pos hx, hwon, if_neg (Nat.succ_ne_zero _)]
        by_cases hzero : records.countP (Record.wonBy x) = 0
        · simp [hzero]
        · simp [hzero]
      · simp [Record.wonBy, hd, hx]

theorem tallies_tally (records : List Record) : Tallies (tally records) records :=
  ⟨nodup_keys_tally records, get?_tally records⟩

theorem sumCounts_tally (records : List Record) :
    sumCounts (tally records) = records.countP fun r => r.decision.isSome := by
  induction records with
  | nil => rfl
  | cons r records ih =>
    cases hd : r.decision with
    | none => simp [tally_cons_none hd, ih, hd]
    | some d => simp [tally_cons_some hd, sumCounts_count, ih, hd]

theorem sumCounts_eq_sum (t : Table Int) : sumCounts t = (t.map Prod.snd).sum := by
  induction t with
  | nil => rfl
  | cons e t ih =>
    rw [List.map_cons, List.sum_cons, ← ih]
    rfl

/-- Either a record has a decision or it has none. -/
theorem countP_isNone (records : List Record) :
    (records.countP fun r => r.decision.isNone : Int) =
      records.length - records.countP fun r => r.decision.isSome := by
  induction records with
  | nil => rfl
  | cons r records ih =>
    cases hd : r.decision <;> simp [hd] <;> omega

/-- Tables of distinct names in which the same is found have the same sum. -/
theorem Tallies.sumCounts_eq {t : Table Int} {records : List Record} (h : Tallies t records) :
    sumCounts t = records.countP fun r => r.decision.isSome := by
  have hperm : t.Perm (tally records) := by
    have hmem (t : Table Int) (ht : Tallies t records) (e : String × Int) :
        e ∈ t ↔ t.get? e.1 = some e.2 :=
      ⟨fun hm => Table.get?_of_mem ht.distinct hm, Table.mem_of_get?⟩
    refine (List.perm_ext_iff_of_nodup (List.Nodup.of_map _ h.distinct)
      (List.Nodup.of_map _ (nodup_keys_tally records))).mpr fun e => ?_
    rw [hmem t h, hmem _ (tallies_tally records), h.counted, get?_tally]
  have : LeftCommutative fun (e : String × Int) (n : Int) => e.2 + n :=
    ⟨fun a b n => by omega⟩
  rw [← sumCounts_tally]
  exact hperm.foldr_eq 0

/-- The summary of records describes them. -/
theorem describes_ofRecords (records : List Record) (cancelled : Bool) :
    (ofRecords records cancelled).Describes records where
  total := rfl
  resolved := sumCounts_tally records
  unresolved := by
    rw [countP_isNone, ← sumCounts_tally]
    rfl
  byHeuristic := tallies_tally records

end Summary

namespace Engine

variable {e : Engine} {s : Snapshot} {b : CallBatch} {cancel : Option CancelRule}
  {reporter : Option Reporter} {r : Record}

/-- Cancelled or not, a batch has made each of its records for one of its call sites. -/
theorem exists_recordFor_of_mem_outcome (h : r ∈ (e.outcome s b cancel reporter).records) :
    ∃ c ∈ b.contexts s, r = e.recordFor c := by
  rw [outcome_eq] at h
  cases cancel with
  | none =>
    rw [resolveFrom_none] at h
    obtain ⟨c, hc, rfl⟩ := List.mem_map.mp h
    exact ⟨c, hc, rfl⟩
  | some rule =>
    rw [resolveFrom_some] at h
    obtain ⟨c, hc, rfl⟩ := List.mem_map.mp h
    exact ⟨c, List.mem_of_mem_take hc, rfl⟩

/-- A decision names a registered heuristic. -/
theorem heuristic_mem_names {c : Context} {d : Decision} (h : e.decide c = some d) :
    d.heuristic ∈ e.names := by
  rw [← result_resolve] at h
  obtain ⟨g, f, hg, rfl⟩ := result_eq_some_iff.mp h
  obtain ⟨before, after, hsplit, -⟩ := hg.earliest
  unfold names
  rw [hsplit]
  simp

/-- Every name that a summary counts is that of a registered heuristic. -/
theorem mem_names_of_tally {name : String} {n : Int}
    (h : (Summary.tally (e.outcome s b cancel reporter).records).get? name = some n) :
    0 < n ∧ name ∈ e.names := by
  rw [Summary.get?_tally] at h
  split_ifs at h with hzero
  cases h
  constructor
  · omega
  · have hpos := Nat.pos_of_ne_zero hzero
    obtain ⟨r, hr, hwon⟩ := List.countP_pos_iff.mp hpos
    obtain ⟨c, -, rfl⟩ := exists_recordFor_of_mem_outcome hr
    have hdecided : (e.decide c).any (fun d => d.heuristic == name) = true := hwon
    obtain ⟨d, hd, hname⟩ := (Option.any_eq_true _ _).mp hdecided
    exact beq_iff_eq.mp hname ▸ heuristic_mem_names hd

end Engine

end CallAttribution
