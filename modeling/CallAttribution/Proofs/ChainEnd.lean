import CallAttribution.Heuristic.Chain
import CallAttribution.Proofs.Table
import Mathlib.Combinatorics.Pigeonhole
import Mathlib.Logic.Relation

/-!
# Where chains of assignments end

A variable has one source at most, so the chain that begins with it either ends at a variable
without a source or runs into a cycle. As many steps as there are targets find the end if there is
one: a walk that has not come to an end by then has passed more targets than there are, so one of
them twice, and goes round from there on.
-/

namespace CallAttribution

namespace Assignments

open Relation

variable {m : Assignments} {v w : String} {n : Nat}

/-- The second variable is the source of the first. -/
def Links (m : Assignments) (v w : String) : Prop :=
  m.get? v = some w

/-- The chain from the first variable comes to the second, which has no source. -/
structure EndsAt (m : Assignments) (v w : String) : Prop where
  reached : ReflTransGen m.Links v w
  sourceless : m.get? w = none

/-- The chain from a variable comes to one from which it comes back. -/
def Cyclic (m : Assignments) (v : String) : Prop :=
  ∃ w, ReflTransGen m.Links v w ∧ TransGen m.Links w w

/-- The variables that have a source. -/
def targets (m : Assignments) : Finset String :=
  m.keys.toFinset

theorem mem_targets_iff : v ∈ m.targets ↔ m.get? v ≠ none := by
  rw [targets, List.mem_toFinset, Table.mem_keys_iff, Option.isSome_iff_ne_none]

theorem follow_of_sourceless (h : m.get? v = none) (n : Nat) : m.follow n v = v := by
  cases n with
  | zero => rfl
  | succ n => rw [follow, h]

theorem follow_of_links (h : m.Links v w) (n : Nat) : m.follow (n + 1) v = m.follow n w := by
  unfold Links at h
  rw [follow, h]

/-- A walk may be interrupted and taken up again. -/
theorem follow_add (m : Assignments) (a b : Nat) (v : String) :
    m.follow (a + b) v = m.follow b (m.follow a v) := by
  induction a generalizing v with
  | zero => rw [Nat.zero_add, follow]
  | succ a ih =>
    rw [Nat.add_right_comm]
    cases h : m.get? v with
    | none => rw [follow_of_sourceless h, follow_of_sourceless h, follow_of_sourceless h]
    | some w => rw [follow_of_links h, follow_of_links h, ih]

/-- A walk that has come to the end stays there. -/
theorem follow_of_le {k : Nat} (h : m.get? (m.follow n v) = none) (hle : n ≤ k) :
    m.follow k v = m.follow n v := by
  obtain ⟨d, rfl⟩ := Nat.exists_eq_add_of_le hle
  rw [follow_add, follow_of_sourceless h]

/-- The walks from a variable come to the same variables as its chain. -/
theorem reflTransGen_links_iff : ReflTransGen m.Links v w ↔ ∃ n, m.follow n v = w := by
  constructor
  · intro h
    induction h using ReflTransGen.head_induction_on with
    | refl => exact ⟨0, rfl⟩
    | head hlink _ ih =>
      obtain ⟨n, hn⟩ := ih
      exact ⟨n + 1, (follow_of_links hlink n).trans hn⟩
  · rintro ⟨n, rfl⟩
    induction n generalizing v with
    | zero => exact .refl
    | succ n ih =>
      cases h : m.get? v with
      | none =>
        rw [follow_of_sourceless h]
      | some s =>
        rw [follow_of_links h]
        exact .head h ih

theorem endsAt_iff : m.EndsAt v w ↔ ∃ n, m.follow n v = w ∧ m.get? w = none := by
  constructor
  · intro h
    obtain ⟨n, hn⟩ := reflTransGen_links_iff.mp h.reached
    exact ⟨n, hn, h.sourceless⟩
  · rintro ⟨n, hn, hw⟩
    exact ⟨reflTransGen_links_iff.mpr ⟨n, hn⟩, hw⟩

theorem follow_mul (h : m.follow n w = w) (rounds : Nat) : m.follow (n * rounds) w = w := by
  induction rounds with
  | zero => rfl
  | succ rounds ih => rw [Nat.mul_succ, follow_add, ih, h]

/-- Where a walk comes back it never ends. -/
theorem get?_follow_of_return (h : m.follow (n + 1) w = w) (hw : m.get? w ≠ none) (k : Nat) :
    m.get? (m.follow k w) ≠ none := by
  intro hend
  have hround : m.follow ((n + 1) * k) w = w := follow_mul h k
  have hstay := follow_of_le hend (Nat.le_mul_of_pos_left k n.succ_pos)
  rw [← hstay, hround] at hend
  exact hw hend

theorem Cyclic.get?_follow (h : m.Cyclic v) (k : Nat) : m.get? (m.follow k v) ≠ none := by
  obtain ⟨w, hreach, hround⟩ := h
  obtain ⟨i, rfl⟩ := reflTransGen_links_iff.mp hreach
  obtain ⟨s, hlink, hback⟩ := TransGen.head'_iff.mp hround
  obtain ⟨n, hn⟩ := reflTransGen_links_iff.mp hback
  have hreturn := (follow_of_links hlink n).trans hn
  have hsource : m.get? (m.follow i v) ≠ none := Option.ne_none_iff_exists'.mpr ⟨s, hlink⟩
  intro hend
  -- the walk would have ended before it goes round once more
  have hround := get?_follow_of_return hreturn hsource k
  rw [← follow_add, follow_of_le hend (Nat.le_add_left k i)] at hround
  exact hround hend

/-- A walk of more steps than there are targets passes a variable twice. -/
theorem exists_return (hsize : m.targets.card ≤ n) (h : m.get? (m.follow n v) ≠ none) :
    ∃ i d, m.get? (m.follow i v) ≠ none ∧ m.follow (d + 1) (m.follow i v) = m.follow i v := by
  have hpassed : ∀ i ∈ Finset.range (n + 1), m.follow i v ∈ m.targets := by
    intro i hi
    rw [Finset.mem_range] at hi
    rw [mem_targets_iff]
    intro hend
    rw [follow_of_le hend (Nat.le_of_lt_succ hi)] at h
    exact h hend
  have hcard : m.targets.card < (Finset.range (n + 1)).card := by
    rw [Finset.card_range]
    exact Nat.lt_succ_of_le hsize
  obtain ⟨i, hi, j, hj, hne, heq⟩ :=
    Finset.exists_ne_map_eq_of_card_lt_of_maps_to hcard hpassed
  wlog hlt : i < j generalizing i j
  · exact this j hj i hi hne.symm heq.symm (Nat.lt_of_le_of_ne (Nat.le_of_not_lt hlt) hne.symm)
  obtain ⟨d, rfl⟩ := Nat.exists_eq_add_of_lt hlt
  refine ⟨i, d, mem_targets_iff.mp (hpassed i hi), ?_⟩
  rw [← follow_add, ← Nat.add_assoc]
  exact heq.symm

/-- Running out of steps means a cycle. -/
theorem cyclic_iff (hsize : m.targets.card ≤ n) : m.Cyclic v ↔ m.get? (m.follow n v) ≠ none := by
  constructor
  · exact fun h => h.get?_follow n
  · intro h
    obtain ⟨i, d, hsource, hreturn⟩ := exists_return hsize h
    obtain ⟨s, hlink⟩ := Option.ne_none_iff_exists'.mp hsource
    refine ⟨m.follow i v, reflTransGen_links_iff.mpr ⟨i, rfl⟩, TransGen.head'_iff.mpr ?_⟩
    refine ⟨s, hlink, reflTransGen_links_iff.mpr ⟨d, ?_⟩⟩
    rw [← follow_of_links hlink, hreturn]

/-- A chain ends where it is not cyclic. -/
theorem exists_endsAt_iff : (∃ w, m.EndsAt v w) ↔ ¬ m.Cyclic v := by
  constructor
  · rintro ⟨w, hw⟩ hcyclic
    obtain ⟨n, rfl, hend⟩ := endsAt_iff.mp hw
    exact hcyclic.get?_follow n hend
  · intro h
    rw [cyclic_iff le_rfl, not_not] at h
    exact ⟨_, endsAt_iff.mpr ⟨_, rfl, h⟩⟩

/-- Enough steps lead to the end. -/
theorem EndsAt.follow_eq (h : m.EndsAt v w) (hsize : m.targets.card ≤ n) : m.follow n v = w := by
  have hend : m.get? (m.follow n v) = none := by
    have hcyclic := exists_endsAt_iff.mp ⟨w, h⟩
    rwa [cyclic_iff hsize, not_not] at hcyclic
  obtain ⟨k, rfl, hk⟩ := endsAt_iff.mp h
  -- both walks have ended, so neither changes when it goes on for as long as the other took
  rw [← follow_of_le hend (Nat.le_add_right n k), ← follow_of_le hk (Nat.le_add_left k n)]

/-- With no fewer steps than there are targets a walk comes to a variable without a source exactly
if the chain has an end, which is then this variable. A chain without an end is cyclic, and no walk
along it comes to a variable without a source. Walks can be joined, and a walk with a limit below 1
goes nowhere. So the heuristic finds the end of every chain among ten targets or fewer. -/
theorem follow_finds_end :
    (∀ (m : Assignments) (v : String) (limit : Int), m.targets.card ≤ limit →
      (m.get? (m.followWithin limit v) = none ↔ ∃ w, m.EndsAt v w) ∧
      (∀ w, m.EndsAt v w → m.followWithin limit v = w) ∧
      ((¬ ∃ w, m.EndsAt v w) ↔ m.Cyclic v) ∧
      ((¬ ∃ w, m.EndsAt v w) → ∀ more ≥ limit, m.get? (m.followWithin more v) ≠ none)) ∧
    (∀ (m : Assignments) (v : String) (a b : Nat),
      m.followWithin (a + b) v = m.followWithin b (m.followWithin a v)) ∧
    (∀ (m : Assignments) (v : String) (limit : Int), limit ≤ 0 → m.followWithin limit v = v) ∧
    ∀ (c : Context) (w : String), c.assignments.targets.card ≤ 10 →
      c.assignments.EndsAt c.call.storageVariable w → Heuristic.root c = w := by
  refine ⟨fun m v limit hsize => ?_, fun m v a b => ?_, fun m v limit hlimit => ?_,
    fun c w hsize hw => hw.follow_eq hsize⟩
  · have hsteps : m.targets.card ≤ limit.toNat := by omega
    refine ⟨?_, fun w hw => hw.follow_eq hsteps, ?_, fun hno more _ => ?_⟩
    · rw [exists_endsAt_iff, cyclic_iff hsteps, not_not, followWithin]
    · rw [exists_endsAt_iff, not_not]
    · rw [exists_endsAt_iff, not_not] at hno
      exact hno.get?_follow more.toNat
  · unfold followWithin
    rw [← Int.natCast_add, Int.toNat_natCast, Int.toNat_natCast, Int.toNat_natCast, follow_add]
  · rw [followWithin, Int.toNat_of_nonpos hlimit, follow]

/-- Four targets, of which three are on the way into a cycle and round it. -/
theorem follow_finds_end_tail :
    let m : Assignments := [("x", "y"), ("y", "z"), ("z", "y"), ("a", "b")]
    m.EndsAt "a" "b" ∧ m.followWithin 4 "a" = "b" ∧ m.Cyclic "x" ∧
      ∀ more ≥ 4, m.get? (m.followWithin more "x") ≠ none := by
  intro m
  have hends : m.EndsAt "a" "b" := endsAt_iff.mpr ⟨1, by decide, by decide⟩
  have hsize : (m.targets.card : Int) ≤ 4 := by decide
  obtain ⟨-, hfound, -, -⟩ := follow_finds_end.1 m "a" 4 hsize
  obtain ⟨hstops, -, hcyclic, hgoes⟩ := follow_finds_end.1 m "x" 4 hsize
  have hno : ¬ ∃ w, m.EndsAt "x" w := fun h => absurd (hstops.mpr h) (by decide)
  exact ⟨hends, hfound "b" hends, hcyclic.mp hno, hgoes hno⟩

end Assignments

end CallAttribution
