import CallAttribution.Engine
import Mathlib.Data.List.Induction
import Mathlib.Data.List.Nodup

/-!
# Which answer wins

An engine sorts the answers it was given by confidence and then by place, and takes the head. As
the places rise in the order of registration, this is what one pass over the answers would find
that keeps the best one so far and replaces it only by one that is strictly more confident: the
first of the most confident answers.
-/

namespace CallAttribution.Engine

/-- What a heuristic answers, under its name. -/
def answer? (c : Context) (h : Heuristic) : Option Answer :=
  (h.apply c).map fun f => ⟨h.name, f⟩

/-- The answer of each heuristic that has one, in the order of registration. -/
def answers (e : Engine) (c : Context) : List Answer :=
  e.heuristics.filterMap (answer? c)

/-- The more confident of two answers, the first one if they are equal. -/
def better : Option Answer → Answer → Option Answer
  | none, a => some a
  | some best, a => if best.finding.confidence < a.finding.confidence then some a else some best

/-- What is left of the answers when each one is compared with the best before it. -/
def leader? (as : List Answer) : Option Answer :=
  as.foldl better none

def decide (e : Engine) (c : Context) : Option Decision :=
  (leader? (e.answers c)).map Answer.toDecision

/-- The first of the most confident answers. -/
structure FirstBest (as : List Answer) (a : Answer) : Prop where
  confidence_le : ∀ x ∈ as, x.finding.confidence ≤ a.finding.confidence
  first : as.find? (fun x => x.finding.confidence == a.finding.confidence) = some a

variable {as : List Answer} {a b w : Answer}

theorem FirstBest.mem (h : FirstBest as a) : a ∈ as :=
  List.mem_of_find?_eq_some h.first

/-- An answer in front that is less confident changes nothing. -/
theorem FirstBest.cons_of_lt (h : FirstBest as a)
    (hb : b.finding.confidence < a.finding.confidence) : FirstBest (b :: as) a where
  confidence_le := by
    simpa [Nat.le_of_lt hb] using h.confidence_le
  first := by
    rw [List.find?_cons_of_neg (by simp [Nat.ne_of_lt hb])]
    exact h.first

/-- An answer that is no more confident than the one in front of it changes nothing. -/
theorem FirstBest.insert_of_le (h : FirstBest (b :: as) a)
    (hx : w.finding.confidence ≤ b.finding.confidence) : FirstBest (b :: w :: as) a where
  confidence_le := by
    have hb := h.confidence_le b (by simp)
    have has : ∀ x ∈ as, x.finding.confidence ≤ a.finding.confidence := fun x hx =>
      h.confidence_le x (by simp [hx])
    simpa [hb, Nat.le_trans hx hb] using has
  first := by
    have hb := h.confidence_le b (by simp)
    have hf := h.first
    simp only [List.find?_cons] at hf ⊢
    split at hf
    · exact hf
    · next hne =>
      have hw : (w.finding.confidence == a.finding.confidence) = false := by
        simp only [beq_eq_false_iff_ne] at hne ⊢
        omega
      rw [hw]
      exact hf

theorem firstBest_of_foldl (h : as.foldl better (some b) = some w) : FirstBest (b :: as) w := by
  induction as generalizing b with
  | nil =>
    obtain rfl := Option.some.inj h
    exact ⟨by simp, by simp⟩
  | cons x as ih =>
    rw [List.foldl_cons, better] at h
    split at h
    · next hlt =>
      have hw := ih h
      exact hw.cons_of_lt (Nat.lt_of_lt_of_le hlt (hw.confidence_le x (by simp)))
    · next hlt => exact (ih h).insert_of_le (Nat.le_of_not_lt hlt)

theorem isSome_foldl_better : (as.foldl better (some b)).isSome := by
  induction as generalizing b with
  | nil => rfl
  | cons x as ih =>
    rw [List.foldl_cons, better]
    split <;> exact ih

theorem leader?_eq_none_iff : leader? as = none ↔ as = [] := by
  cases as with
  | nil => simp [leader?]
  | cons x as =>
    have h : (leader? (x :: as)).isSome := @isSome_foldl_better as x
    constructor
    · intro hn
      simp [hn] at h
    · intro hn
      cases hn

theorem firstBest_of_leader? (h : leader? as = some w) : FirstBest as w := by
  cases as with
  | nil => cases h
  | cons x as => exact firstBest_of_foldl h

theorem leader?_append_singleton (as : List Answer) (a : Answer) :
    leader? (as ++ [a]) = better (leader? as) a := by
  rw [leader?, List.foldl_append]
  rfl

variable {rs : List Ranked} {r s t : Ranked} {c : Context} {hs : List Heuristic} {place : Nat}

theorem Ranked.precedes_iff : r.precedes s = true ↔
    s.answer.finding.confidence < r.answer.finding.confidence ∨
      r.answer.finding.confidence = s.answer.finding.confidence ∧ r.place ≤ s.place := by
  simp only [Ranked.precedes, Bool.or_eq_true, Bool.and_eq_true, decide_eq_true_eq, beq_iff_eq]
  simp only [Ranked.key]
  omega

theorem Ranked.precedes_trans (hrs : r.precedes s = true) (hst : s.precedes t = true) :
    r.precedes t = true := by
  rw [precedes_iff] at *
  omega

theorem Ranked.precedes_total (r s : Ranked) : (r.precedes s || s.precedes r) = true := by
  rw [Bool.or_eq_true, precedes_iff, precedes_iff]
  omega

theorem Ranked.place_eq_of_precedes (hrs : r.precedes s = true) (hsr : s.precedes r = true) :
    r.place = s.place := by
  rw [precedes_iff] at *
  omega

/-- The head of the ranking is among the answers and goes before all of them. -/
theorem exists_head_of_winner? (h : winner? rs = some a) :
    ∃ r ∈ rs, r.answer = a ∧ ∀ s ∈ rs, r.precedes s = true := by
  obtain ⟨r, hr, rfl⟩ := Option.map_eq_some_iff.mp h
  obtain ⟨tail, hsorted⟩ := List.head?_eq_some_iff.mp hr
  have hperm := List.mergeSort_perm rs Ranked.precedes
  have hpairwise := @List.pairwise_mergeSort _ Ranked.precedes
    (fun _ _ _ => Ranked.precedes_trans) Ranked.precedes_total rs
  rw [hsorted] at hperm hpairwise
  refine ⟨r, hperm.mem_iff.mp List.mem_cons_self, rfl, fun s hs => ?_⟩
  rcases List.mem_cons.mp (hperm.mem_iff.mpr hs) with rfl | hs
  · exact Ranked.precedes_iff.mpr (.inr ⟨rfl, Nat.le_refl _⟩)
  · exact List.rel_of_pairwise_cons hpairwise hs

theorem winner?_eq_none_iff : winner? rs = none ↔ rs = [] := by
  have hlength := (List.mergeSort_perm rs Ranked.precedes).length_eq
  rw [winner?, Option.map_eq_none_iff, List.head?_eq_none_iff, ← List.length_eq_zero_iff, hlength,
    List.length_eq_zero_iff]

/-- Where no two places are the same, an answer that goes before all is the head. -/
theorem winner?_of_precedes (hplaces : rs.Pairwise (·.place < ·.place)) (hr : r ∈ rs)
    (hfirst : ∀ s ∈ rs, r.precedes s = true) : winner? rs = some r.answer := by
  cases hw : winner? rs with
  | none =>
    rw [winner?_eq_none_iff.mp hw] at hr
    cases hr
  | some a =>
    obtain ⟨s, hs, rfl, hhead⟩ := exists_head_of_winner? hw
    have hplace := Ranked.place_eq_of_precedes (hhead r hr) (hfirst s hs)
    have hnodup : (rs.map (·.place)).Nodup := List.pairwise_map.mpr (hplaces.imp Nat.ne_of_lt)
    rw [List.inj_on_of_nodup_map hnodup hs hr hplace]

/-- One more answer, at a later place, becomes the head if it is strictly more confident. -/
theorem winner?_append_singleton (hplaces : (rs ++ [r]).Pairwise (·.place < ·.place)) :
    winner? (rs ++ [r]) = better (winner? rs) r.answer := by
  obtain ⟨-, -, hlast⟩ := List.pairwise_append.mp hplaces
  cases hw : winner? rs with
  | none =>
    obtain rfl := winner?_eq_none_iff.mp hw
    simp [winner?, better]
  | some a =>
    obtain ⟨s, hs, rfl, hhead⟩ := exists_head_of_winner? hw
    -- the last place loses every tie, so only more confidence takes the lead
    have hplace : s.place < r.place := hlast s hs r (by simp)
    rw [better]
    split
    · next hlt =>
      refine winner?_of_precedes hplaces (by simp) fun t ht => ?_
      rw [List.mem_append, List.mem_singleton] at ht
      rcases ht with ht | rfl
      · exact Ranked.precedes_trans (Ranked.precedes_iff.mpr (.inl hlt)) (hhead t ht)
      · exact Ranked.precedes_iff.mpr (.inr ⟨rfl, Nat.le_refl _⟩)
    · next hle =>
      refine winner?_of_precedes hplaces (by simp [hs]) fun t ht => ?_
      rw [List.mem_append, List.mem_singleton] at ht
      rcases ht with ht | rfl
      · exact hhead t ht
      · rw [Ranked.precedes_iff]
        omega

/-- Sorting and taking the head is keeping the best answer in one pass. -/
theorem winner?_eq_leader? (hplaces : rs.Pairwise (·.place < ·.place)) :
    winner? rs = leader? (rs.map (·.answer)) := by
  induction rs using List.reverseRecOn with
  | nil => exact winner?_eq_none_iff.mpr rfl
  | append_singleton rs r ih =>
    rw [winner?_append_singleton hplaces, ih (List.pairwise_append.mp hplaces).1, List.map_append,
      List.map_singleton, leader?_append_singleton]

/-- The answers of heuristics under their places, which are counted from a place on. A silent
heuristic leaves a gap. -/
def ranked (c : Context) : Nat → List Heuristic → List Ranked
  | _, [] => []
  | place, h :: hs => ((answer? c h).map (Ranked.mk place)).toList ++ ranked c (place + 1) hs

theorem le_place_of_mem_ranked (hr : r ∈ ranked c place hs) : place ≤ r.place := by
  induction hs generalizing place with
  | nil => cases hr
  | cons h hs ih =>
    rw [ranked, List.mem_append, Option.mem_toList, Option.map_eq_some_iff] at hr
    rcases hr with ⟨a, -, rfl⟩ | hr
    · exact Nat.le_refl _
    · exact Nat.le_of_succ_le (ih hr)

theorem pairwise_ranked (c : Context) (place : Nat) (hs : List Heuristic) :
    (ranked c place hs).Pairwise (·.place < ·.place) := by
  induction hs generalizing place with
  | nil => exact List.Pairwise.nil
  | cons h hs ih =>
    rw [ranked]
    cases answer? c h with
    | none => exact ih (place + 1)
    | some a => exact List.pairwise_cons.mpr ⟨fun r hr => le_place_of_mem_ranked hr, ih (place + 1)⟩

theorem map_answer_ranked (c : Context) (place : Nat) (hs : List Heuristic) :
    (ranked c place hs).map (·.answer) = hs.filterMap (answer? c) := by
  induction hs generalizing place with
  | nil => rfl
  | cons h hs ih =>
    rw [ranked, List.map_append, ih, List.filterMap_cons]
    cases answer? c h <;> rfl

theorem result_consult (c : Context) (before : List Ranked) (place : Nat) (hs : List Heuristic) :
    (consult c before place hs).result = before ++ ranked c place hs := by
  induction hs generalizing before place with
  | nil => simp [consult, Routine.result, ranked]
  | cons h hs ih =>
    rw [consult, ranked, answer?]
    split
    · next hf => simpa [Routine.result, hf] using ih before (place + 1)
    · next f hf => simp [Routine.result, hf, ih]

/-- The head of the ranking is the leader among the answers. -/
theorem winner?_consult (e : Engine) (c : Context) :
    winner? (consult c [] 0 e.heuristics).result = leader? (e.answers c) := by
  rw [result_consult, List.nil_append, winner?_eq_leader? (pairwise_ranked c 0 e.heuristics),
    map_answer_ranked, answers]

/-- What an engine decides on the way is what its answers decide. -/
theorem result_resolve (e : Engine) (c : Context) : (e.resolve c).result = e.decide c := by
  rw [resolve, Routine.result, Routine.result_bind, winner?_consult, decide]
  cases leader? (e.answers c) <;> rfl

end CallAttribution.Engine
