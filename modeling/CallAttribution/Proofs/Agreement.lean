import CallAttribution.Config
import CallAttribution.Proofs.Ranking
import Mathlib.Data.List.Forall2

/-!
# Decisions in two contexts

An engine compares nothing but the confidences of what its heuristics find. If each of them is
equally confident in two contexts, then the engine decides for the same heuristic in both, and the
candidates of the two decisions are related as those of the findings are. For a configured engine
it is enough to relate the three kinds of evidence.
-/

namespace CallAttribution

theorem rel_map {α α' β β' : Type} {S : α → α' → Prop} {T : β → β' → Prop} {f : α → β}
    {f' : α' → β'} (hf : ∀ a a', S a a' → T (f a) (f' a')) {o : Option α} {o' : Option α'}
    (h : Option.Rel S o o') : Option.Rel T (o.map f) (o'.map f') := by
  cases h with
  | none => exact .none
  | some h => exact .some (hf _ _ h)

/-- Equally confident findings with related candidates. -/
structure Finding.Agrees (S : List Candidate → List Candidate → Prop) (f f' : Finding) : Prop where
  confidence : f.confidence = f'.confidence
  candidates : S f.candidates f'.candidates

/-- Decisions for one heuristic, equally confident, whose candidates are related in the way that
goes with this heuristic. -/
structure Decision.Agrees (R : String → List Candidate → List Candidate → Prop)
    (d d' : Decision) : Prop where
  heuristic : d.heuristic = d'.heuristic
  confidence : d.confidence = d'.confidence
  candidates : R d.heuristic d.candidates d'.candidates

variable {R : String → List Candidate → List Candidate → Prop} {c c' : Context}

namespace Engine

/-- Answers of one heuristic whose findings agree. -/
structure Answer.Agrees (R : String → List Candidate → List Candidate → Prop)
    (a a' : Answer) : Prop where
  heuristic : a.heuristic = a'.heuristic
  finding : a.finding.Agrees (R a.heuristic) a'.finding

/-- Which of two answers is better depends on their confidences alone. -/
theorem rel_better {best best' : Option Answer} (hb : Option.Rel (Answer.Agrees R) best best')
    {a a' : Answer} (ha : a.Agrees R a') :
    Option.Rel (Answer.Agrees R) (better best a) (better best' a') := by
  cases hb with
  | none => exact .some ha
  | some hb =>
    rw [better, better, hb.finding.confidence, ha.finding.confidence]
    split
    · exact .some ha
    · exact .some hb

theorem rel_foldl_better {best best' : Option Answer} {as as' : List Answer}
    (hb : Option.Rel (Answer.Agrees R) best best') (h : List.Forall₂ (Answer.Agrees R) as as') :
    Option.Rel (Answer.Agrees R) (as.foldl better best) (as'.foldl better best') := by
  induction h generalizing best best' with
  | nil => exact hb
  | cons ha _ ih => exact ih (rel_better hb ha)

theorem forall₂_answers {e : Engine} (h : ∀ g ∈ e.heuristics,
    Option.Rel (Finding.Agrees (R g.name)) (g.apply c) (g.apply c')) :
    List.Forall₂ (Answer.Agrees R) (e.answers c) (e.answers c') := by
  have hself : List.Forall₂ (fun g g' => g = g' ∧ g ∈ e.heuristics) e.heuristics e.heuristics :=
    List.forall₂_same.mpr fun g hg => ⟨rfl, hg⟩
  refine List.rel_filterMap ?_ hself
  rintro g _ ⟨rfl, hg⟩
  exact rel_map (fun _ _ hf => ⟨rfl, hf⟩) (h g hg)

theorem rel_result {e : Engine} (h : ∀ g ∈ e.heuristics,
    Option.Rel (Finding.Agrees (R g.name)) (g.apply c) (g.apply c')) :
    Option.Rel (Decision.Agrees R) (e.resolve c).result (e.resolve c').result := by
  rw [result_resolve, result_resolve, decide, decide]
  refine rel_map (fun a a' ha => ?_) (rel_foldl_better .none (forall₂_answers h))
  exact ⟨ha.heuristic, congrArg Int.ofNat ha.finding.confidence, ha.finding.candidates⟩

end Engine

namespace Heuristic

/-- The candidate at the end of a chain of assignments. -/
def chained? (addressPrefix : String) (c : Context) : Option Candidate :=
  (recordedTarget? addressPrefix c).map (chainCandidate c)

theorem rel_variableChain {addressPrefix : String}
    (h : Option.Rel (fun t t' => R Builtin.variableChain.name [t] [t'])
      (chained? addressPrefix c) (chained? addressPrefix c')) :
    Option.Rel (Finding.Agrees (R Builtin.variableChain.name))
      ((variableChain addressPrefix).apply c) ((variableChain addressPrefix).apply c') := by
  have happly (c : Context) : (variableChain addressPrefix).apply c =
      (chained? addressPrefix c).map fun t => ⟨[t], 100, by simp, by decide⟩ := by
    rw [chained?, Option.map_map]
    rfl
  rw [happly, happly]
  exact rel_map (fun _ _ ht => ⟨rfl, ht⟩) h

/-- A heuristic whose confidence goes by the number of its candidates finds something as confident
where there are as many. -/
theorem rel_counted {S : List Candidate → List Candidate → Prop} {confidence : Nat → Nat}
    (hle : ∀ n, confidence n ≤ maxConfidence) {found found' : List Candidate}
    (hlength : found.length = found'.length) (h : S found found') :
    Option.Rel (Finding.Agrees S)
      (if h : found = [] then none else some ⟨found, confidence found.length, h, hle _⟩)
      (if h : found' = [] then none else some ⟨found', confidence found'.length, h, hle _⟩) := by
  by_cases hnil : found = []
  · have hnil' : found' = [] := by simpa [hnil, eq_comm] using hlength
    rw [dif_pos hnil, dif_pos hnil']
    exact .none
  · have hnil' : found' ≠ [] := fun hnil' => hnil (by simpa [hnil'] using hlength)
    rw [dif_neg hnil, dif_neg hnil']
    exact .some ⟨congrArg confidence hlength, h⟩

end Heuristic

open Heuristic in
/-- A configured engine decides alike where its three kinds of evidence are related. -/
theorem Config.rel_result (cfg : Config)
    (hlength : ∀ name cs cs', R name cs cs' → cs.length = cs'.length)
    (hchain : Option.Rel (fun t t' => R Builtin.variableChain.name [t] [t'])
      (chained? cfg.addressPrefix c) (chained? cfg.addressPrefix c'))
    (hnamed : R Builtin.interfaceName.name (namedCandidates c) (namedCandidates c'))
    (hexposing : R Builtin.functionSignature.name
      (exposingContracts c.snapshot c.call.calledFunction)
      (exposingContracts c'.snapshot c'.call.calledFunction)) :
    Option.Rel (Decision.Agrees R) (cfg.engine.resolve c).result
      (cfg.engine.resolve c').result := by
  refine Engine.rel_result fun g hg => ?_
  obtain ⟨b, -, rfl⟩ := List.mem_map.mp hg
  cases b with
  | variableChain => exact rel_variableChain hchain
  | interfaceName => exact rel_counted namingConfidence_le (hlength _ _ _ hnamed) hnamed
  | functionSignature => exact rel_counted exposureConfidence_le (hlength _ _ _ hexposing) hexposing

end CallAttribution
