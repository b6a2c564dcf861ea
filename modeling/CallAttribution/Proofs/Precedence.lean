import CallAttribution.Proofs.Ranking
import Mathlib.Tactic.SplitIfs

/-!
# Which heuristic prevails

Seen from an engine, the winning answer is that of the heuristic that prevails: none is more
confident, and all that were registered before it are less confident. So one more heuristic changes
a decision only if it is strictly more confident, and where one heuristic is more confident than
all others the order of registration does not matter.
-/

namespace CallAttribution.Engine

/-- The heuristic answers with the greatest confidence, and no heuristic that was registered before
it is as confident. -/
structure Prevails (hs : List Heuristic) (c : Context) (h : Heuristic) (f : Finding) : Prop where
  answers : h.apply c = some f
  greatest : ∀ g ∈ hs, ∀ x ∈ g.apply c, x.confidence ≤ f.confidence
  earliest : ∃ before after, hs = before ++ h :: after ∧
    ∀ g ∈ before, ∀ x ∈ g.apply c, x.confidence < f.confidence

variable {as : List Answer} {a w : Answer}

/-- All answers before the first of the most confident ones are less confident. -/
theorem FirstBest.split (h : FirstBest as w) :
    ∃ before after, as = before ++ w :: after ∧
      ∀ a ∈ before, a.finding.confidence < w.finding.confidence := by
  obtain ⟨-, before, after, rfl, hbefore⟩ := List.find?_eq_some_iff_append.mp h.first
  refine ⟨before, after, rfl, fun a ha => ?_⟩
  have hle := h.confidence_le a (by simp [ha])
  have hne : a.finding.confidence ≠ w.finding.confidence := by simpa using hbefore a ha
  omega

theorem firstBest_of_split {before after : List Answer}
    (hbefore : ∀ a ∈ before, a.finding.confidence < w.finding.confidence)
    (hafter : ∀ a ∈ after, a.finding.confidence ≤ w.finding.confidence) :
    FirstBest (before ++ w :: after) w where
  confidence_le := by
    intro a ha
    rcases List.mem_append.mp ha with ha | ha
    · exact Nat.le_of_lt (hbefore a ha)
    · rcases List.mem_cons.mp ha with rfl | ha
      · exact Nat.le_refl _
      · exact hafter a ha
  first := List.find?_eq_some_iff_append.mpr ⟨by simp, before, after, rfl, fun a ha => by
    simpa using Nat.ne_of_lt (hbefore a ha)⟩

theorem FirstBest.unique (h : FirstBest as w) (k : FirstBest as a) : w = a := by
  have hconf : w.finding.confidence = a.finding.confidence :=
    Nat.le_antisymm (k.confidence_le w h.mem) (h.confidence_le a k.mem)
  have hfirst := h.first
  rw [hconf, k.first] at hfirst
  exact (Option.some.inj hfirst).symm

theorem leader?_eq_some_iff : leader? as = some w ↔ FirstBest as w := by
  refine ⟨firstBest_of_leader?, fun h => ?_⟩
  cases hw : leader? as with
  | none =>
    have hmem := h.mem
    rw [leader?_eq_none_iff.mp hw] at hmem
    cases hmem
  | some a => rw [h.unique (firstBest_of_leader? hw)]

variable {e : Engine} {c : Context} {h g : Heuristic} {f : Finding} {d : Decision}

theorem answer?_eq_some_iff :
    answer? c h = some a ↔ h.apply c = some a.finding ∧ a.heuristic = h.name := by
  obtain ⟨name, x⟩ := a
  rw [answer?, Option.map_eq_some_iff]
  constructor
  · rintro ⟨y, hy, heq⟩
    cases heq
    exact ⟨hy, rfl⟩
  · rintro ⟨hy, rfl⟩
    exact ⟨x, hy, rfl⟩

theorem forall_answers_iff {hs : List Heuristic} {p : Nat → Prop} :
    (∀ a ∈ hs.filterMap (answer? c), p a.finding.confidence) ↔
      ∀ g ∈ hs, ∀ x ∈ g.apply c, p x.confidence := by
  simp only [List.mem_filterMap, answer?, Option.map_eq_some_iff]
  constructor
  · intro h g hg x hx
    exact h ⟨g.name, x⟩ ⟨g, hg, x, hx, rfl⟩
  · rintro h _ ⟨g, hg, x, hx, rfl⟩
    exact h g hg x hx

/-- The heuristic that prevails is the one whose answer is the first of the most confident. -/
theorem firstBest_answers_iff {hs : List Heuristic} :
    FirstBest (hs.filterMap (answer? c)) a ↔
      ∃ h f, Prevails hs c h f ∧ a = ⟨h.name, f⟩ := by
  constructor
  · intro hb
    obtain ⟨as, bs, hsplit, hless⟩ := hb.split
    obtain ⟨front, back, rfl, rfl, hback⟩ := List.filterMap_eq_append_iff.mp hsplit
    obtain ⟨silent, h, after, rfl, hsilent, ha, -⟩ := List.filterMap_eq_cons_iff.mp hback
    obtain ⟨happly, hname⟩ := answer?_eq_some_iff.mp ha
    have hgreatest := (forall_answers_iff (p := (· ≤ a.finding.confidence))).mp hb.confidence_le
    refine ⟨h, a.finding, ⟨happly, hgreatest, front ++ silent, after, by simp, ?_⟩, ?_⟩
    · intro g hg x hx
      rcases List.mem_append.mp hg with hg | hg
      · exact (forall_answers_iff (p := (· < a.finding.confidence))).mp hless g hg x hx
      -- a heuristic without an answer
      · have hnone := hsilent g hg
        rw [answer?, Option.map_eq_none_iff, Option.mem_def.mp hx] at hnone
        cases hnone
    · rw [← hname]
  · rintro ⟨h, f, hp, rfl⟩
    obtain ⟨before, after, rfl, hbefore⟩ := hp.earliest
    have ha : answer? c h = some ⟨h.name, f⟩ := answer?_eq_some_iff.mpr ⟨hp.answers, rfl⟩
    rw [List.filterMap_append, List.filterMap_cons_some ha]
    have hafter : ∀ g ∈ after, ∀ x ∈ g.apply c, x.confidence ≤ f.confidence := fun g hg =>
      hp.greatest g (by simp [hg])
    exact firstBest_of_split ((forall_answers_iff (p := (· < f.confidence))).mpr hbefore)
      ((forall_answers_iff (p := (· ≤ f.confidence))).mpr hafter)

/-- An engine decides by the answer of the heuristic that prevails. -/
theorem result_eq_some_iff : (e.resolve c).result = some d ↔
    ∃ h f, Prevails e.heuristics c h f ∧ d = ⟨h.name, f.candidates, f.confidence⟩ := by
  rw [result_resolve, decide, Option.map_eq_some_iff]
  simp only [leader?_eq_some_iff, answers, firstBest_answers_iff]
  constructor
  · rintro ⟨_, ⟨h, f, hp, rfl⟩, rfl⟩
    exact ⟨h, f, hp, rfl⟩
  · rintro ⟨h, f, hp, rfl⟩
    exact ⟨_, ⟨h, f, hp, rfl⟩, rfl⟩

theorem result_eq_none_iff :
    (e.resolve c).result = none ↔ ∀ h ∈ e.heuristics, h.apply c = none := by
  rw [result_resolve, decide, Option.map_eq_none_iff, leader?_eq_none_iff, answers,
    List.filterMap_eq_nil_iff]
  simp only [answer?, Option.map_eq_none_iff]

theorem register_of_fresh (hg : g.name ∉ e.names) :
    ∃ e', e.register g = .ok e' ∧ e'.heuristics = e.heuristics ++ [g] := by
  rw [register, dif_neg hg]
  exact ⟨_, rfl, rfl⟩

/-- One more answer replaces the decision if it is strictly more confident. -/
theorem result_of_append {e' : Engine} (he : e'.heuristics = e.heuristics ++ [g]) :
    (e'.resolve c).result = match g.apply c with
      | none => (e.resolve c).result
      | some f =>
        if ∀ d ∈ (e.resolve c).result, d.confidence < f.confidence then
          some ⟨g.name, f.candidates, f.confidence⟩
        else (e.resolve c).result := by
  simp only [result_resolve, decide, answers, he, List.filterMap_append]
  cases hf : g.apply c with
  | none => simp [answer?, hf]
  | some f =>
    have ha : [g].filterMap (answer? c) = [⟨g.name, f⟩] := by simp [answer?, hf]
    rw [ha, leader?_append_singleton]
    cases leader? (e.heuristics.filterMap (answer? c)) with
    | none => simp [better, Answer.toDecision]
    | some best =>
      by_cases hlt : best.finding.confidence < f.confidence
      · simp [better, Answer.toDecision, hlt]
      · simp [better, Answer.toDecision, hlt]

/-- A heuristic that is more confident than all others prevails wherever it is registered. -/
theorem prevails_of_unrivalled (hh : h ∈ e.heuristics) (hf : h.apply c = some f)
    (hrivals : ∀ g ∈ e.heuristics, g ≠ h → ∀ x ∈ g.apply c, x.confidence < f.confidence) :
    Prevails e.heuristics c h f where
  answers := hf
  greatest := by
    intro g hg x hx
    by_cases hgh : g = h
    · rw [hgh, hf] at hx
      exact (Option.some.inj hx) ▸ Nat.le_refl _
    · exact Nat.le_of_lt (hrivals g hg hgh x hx)
  earliest := by
    obtain ⟨before, after, hsplit⟩ := List.append_of_mem hh
    refine ⟨before, after, hsplit, fun g hg => hrivals g (by simp [hsplit, hg]) ?_⟩
    -- no other heuristic of the engine has the same name
    rintro rfl
    have hdistinct := e.distinct
    rw [hsplit, List.map_append, List.map_cons, List.nodup_append] at hdistinct
    exact hdistinct.2.2 _ (List.mem_map_of_mem hg) _ (by simp) rfl

/-- The ranking law. One more heuristic takes the decision over exactly if it answers with strictly
more confidence than the former decision had. An engine has no decision exactly if no heuristic
answers; otherwise it decides by the answer of the first of the most confident heuristics. If one
heuristic is more confident than all others, every order of registration gives the same decision. -/
theorem decision_of_prevailing (e : Engine) (c : Context) :
    (∀ g : Heuristic, g.name ∉ e.names →
      ∃ e', e.register g = .ok e' ∧ e'.heuristics = e.heuristics ++ [g] ∧
        (e'.resolve c).result = match g.apply c with
          | none => (e.resolve c).result
          | some f =>
            if ∀ d ∈ (e.resolve c).result, d.confidence < f.confidence then
              some ⟨g.name, f.candidates, f.confidence⟩
            else (e.resolve c).result) ∧
      ((e.resolve c).result = none ↔ ∀ h ∈ e.heuristics, h.apply c = none) ∧
      (∀ d, (e.resolve c).result = some d ↔ ∃ h f, Prevails e.heuristics c h f ∧
        d = ⟨h.name, f.candidates, f.confidence⟩) ∧
      ∀ h ∈ e.heuristics, ∀ f ∈ h.apply c,
        (∀ g ∈ e.heuristics, g ≠ h → ∀ x ∈ g.apply c, x.confidence < f.confidence) →
        ∀ e' : Engine, e'.heuristics.Perm e.heuristics →
          (e'.resolve c).result = (e.resolve c).result := by
  refine ⟨fun g hg => ?_, result_eq_none_iff, fun d => result_eq_some_iff, ?_⟩
  · obtain ⟨e', hregister, he⟩ := register_of_fresh hg
    exact ⟨e', hregister, he, result_of_append he⟩
  · intro h hh f hf hrivals e' hperm
    have hhere := prevails_of_unrivalled hh hf hrivals
    have hthere : Prevails e'.heuristics c h f :=
      prevails_of_unrivalled (hperm.mem_iff.mpr hh) hf fun g hg => hrivals g (hperm.mem_iff.mp hg)
    rw [result_eq_some_iff.mpr ⟨h, f, hhere, rfl⟩, result_eq_some_iff.mpr ⟨h, f, hthere, rfl⟩]

/-- Two heuristics tie and a third one is silent. One more answer with the confidence of the tie
changes nothing, one with more takes over, and then does so from every place. -/
theorem decision_of_prevailing_tie :
    let tied : Finding := ⟨[⟨"0xA", none⟩], 40, by simp, by decide⟩
    let higher : Finding := ⟨[⟨"0xA", none⟩], 41, by simp, by decide⟩
    let fixed := fun (name : String) (f : Option Finding) => (⟨name, "", fun _ => f⟩ : Heuristic)
    let first := fixed "first" (some tied)
    let silent := fixed "silent" none
    let second := fixed "second" (some tied)
    let even := fixed "even" (some tied)
    let ahead := fixed "ahead" (some higher)
    let e : Engine := ⟨[first, silent, second], by decide⟩
    let c : Context := ⟨⟨"v", "IToken", "f"⟩, "0x1", ⟨[], []⟩, []⟩
    (e.resolve c).result = some ⟨"first", [⟨"0xA", none⟩], 40⟩ ∧
      (∃ e', e.register even = .ok e' ∧
        (e'.resolve c).result = some ⟨"first", [⟨"0xA", none⟩], 40⟩) ∧
      ∃ e', e.register ahead = .ok e' ∧
        (e'.resolve c).result = some ⟨"ahead", [⟨"0xA", none⟩], 41⟩ ∧
        ∀ e'' : Engine, e''.heuristics.Perm e'.heuristics →
          (e''.resolve c).result = some ⟨"ahead", [⟨"0xA", none⟩], 41⟩ := by
  intro tied higher fixed first silent second even ahead e c
  obtain ⟨hregister, -, -, -⟩ := decision_of_prevailing e c
  have hfirst : (e.resolve c).result = some ⟨"first", [⟨"0xA", none⟩], 40⟩ := by
    rw [result_resolve]
    rfl
  obtain ⟨e₁, he₁, -, hd₁⟩ := hregister even (by decide)
  obtain ⟨e₂, he₂, hs₂, hd₂⟩ := hregister ahead (by decide)
  have hahead : (e₂.resolve c).result = some ⟨"ahead", [⟨"0xA", none⟩], 41⟩ := by
    rw [hd₂, hfirst]
    rfl
  obtain ⟨-, -, -, horder⟩ := decision_of_prevailing e₂ c
  refine ⟨hfirst, ⟨e₁, he₁, by rw [hd₁, hfirst]; rfl⟩, e₂, he₂, hahead, fun e'' hperm => ?_⟩
  rw [horder ahead (by simp [hs₂]) higher rfl ?_ e'' hperm, hahead]
  intro g hg hne x hx
  rw [hs₂] at hg
  simp only [e, List.cons_append, List.nil_append, List.mem_cons, List.not_mem_nil, or_false] at hg
  rcases hg with rfl | rfl | rfl | rfl
  · cases hx
    decide
  · cases hx
  · cases hx
    decide
  · exact absurd rfl hne

end CallAttribution.Engine
