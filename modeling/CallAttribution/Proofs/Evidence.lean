import CallAttribution.Config
import CallAttribution.Proofs.Ranking
import Mathlib.Data.Finset.Dedup

/-!
# Evidence and its priority

Three kinds of evidence speak for the target of a call: a chain of assignments that ends at a
recorded address, contracts that bear the name promised by the interface, and contracts that expose
the called function. `Evidence.decision` ranks them by a ladder that knows the candidates but
nothing of the order in which heuristics are registered.

The main statement says that every configured engine decides by this ladder. It rests on the fact
that two kinds of evidence never have the same confidence, however many candidates they have, so
that no tie is ever broken by the order of registration.
-/

namespace CallAttribution

/-- What speaks for the target of a call. -/
structure Evidence where
  chained : Option Candidate
  named : List Candidate
  exposing : List Candidate

namespace Evidence

/-- The contracts that satisfy a condition, in order of discovery. -/
def contractsWhere (s : Snapshot) (p : Entry → Bool) : List Candidate :=
  (s.entries.filter fun e => e.isContract && p e).map (·.toCandidate)

/-- The text that the first contract with this address has recorded under a name. -/
def recorded? (s : Snapshot) (address name : String) : Option String := do
  let e ← s.entries.find? fun e => e.isContract && Snapshot.sameAddress e.address address
  let values ← e.values
  let v ← values.get? name
  v.str?

/-- The recorded address at the end of the chain of assignments, under the name of the first entry
of any kind that has this address. There is none where the chain does not move or the recorded
text does not begin like an address. -/
def chain? (addressPrefix : String) (c : Context) : Option Candidate := do
  let r := c.assignments.follow Heuristic.maxHops c.call.storageVariable
  if r = c.call.storageVariable then none
  else
    let v ← recorded? c.snapshot c.caller r
    if addressPrefix.toList <+: v.toList then
      some ⟨v, (c.snapshot.entries.find? fun e => Snapshot.sameAddress e.address v).bind (·.name)⟩
    else none

/-- The contracts whose name is that of the interface without its leading capital I, letter case
aside. -/
def namesakes (c : Context) : List Candidate :=
  match c.call.interfaceType.toList with
  | 'I' :: d :: ds =>
    contractsWhere c.snapshot fun e =>
      e.name.any fun n => Text.lower n == Text.lower (String.ofList (d :: ds))
  | _ => []

/-- The contracts whose recorded interface exposes the called function. -/
def exposers (c : Context) : List Candidate :=
  contractsWhere c.snapshot fun e =>
    Signature.exposes (c.snapshot.interfaceOf e.address) c.call.calledFunction

/-- The evidence that a set of heuristics sees in a call. -/
def of (addressPrefix : String) (chosen : Finset Builtin) (c : Context) : Evidence where
  chained := if .variableChain ∈ chosen then chain? addressPrefix c else none
  named := if .interfaceName ∈ chosen then namesakes c else []
  exposing := if .functionSignature ∈ chosen then exposers c else []

/-- The ladder. A chain comes first; then few candidates count for more than many, and among equal
numbers above one a promised name counts for more than an exposed function. -/
def decision (x : Evidence) : Option Decision :=
  match x.chained with
  | some t => some ⟨"variable-chain", [t], 100⟩
  | none =>
    if x.exposing.length = 1 then some ⟨"function-signature", x.exposing, 99⟩
    else if x.named.length = 1 then some ⟨"interface-name", x.named, 90⟩
    else if x.named.length = 2 then some ⟨"interface-name", x.named, 60⟩
    else if x.exposing.length = 2 then some ⟨"function-signature", x.exposing, 50⟩
    else if 3 ≤ x.named.length then some ⟨"interface-name", x.named, 40⟩
    else if 3 ≤ x.exposing.length then some ⟨"function-signature", x.exposing, 30⟩
    else none

/-- The candidates and the confidence that one heuristic draws from the evidence. -/
def finding? (x : Evidence) : Builtin → Option (List Candidate × Nat)
  | .variableChain => x.chained.map fun t => ([t], 100)
  | .interfaceName =>
    if x.named = [] then none else some (x.named, Heuristic.namingConfidence x.named.length)
  | .functionSignature =>
    if x.exposing = [] then none
    else some (x.exposing, Heuristic.exposureConfidence x.exposing.length)

theorem namingConfidence_eq (n : Nat) :
    Heuristic.namingConfidence n = if n = 1 then 90 else if n = 2 then 60 else 40 := by
  by_cases h₁ : n = 1
  · subst h₁; rfl
  · by_cases h₂ : n = 2
    · subst h₂; rfl
    · simp [Heuristic.namingConfidence, stepConfidence, Heuristic.namingSteps, h₁, h₂,
        Ne.symm h₁, Ne.symm h₂]

theorem exposureConfidence_eq (n : Nat) :
    Heuristic.exposureConfidence n = if n = 1 then 99 else if n = 2 then 50 else 30 := by
  by_cases h₁ : n = 1
  · subst h₁; rfl
  · by_cases h₂ : n = 2
    · subst h₂; rfl
    · simp [Heuristic.exposureConfidence, stepConfidence, Heuristic.exposureSteps, h₁, h₂,
        Ne.symm h₁, Ne.symm h₂]

/-- The finding of `b` is stronger than that of every other heuristic. -/
def Dominates (x : Evidence) (b : Builtin) (found : List Candidate × Nat) : Prop :=
  x.finding? b = some found ∧
    ∀ b' ≠ b, ∀ other, x.finding? b' = some other → other.2 < found.2

variable {x : Evidence} {b b' : Builtin} {found other : List Candidate × Nat}

theorem finding?_variableChain :
    x.finding? .variableChain = some found ↔ ∃ t, x.chained = some t ∧ ([t], 100) = found :=
  Option.map_eq_some_iff

theorem finding?_interfaceName :
    x.finding? .interfaceName = some found ↔
      x.named ≠ [] ∧ (x.named, Heuristic.namingConfidence x.named.length) = found := by
  simp only [finding?]
  split <;> simp [*]

theorem finding?_functionSignature :
    x.finding? .functionSignature = some found ↔
      x.exposing ≠ [] ∧ (x.exposing, Heuristic.exposureConfidence x.exposing.length) = found := by
  simp only [finding?]
  split <;> simp [*]

/-- The confidences that the findings of a heuristic can have. -/
def steps : Builtin → List Nat
  | .variableChain => [100]
  | .interfaceName => [90, 60, 40]
  | .functionSignature => [99, 50, 30]

theorem confidence_mem_steps (h : x.finding? b = some found) : found.2 ∈ steps b := by
  cases b with
  | variableChain =>
    obtain ⟨t, -, rfl⟩ := finding?_variableChain.mp h
    simp [steps]
  | interfaceName =>
    obtain ⟨-, rfl⟩ := finding?_interfaceName.mp h
    simp only [namingConfidence_eq, steps]
    split_ifs <;> simp
  | functionSignature =>
    obtain ⟨-, rfl⟩ := finding?_functionSignature.mp h
    simp only [exposureConfidence_eq, steps]
    split_ifs <;> simp

theorem disjoint_steps (hb : b ≠ b') : (steps b).Disjoint (steps b') := by
  cases b <;> cases b' <;> simp_all [steps]

/-- Two heuristics never find something with the same confidence. -/
theorem confidence_ne (hb : b ≠ b') (h : x.finding? b = some found)
    (h' : x.finding? b' = some other) : found.2 ≠ other.2 := by
  intro he
  exact disjoint_steps hb (confidence_mem_steps h) (he ▸ confidence_mem_steps h')

theorem confidence_le (h : x.finding? b = some found) : found.2 ≤ 100 := by
  have hs := confidence_mem_steps h
  cases b <;> simp only [steps, List.mem_cons, List.not_mem_nil, or_false] at hs <;> omega

theorem Dominates.chained_eq_none (h : x.Dominates b found) (hb : b ≠ .variableChain) :
    x.chained = none := by
  cases hc : x.chained with
  | none => rfl
  | some t =>
    have hlt := h.2 .variableChain hb.symm _ (finding?_variableChain.mpr ⟨t, hc, rfl⟩)
    exact absurd (confidence_le h.1) (Nat.not_le_of_lt hlt)

/-- The ladder decides for the finding that dominates all others. -/
theorem Dominates.decision_eq (h : x.Dominates b found) :
    x.decision = some ⟨b.name, found.1, found.2⟩ := by
  cases b with
  | variableChain =>
    obtain ⟨t, ht, rfl⟩ := finding?_variableChain.mp h.1
    simp only [decision, ht]
    rfl
  | interfaceName =>
    have hc := h.chained_eq_none (by simp)
    obtain ⟨hne, rfl⟩ := finding?_interfaceName.mp h.1
    -- both confidences are steps of a table, so what is left compares two numbers of candidates
    have hm : x.exposing ≠ [] → Heuristic.exposureConfidence x.exposing.length <
        Heuristic.namingConfidence x.named.length := fun he =>
      h.2 .functionSignature (by simp) _ (finding?_functionSignature.mpr ⟨he, rfl⟩)
    simp only [namingConfidence_eq, exposureConfidence_eq, ← List.length_pos_iff] at hm hne
    simp only [decision, hc, namingConfidence_eq]
    grind [Builtin.name]
  | functionSignature =>
    have hc := h.chained_eq_none (by simp)
    obtain ⟨hne, rfl⟩ := finding?_functionSignature.mp h.1
    have hn : x.named ≠ [] → Heuristic.namingConfidence x.named.length <
        Heuristic.exposureConfidence x.exposing.length := fun he =>
      h.2 .interfaceName (by simp) _ (finding?_interfaceName.mpr ⟨he, rfl⟩)
    simp only [namingConfidence_eq, exposureConfidence_eq, ← List.length_pos_iff] at hn hne
    simp only [decision, hc, exposureConfidence_eq]
    grind [Builtin.name]

theorem decision_eq_none (h : ∀ b, x.finding? b = none) : x.decision = none := by
  have hc : x.chained = none := Option.map_eq_none_iff.mp (h .variableChain)
  have hn : x.named = [] := by
    by_contra hn
    simpa [h .interfaceName] using finding?_interfaceName.mpr ⟨hn, rfl⟩
  have hm : x.exposing = [] := by
    by_contra hm
    simpa [h .functionSignature] using finding?_functionSignature.mpr ⟨hm, rfl⟩
  simp [decision, hc, hn, hm]

theorem lowerAfter_ne_nil (before : List Char) (c : Char) (cs : List Char) :
    Text.lowerAfter before (c :: cs) ≠ [] := by
  simp only [Text.lowerAfter]
  split_ifs <;> simp

theorem lower_ne_empty (c : Char) (cs : List Char) :
    Text.lower (String.ofList (c :: cs)) ≠ "" := by
  intro h
  have hl := congrArg String.toList h
  rw [Text.lower, String.toList_ofList, String.toList_ofList] at hl
  exact lowerAfter_ne_nil [] c cs hl

/-- A contract without a name bears no promised name, since no name is empty in lower case. -/
theorem sameName_eq (o : Option String) (c : Char) (cs : List Char) :
    (Text.lower (o.getD "") == Text.lower (String.ofList (c :: cs))) =
      o.any fun n => Text.lower n == Text.lower (String.ofList (c :: cs)) := by
  cases o with
  | some n => rfl
  | none =>
    rw [Option.any_none, beq_eq_false_iff_ne]
    exact (lower_ne_empty c cs).symm

theorem contractsWhere_eq (s : Snapshot) (p : Entry → Bool) :
    (s.contracts.filter p).map (·.toCandidate) = contractsWhere s p := by
  rw [Snapshot.contracts, List.filter_filter, contractsWhere]
  simp only [Bool.and_comm]

theorem namedCandidates_eq (c : Context) : Heuristic.namedCandidates c = namesakes c := by
  rw [Heuristic.namedCandidates, Heuristic.promisedName?, namesakes]
  rcases c.call.interfaceType.toList with _ | ⟨a, _ | ⟨d, ds⟩⟩
  · rfl
  · simp
  · by_cases ha : a = 'I'
    · subst ha
      simp only [Heuristic.namedContracts, contractsWhere_eq, sameName_eq]
    · simp [ha]

theorem exposingContracts_eq (c : Context) :
    Heuristic.exposingContracts c.snapshot c.call.calledFunction = exposers c :=
  contractsWhere_eq _ _

theorem textValue?_eq (e : Entry) (name : String) :
    e.textValue? name = e.values.bind fun values => (values.get? name).bind Value.str? := by
  cases h : e.values with
  | none => simp [Entry.textValue?, h, Table.get?]
  | some t => simp [Entry.textValue?, h]

theorem recorded?_eq (s : Snapshot) (address name : String) :
    (s.findContract? address).bind (·.textValue? name) = recorded? s address name := by
  simp [Snapshot.findContract?, Snapshot.contracts, List.find?_filter, recorded?, textValue?_eq,
    bind]

theorem recordedTarget?_eq (p : String) (c : Context) :
    (Heuristic.recordedTarget? p c).map (Heuristic.chainCandidate c) = chain? p c := by
  simp only [Heuristic.recordedTarget?, Heuristic.root, recorded?_eq, chain?]
  split_ifs with hr
  · rfl
  · cases recorded? c.snapshot c.caller
      (c.assignments.follow Heuristic.maxHops c.call.storageVariable) with
    | none => rfl
    | some v =>
      by_cases hp : p.toList <+: v.toList
      · simp [Option.filter, hp, Heuristic.chainCandidate, Snapshot.find?]
      · simp [Option.filter, hp]

/-- What a heuristic finds is what it draws from the evidence, as long as it is one of those that
were chosen. -/
theorem finding?_of (p : String) (chosen : Finset Builtin) (c : Context) (b : Builtin) :
    (of p chosen c).finding? b =
      if b ∈ chosen then
        ((b.toHeuristic p).apply c).map fun f => (f.candidates, f.confidence)
      else none := by
  cases b with
  | variableChain =>
    simp only [finding?, of, Builtin.toHeuristic, Heuristic.variableChain]
    split
    · rw [← recordedTarget?_eq]
      simp
      rfl
    · rfl
  | interfaceName =>
    simp only [finding?, of, Builtin.toHeuristic, Heuristic.interfaceName, namedCandidates_eq]
    split
    · split <;> simp [*]
    · rfl
  | functionSignature =>
    simp only [finding?, of, Builtin.toHeuristic, Heuristic.functionSignature, exposingContracts_eq]
    split
    · split <;> simp [*]
    · rfl

/-- The answers of a configured engine are the findings of the heuristics that were chosen. -/
theorem mem_answers {cfg : Config} {c : Context} {a : Engine.Answer} :
    a ∈ cfg.engine.answers c ↔
      ∃ b ∈ cfg.heuristics.order, a.heuristic = b.name ∧
        (b.toHeuristic cfg.addressPrefix).apply c = some a.finding := by
  simp only [Engine.answers, Engine.answer?, Config.engine, Engine.ofBuiltins, List.mem_filterMap,
    List.mem_map, Option.map_eq_some_iff]
  constructor
  · rintro ⟨_, ⟨b, hb, rfl⟩, f, hf, rfl⟩
    exact ⟨b, hb, Builtin.name_toHeuristic _ b, hf⟩
  · rintro ⟨b, hb, hn, hf⟩
    refine ⟨_, ⟨b, hb, rfl⟩, a.finding, hf, ?_⟩
    rw [Builtin.name_toHeuristic, ← hn]

theorem finding?_of_answer {cfg : Config} {c : Context} {a : Engine.Answer}
    (ha : a ∈ cfg.engine.answers c) :
    ∃ b, a.heuristic = b.name ∧ (of cfg.addressPrefix cfg.heuristics.order.toFinset c).finding? b =
      some (a.finding.candidates, a.finding.confidence) := by
  obtain ⟨b, hb, hn, hf⟩ := mem_answers.mp ha
  refine ⟨b, hn, ?_⟩
  rw [finding?_of, if_pos (List.mem_toFinset.mpr hb), hf]
  rfl

theorem exists_answer_of_finding? {cfg : Config} {c : Context} {b : Builtin}
    {found : List Candidate × Nat}
    (h : (of cfg.addressPrefix cfg.heuristics.order.toFinset c).finding? b = some found) :
    ∃ a ∈ cfg.engine.answers c, a.finding.confidence = found.2 := by
  rw [finding?_of] at h
  split at h
  · next hb =>
    obtain ⟨f, hf, rfl⟩ := Option.map_eq_some_iff.mp h
    exact ⟨⟨b.name, f⟩, mem_answers.mpr ⟨b, List.mem_toFinset.mp hb, rfl, hf⟩, rfl⟩
  · cases h

/-- The best answer dominates, because no other heuristic is equally confident. -/
theorem dominates_of_firstBest {cfg : Config} {c : Context} {w : Engine.Answer}
    (hw : Engine.FirstBest (cfg.engine.answers c) w) :
    ∃ b, w.heuristic = b.name ∧ (of cfg.addressPrefix cfg.heuristics.order.toFinset c).Dominates b
      (w.finding.candidates, w.finding.confidence) := by
  obtain ⟨b, hn, hf⟩ := finding?_of_answer hw.mem
  refine ⟨b, hn, hf, ?_⟩
  intro b' hb other ho
  obtain ⟨a, ha, hc⟩ := exists_answer_of_finding? ho
  -- the first best answer is only known to be no worse; a tie would need equal confidences
  have hle := hw.confidence_le a ha
  have hne := confidence_ne hb ho hf
  omega

/-- Every configured engine decides by the ladder. The ladder is told which heuristics were chosen
and not in which order. -/
theorem configured_decision_eq_ladder (cfg : Config) (c : Context) :
    (cfg.engine.resolve c).result =
      (of cfg.addressPrefix cfg.heuristics.order.toFinset c).decision := by
  rw [Engine.result_resolve, Engine.decide]
  cases hw : Engine.leader? (cfg.engine.answers c) with
  | none =>
    have hn := Engine.leader?_eq_none_iff.mp hw
    refine (decision_eq_none fun b => ?_).symm
    cases hf : (of cfg.addressPrefix cfg.heuristics.order.toFinset c).finding? b with
    | none => rfl
    | some found =>
      obtain ⟨a, ha, -⟩ := exists_answer_of_finding? hf
      rw [hn] at ha
      cases ha
  | some w =>
    obtain ⟨b, hn, hd⟩ := dominates_of_firstBest (Engine.firstBest_of_leader? hw)
    rw [hd.decision_eq, Option.map_some, Engine.Answer.toDecision, hn]

end Evidence

end CallAttribution
