import CallAttribution.Proofs.Agreement
import CallAttribution.Proofs.Table
import Mathlib.Data.List.Perm.Basic

/-!
# How a snapshot is presented

Look-ups take the first entry that fits and prefer the very spelling of an address, so they depend
on order and letter case in form. They do not in fact as long as no two entries and no two recorded
interfaces have the same address, letter case aside: then at most one of them fits. So the order of
a snapshot and the spelling of its addresses do not matter for what a configured engine decides.
-/

namespace CallAttribution

/-- The second list holds for each element of the first a related one, in any order. -/
def Rearranged {α : Type} (S : α → α → Prop) (xs ys : List α) : Prop :=
  ∃ zs, xs.Perm zs ∧ List.Forall₂ S zs ys

section Related

variable {α α' β : Type} {S : α → α' → Prop} {o : Option α} {o' : Option α'}

theorem map_eq_of_rel {f : α → β} {f' : α' → β} (hf : ∀ a a', S a a' → f a = f' a')
    (h : Option.Rel S o o') : o.map f = o'.map f' := by
  cases h with
  | none => rfl
  | some h => exact congrArg some (hf _ _ h)

theorem bind_eq_of_rel {f : α → Option β} {f' : α' → Option β}
    (hf : ∀ a a', S a a' → f a = f' a') (h : Option.Rel S o o') : o.bind f = o'.bind f' := by
  cases h with
  | none => rfl
  | some h => exact hf _ _ h

end Related

namespace Rearranged

variable {α β : Type} {S : α → α → Prop} {xs ys : List α}

theorem length_eq (h : Rearranged S xs ys) : xs.length = ys.length := by
  obtain ⟨zs, hperm, hrel⟩ := h
  rw [hperm.length_eq, hrel.length_eq]

theorem of_eq (hrefl : ∀ x, S x x) (h : xs = ys) : Rearranged S xs ys :=
  ⟨ys, h ▸ .refl ys, List.forall₂_same.mpr fun x _ => hrefl x⟩

theorem filter {p q : α → Bool} (hpq : ∀ x y, S x y → p x = q y) (h : Rearranged S xs ys) :
    Rearranged S (xs.filter p) (ys.filter q) := by
  obtain ⟨zs, hperm, hrel⟩ := h
  refine ⟨zs.filter p, hperm.filter p, List.rel_filter (fun x y hxy => ?_) hrel⟩
  exact Bool.eq_iff_iff.mp (hpq x y hxy)

theorem map {T : β → β → Prop} {f : α → β} (hf : ∀ x y, S x y → T (f x) (f y))
    (h : Rearranged S xs ys) : Rearranged T (xs.map f) (ys.map f) := by
  obtain ⟨zs, hperm, hrel⟩ := h
  exact ⟨zs.map f, hperm.map f, List.rel_map hf hrel⟩

theorem perm (h : Rearranged Eq xs ys) : xs.Perm ys := by
  obtain ⟨zs, hperm, hrel⟩ := h
  rw [List.forall₂_eq_eq_eq] at hrel
  exact hrel ▸ hperm

/-- Where at most one element fits, the first one that fits is that one, wherever it stands. -/
theorem find?_eq_of_perm {p : α → Bool} (h : xs.Perm ys)
    (hunique : ∀ x ∈ xs, ∀ y ∈ xs, p x = true → p y = true → x = y) :
    xs.find? p = ys.find? p := by
  cases hx : xs.find? p with
  | none =>
    have hnone := List.find?_eq_none.mp hx
    exact (List.find?_eq_none.mpr fun y hy => hnone y (h.mem_iff.mpr hy)).symm
  | some x =>
    have hxs := List.mem_of_find?_eq_some hx
    cases hy : ys.find? p with
    | none => exact absurd (List.find?_some hx) (List.find?_eq_none.mp hy x (h.mem_iff.mp hxs))
    | some y =>
      have hys := h.mem_iff.mpr (List.mem_of_find?_eq_some hy)
      rw [hunique x hxs y hys (List.find?_some hx) (List.find?_some hy)]

theorem rel_find?_of_forall₂ {p q : α → Bool} (hpq : ∀ x y, S x y → p x = q y)
    (h : List.Forall₂ S xs ys) : Option.Rel S (xs.find? p) (ys.find? q) := by
  induction h with
  | nil => exact .none
  | @cons x y xs ys hxy _ ih =>
    rw [List.find?_cons, List.find?_cons, ← hpq x y hxy]
    split
    · exact .some hxy
    · exact ih

theorem rel_find? {p q : α → Bool} (hpq : ∀ x y, S x y → p x = q y) (h : Rearranged S xs ys)
    (hunique : ∀ x ∈ xs, ∀ y ∈ xs, p x = true → p y = true → x = y) :
    Option.Rel S (xs.find? p) (ys.find? q) := by
  obtain ⟨zs, hperm, hrel⟩ := h
  rw [find?_eq_of_perm hperm hunique]
  exact rel_find?_of_forall₂ hpq hrel

end Rearranged

/-- The same address, letter case aside, and the same name. -/
structure Candidate.Respelt (t t' : Candidate) : Prop where
  address : Snapshot.sameAddress t.address t'.address = true
  name : t.name = t'.name

/-- The same entry under the same address, letter case aside. -/
structure Entry.Respelt (e e' : Entry) : Prop where
  address : Snapshot.sameAddress e.address e'.address = true
  name : e.name = e'.name
  kind : e.kind = e'.kind
  values : e.values = e'.values

namespace Snapshot

theorem sameAddress_iff {a b : String} : sameAddress a b = true ↔ Text.lower a = Text.lower b :=
  beq_iff_eq

/-- Addresses that are the same are the same as any third one. -/
theorem sameAddress_congr {a a' b b' : String} (ha : sameAddress a a' = true)
    (hb : sameAddress b b' = true) : sameAddress a b = sameAddress a' b' := by
  rw [sameAddress, sameAddress, sameAddress_iff.mp ha, sameAddress_iff.mp hb]

/-- The second snapshot holds the same entries and interfaces in any order, with their addresses
spelt in any letter case. -/
structure Restated (s s' : Snapshot) : Prop where
  entries : Rearranged Entry.Respelt s.entries s'.entries
  interfaces : Rearranged (fun i i' => sameAddress i.1 i'.1 = true ∧ i.2 = i'.2)
    s.interfaces s'.interfaces

/-- Neither two entries nor two interfaces have the same address, letter case aside. -/
structure Unambiguous (s : Snapshot) : Prop where
  entries : (s.entries.map fun e => Text.lower e.address).Nodup
  interfaces : (s.interfaces.map fun i => Text.lower i.1).Nodup

namespace Unambiguous

variable {s : Snapshot}

theorem eq_of_sameAddress (h : s.Unambiguous) {a : String} :
    ∀ e ∈ s.entries, ∀ e' ∈ s.entries, sameAddress e.address a = true →
      sameAddress e'.address a = true → e = e' := by
  intro e he e' he' ha ha'
  refine List.inj_on_of_nodup_map h.entries he he' ?_
  rw [sameAddress_iff.mp ha, sameAddress_iff.mp ha']

theorem interface_eq_of_sameAddress (h : s.Unambiguous) {a : String} :
    ∀ i ∈ s.interfaces, ∀ i' ∈ s.interfaces, sameAddress i.1 a = true →
      sameAddress i'.1 a = true → i = i' := by
  intro i hi i' hi' ha ha'
  refine List.inj_on_of_nodup_map h.interfaces hi hi' ?_
  rw [sameAddress_iff.mp ha, sameAddress_iff.mp ha']

end Unambiguous

/-- The very spelling of an address is found by the look-up of all spellings as well. -/
theorem interfaceOf_eq_find? {s : Snapshot} (h : s.Unambiguous) (a : String) :
    s.interfaceOf a = ((s.interfaces.find? fun i => sameAddress i.1 a).map Prod.snd).getD [] := by
  rw [interfaceOf]
  cases hget : s.interfaces.get? a with
  | none => cases s.interfaces.find? fun i => sameAddress i.1 a <;> rfl
  | some v =>
    have hmem := Table.mem_of_get? hget
    have hself : sameAddress a a = true := sameAddress_iff.mpr rfl
    cases hfind : s.interfaces.find? fun i => sameAddress i.1 a with
    | none =>
      have hnone : ¬ sameAddress a a = true := by
        simpa only using List.find?_eq_none.mp hfind (a, v) hmem
      exact absurd hself hnone
    | some i =>
      have hi : sameAddress i.1 a = true := by simpa using List.find?_some hfind
      rw [h.interface_eq_of_sameAddress i (List.mem_of_find?_eq_some hfind) _ hmem hi hself]
      rfl

namespace Restated

variable {s s' : Snapshot} {a a' : String}

theorem contracts (h : s.Restated s') : Rearranged Entry.Respelt s.contracts s'.contracts :=
  h.entries.filter fun e e' he => by rw [Entry.isContract, Entry.isContract, he.kind]

theorem unambiguous (h : s.Restated s') (hs : s.Unambiguous) : s'.Unambiguous where
  entries := by
    refine (Rearranged.perm (h.entries.map fun e e' he => ?_)).nodup_iff.mp hs.entries
    exact sameAddress_iff.mp he.address
  interfaces := by
    refine (Rearranged.perm (h.interfaces.map fun i i' hi => ?_)).nodup_iff.mp hs.interfaces
    exact sameAddress_iff.mp hi.1

theorem findContract? (h : s.Restated s') (hs : s.Unambiguous) (ha : sameAddress a a' = true) :
    Option.Rel Entry.Respelt (s.findContract? a) (s'.findContract? a') := by
  have hunique : ∀ e ∈ s.contracts, ∀ e' ∈ s.contracts, sameAddress e.address a = true →
      sameAddress e'.address a = true → e = e' := fun e he e' he' =>
    hs.eq_of_sameAddress e (List.mem_filter.mp he).1 e' (List.mem_filter.mp he').1
  exact h.contracts.rel_find? (fun e e' he => sameAddress_congr he.address ha) hunique

/-- What is recorded in the state of a contract does not depend on how its address is spelt. -/
theorem textValue?_eq (h : s.Restated s') (hs : s.Unambiguous) (ha : sameAddress a a' = true)
    (name : String) : (s.findContract? a).bind (·.textValue? name) =
      (s'.findContract? a').bind (·.textValue? name) := by
  refine bind_eq_of_rel (fun e e' he => ?_) (h.findContract? hs ha)
  rw [Entry.textValue?, Entry.textValue?, he.values]

theorem name_eq (h : s.Restated s') (hs : s.Unambiguous) (a : String) :
    (s.find? a).bind (·.name) = (s'.find? a).bind (·.name) := by
  have ha : sameAddress a a = true := sameAddress_iff.mpr rfl
  have hfind : Option.Rel Entry.Respelt (s.find? a) (s'.find? a) :=
    h.entries.rel_find? (fun e e' he => sameAddress_congr he.address ha) hs.eq_of_sameAddress
  exact bind_eq_of_rel (fun e e' he => he.name) hfind

theorem interfaceOf_eq (h : s.Restated s') (hs : s.Unambiguous) (ha : sameAddress a a' = true) :
    s.interfaceOf a = s'.interfaceOf a' := by
  rw [interfaceOf_eq_find? hs, interfaceOf_eq_find? (h.unambiguous hs)]
  have hfind := h.interfaces.rel_find? (fun i i' hi => sameAddress_congr hi.1 ha)
    hs.interface_eq_of_sameAddress
  rw [map_eq_of_rel (fun i i' hi => hi.2) hfind]

/-- The candidates that a condition selects among the contracts. -/
theorem candidates (h : s.Restated s') {p q : Entry → Bool}
    (hpq : ∀ e e', e.Respelt e' → p e = q e') :
    Rearranged Candidate.Respelt ((s.contracts.filter p).map (·.toCandidate))
      ((s'.contracts.filter q).map (·.toCandidate)) :=
  (h.contracts.filter hpq).map fun _ _ he => ⟨he.address, he.name⟩

theorem namedContracts (h : s.Restated s') (name : String) :
    Rearranged Candidate.Respelt (Heuristic.namedContracts s name)
      (Heuristic.namedContracts s' name) :=
  h.candidates fun e e' he => by rw [he.name]

theorem exposingContracts (h : s.Restated s') (hs : s.Unambiguous) (function : String) :
    Rearranged Candidate.Respelt (Heuristic.exposingContracts s function)
      (Heuristic.exposingContracts s' function) :=
  h.candidates fun e e' he => by rw [h.interfaceOf_eq hs he.address]

end Restated

end Snapshot

/-- The same candidates in any order, their addresses in any letter case. The one candidate of a
chain is the very same. -/
structure SameCandidates (heuristic : String) (cs cs' : List Candidate) : Prop where
  rearranged : Rearranged Candidate.Respelt cs cs'
  chain : heuristic = Builtin.variableChain.name → cs = cs' ∧ cs.length = 1

namespace SameCandidates

theorem of_chain (t : Candidate) : SameCandidates Builtin.variableChain.name [t] [t] where
  rearranged := .of_eq (fun _ => ⟨Snapshot.sameAddress_iff.mpr rfl, rfl⟩) rfl
  chain _ := ⟨rfl, rfl⟩

theorem of_rearranged {heuristic : String} (h : heuristic ≠ Builtin.variableChain.name)
    {cs cs' : List Candidate} (hcs : Rearranged Candidate.Respelt cs cs') :
    SameCandidates heuristic cs cs' where
  rearranged := hcs
  chain hname := absurd hname h

end SameCandidates

theorem Heuristic.chained?_eq {s s' : Snapshot} (h : s.Restated s') (hs : s.Unambiguous)
    {caller caller' : String} (hcaller : Snapshot.sameAddress caller caller' = true)
    (addressPrefix : String) (call : CallSite) (assignments : Assignments) :
    chained? addressPrefix ⟨call, caller, s, assignments⟩ =
      chained? addressPrefix ⟨call, caller', s', assignments⟩ := by
  have htarget : recordedTarget? addressPrefix ⟨call, caller, s, assignments⟩ =
      recordedTarget? addressPrefix ⟨call, caller', s', assignments⟩ := by
    simp only [recordedTarget?, h.textValue?_eq hs hcaller]
    rfl
  have hname : chainCandidate ⟨call, caller, s, assignments⟩ =
      chainCandidate ⟨call, caller', s', assignments⟩ := by
    funext v
    simp only [chainCandidate, h.name_eq hs]
  rw [chained?, chained?, htarget, hname]

/-- The order of a snapshot without ambiguous addresses and the letter case of its addresses and of
the caller's do not matter: a configured engine decides for the same heuristic with the same
confidence and the same candidates, which stand in the order and the letter case of the snapshot,
except that the target of a chain is the very same. -/
theorem Config.decision_of_restated (cfg : Config) (call : CallSite) (assignments : Assignments)
    {caller caller' : String} {s s' : Snapshot} (hs : s.Unambiguous) (h : s.Restated s')
    (hcaller : Snapshot.sameAddress caller caller' = true) :
    Option.Rel (Decision.Agrees SameCandidates)
      (cfg.engine.resolve ⟨call, caller, s, assignments⟩).result
      (cfg.engine.resolve ⟨call, caller', s', assignments⟩).result := by
  have hnamed : Rearranged Candidate.Respelt
      (Heuristic.namedCandidates ⟨call, caller, s, assignments⟩)
      (Heuristic.namedCandidates ⟨call, caller', s', assignments⟩) := by
    simp only [Heuristic.namedCandidates]
    cases Heuristic.promisedName? call.interfaceType with
    | none => exact ⟨[], .nil, .nil⟩
    | some name => exact h.namedContracts name
  have hexposing := h.exposingContracts hs call.calledFunction
  refine cfg.rel_result (fun _ _ _ hcs => hcs.rearranged.length_eq) ?_
    (.of_rearranged (by decide) hnamed) (.of_rearranged (by decide) hexposing)
  rw [Heuristic.chained?_eq h hs hcaller]
  cases Heuristic.chained? cfg.addressPrefix ⟨call, caller', s', assignments⟩ with
  | none => exact .none
  | some t => exact .some (.of_chain t)

/-- Two contracts expose the called function. They are listed the other way round, and of each
address and each key another letter changes its case. -/
theorem Config.decision_of_restated_reversed :
    let pool := fun address => (⟨address, some "Pool", some "Contract", none⟩ : Entry)
    let vault := fun address => (⟨address, some "Vault", some "Contract", none⟩ : Entry)
    let s : Snapshot := ⟨[pool "0xab", vault "0xcd"],
      [("0xAb", ["function f()"]), ("0xcd", ["function f(uint256)"])]⟩
    let s' : Snapshot := ⟨[vault "0xcD", pool "0xAB"],
      [("0xCd", ["function f(uint256)"]), ("0xab", ["function f()"])]⟩
    let call : CallSite := ⟨"target", "Any", "f"⟩
    let d : Decision := ⟨"function-signature", [⟨"0xab", some "Pool"⟩, ⟨"0xcd", some "Vault"⟩], 50⟩
    let d' : Decision :=
      ⟨"function-signature", [⟨"0xcD", some "Vault"⟩, ⟨"0xAB", some "Pool"⟩], 50⟩
    s.Unambiguous ∧ s.Restated s' ∧
      (Config.default.engine.resolve ⟨call, "0xef", s, []⟩).result = some d ∧
      (Config.default.engine.resolve ⟨call, "0xEF", s', []⟩).result = some d' ∧
      Option.Rel (Decision.Agrees SameCandidates) (some d) (some d') := by
  intro pool vault s s' call d d'
  have hs : s.Unambiguous := ⟨by decide +kernel, by decide +kernel⟩
  have hrespelt (a a' : String) (h : Snapshot.sameAddress a a' = true) :
      (pool a).Respelt (pool a') ∧ (vault a).Respelt (vault a') :=
    ⟨⟨h, rfl, rfl, rfl⟩, ⟨h, rfl, rfl, rfl⟩⟩
  have h : s.Restated s' := by
    refine ⟨⟨_, .swap _ _ _, .cons (hrespelt _ _ ?_).2 (.cons (hrespelt _ _ ?_).1 .nil)⟩,
      ⟨_, .swap _ _ _, .cons ⟨?_, rfl⟩ (.cons ⟨?_, rfl⟩ .nil)⟩⟩ <;> decide +kernel
  have hd : (Config.default.engine.resolve ⟨call, "0xef", s, []⟩).result = some d := by
    decide +kernel
  have hd' : (Config.default.engine.resolve ⟨call, "0xEF", s', []⟩).result = some d' := by
    decide +kernel
  have hagrees := Config.default.decision_of_restated call [] hs h
    (show Snapshot.sameAddress "0xef" "0xEF" = true by decide +kernel)
  exact ⟨hs, h, hd, hd', hd ▸ hd' ▸ hagrees⟩

-- Callers whose addresses differ in letter case alone are ambiguous: the first one is asked.
example :
    let caller := fun address target =>
      (⟨address, none, some "Contract", some [("vault", .str target)]⟩ : Entry)
    let decide := fun entries => (Config.default.engine.resolve
      ⟨⟨"cached", "", ""⟩, "0xab", ⟨entries, []⟩, [("cached", "vault")]⟩).result
    decide [caller "0xAb" "eth:1", caller "0xaB" "eth:2"] =
        some ⟨"variable-chain", [⟨"eth:1", none⟩], 100⟩ ∧
      decide [caller "0xaB" "eth:2", caller "0xAb" "eth:1"] =
        some ⟨"variable-chain", [⟨"eth:2", none⟩], 100⟩ := by
  decide +kernel

end CallAttribution
