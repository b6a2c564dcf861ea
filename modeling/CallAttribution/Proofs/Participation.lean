import CallAttribution.Proofs.Agreement

/-!
# Who takes part in a resolution

Only contracts can be callers with recorded state, bear a promised name or expose a function. So a
snapshot may lose all other entries, and interfaces recorded for addresses of no contract, without
any effect on what a configured engine decides. There is one exception: the target of a chain is
shown under the name of the first entry that has its address, be it a contract or not.
-/

namespace CallAttribution

/-- The second list is the first one without some of the elements that satisfy a condition. -/
inductive Dropping {α : Type} (p : α → Prop) : List α → List α → Prop
  | nil : Dropping p [] []
  | keep (x : α) {xs ys : List α} (h : Dropping p xs ys) : Dropping p (x :: xs) (x :: ys)
  | drop {x : α} {xs ys : List α} (hx : p x) (h : Dropping p xs ys) : Dropping p (x :: xs) ys

namespace Dropping

variable {α : Type} {p : α → Prop} {xs ys : List α}

theorem filter_eq (h : Dropping p xs ys) {q : α → Bool} (hq : ∀ x, p x → q x = false) :
    xs.filter q = ys.filter q := by
  induction h with
  | nil => rfl
  | keep x _ ih => rw [List.filter_cons, List.filter_cons, ih]
  | drop hx _ ih => rw [List.filter_cons_of_neg (by simp [hq _ hx]), ih]

theorem find?_eq (h : Dropping p xs ys) {q : α → Bool} (hq : ∀ x, p x → q x = false) :
    xs.find? q = ys.find? q := by
  rw [← List.head?_filter, ← List.head?_filter, h.filter_eq hq]

theorem get?_eq {β : Type} {p : String × β → Prop} {t u : Table β} (h : Dropping p t u)
    {key : String} (hkey : ∀ e, p e → e.1 ≠ key) : t.get? key = u.get? key := by
  induction h with
  | nil => rfl
  | keep e _ ih => rw [Table.get?, Table.get?, ih]
  | drop he _ ih => rw [Table.get?, if_neg (hkey _ he), ih]

end Dropping

namespace Snapshot

/-- No contract has this address, letter case aside. -/
def Foreign (s : Snapshot) (address : String) : Prop :=
  ∀ e ∈ s.contracts, sameAddress address e.address = false

instance (s : Snapshot) (address : String) : Decidable (s.Foreign address) :=
  inferInstanceAs (Decidable (∀ e ∈ s.contracts, sameAddress address e.address = false))

/-- The second snapshot is the first one without some entries that are no contracts and some
interfaces that belong to none. -/
structure Pruned (s s' : Snapshot) : Prop where
  entries : Dropping (fun e => e.isContract = false) s.entries s'.entries
  interfaces : Dropping (fun i => s.Foreign i.1) s.interfaces s'.interfaces

/-- The same contracts, each with the same interface. -/
structure SameContracts (s s' : Snapshot) : Prop where
  contracts : s.contracts = s'.contracts
  interfaces : ∀ e ∈ s.contracts, s.interfaceOf e.address = s'.interfaceOf e.address

variable {s s' : Snapshot}

theorem Pruned.sameContracts (h : s.Pruned s') : s.SameContracts s' where
  contracts := h.entries.filter_eq fun _ he => he
  interfaces := by
    intro e he
    have hdiffers (i : String × List String) (hi : s.Foreign i.1) : i.1 ≠ e.address := by
      intro heq
      have hfalse := hi e he
      rw [heq, sameAddress, beq_self_eq_true] at hfalse
      cases hfalse
    -- neither look-up, of the very spelling or of any, meets a foreign interface
    rw [interfaceOf, interfaceOf, h.interfaces.get?_eq hdiffers,
      h.interfaces.find?_eq fun i hi => hi e he]

namespace SameContracts

theorem symm (h : s.SameContracts s') : s'.SameContracts s where
  contracts := h.contracts.symm
  interfaces e he := (h.interfaces e (h.contracts ▸ he)).symm

theorem findContract?_eq (h : s.SameContracts s') (address : String) :
    s.findContract? address = s'.findContract? address := by
  rw [findContract?, findContract?, h.contracts]

theorem namedContracts_eq (h : s.SameContracts s') (name : String) :
    Heuristic.namedContracts s name = Heuristic.namedContracts s' name := by
  rw [Heuristic.namedContracts, Heuristic.namedContracts, h.contracts]

theorem exposingContracts_eq (h : s.SameContracts s') (function : String) :
    Heuristic.exposingContracts s function = Heuristic.exposingContracts s' function := by
  have hexposes : ∀ e ∈ s.contracts, Signature.exposes (s.interfaceOf e.address) function =
      Signature.exposes (s'.interfaceOf e.address) function := fun e he => by
    rw [h.interfaces e he]
  rw [Heuristic.exposingContracts, Heuristic.exposingContracts, List.filter_congr hexposes,
    h.contracts]

end SameContracts

end Snapshot

/-- Candidates at the same addresses in the same order. Their names may differ only for the one
candidate of a chain. -/
structure SameTargets (heuristic : String) (cs cs' : List Candidate) : Prop where
  addresses : cs.map (·.address) = cs'.map (·.address)
  names : heuristic ≠ Builtin.variableChain.name → cs.map (·.name) = cs'.map (·.name)
  single : heuristic = Builtin.variableChain.name → cs.length = 1

namespace SameTargets

theorem of_chain {t t' : Candidate} (h : t.address = t'.address) :
    SameTargets Builtin.variableChain.name [t] [t'] where
  addresses := by simp [h]
  names hname := absurd rfl hname
  single _ := rfl

theorem of_eq {heuristic : String} (h : heuristic ≠ Builtin.variableChain.name)
    {cs cs' : List Candidate} (heq : cs = cs') : SameTargets heuristic cs cs' where
  addresses := by rw [heq]
  names _ := by rw [heq]
  single hname := absurd hname h

theorem length_eq {heuristic : String} {cs cs' : List Candidate}
    (h : SameTargets heuristic cs cs') : cs.length = cs'.length := by
  simpa using congrArg List.length h.addresses

end SameTargets

theorem Config.rel_of_sameContracts (cfg : Config) (c : Context) {s s' : Snapshot}
    (h : s.SameContracts s') :
    Option.Rel (Decision.Agrees SameTargets) (cfg.engine.resolve { c with snapshot := s }).result
      (cfg.engine.resolve { c with snapshot := s' }).result := by
  have hnamed : Heuristic.namedCandidates { c with snapshot := s } =
      Heuristic.namedCandidates { c with snapshot := s' } := by
    simp only [Heuristic.namedCandidates, h.namedContracts_eq]
  have hexposing := h.exposingContracts_eq c.call.calledFunction
  refine cfg.rel_result (fun _ _ _ hcs => hcs.length_eq) ?_ (.of_eq (by decide) hnamed)
    (.of_eq (by decide) hexposing)
  -- the address at the end of a chain stands in the state of a contract, its name does not
  have htarget : Heuristic.recordedTarget? cfg.addressPrefix { c with snapshot := s } =
      Heuristic.recordedTarget? cfg.addressPrefix { c with snapshot := s' } := by
    simp only [Heuristic.recordedTarget?, h.findContract?_eq]
    rfl
  rw [Heuristic.chained?, Heuristic.chained?, htarget]
  cases Heuristic.recordedTarget? cfg.addressPrefix { c with snapshot := s' } with
  | none => exact .none
  | some v => exact .some (.of_chain rfl)

/-- Entries that are no contracts and interfaces that belong to none have no say: whether they are
taken out of a snapshot or put into it, a configured engine decides in the same call for the same
heuristic with the same confidence and the same targets. -/
theorem Config.decision_of_pruned (cfg : Config) (c : Context) {s : Snapshot}
    (h : c.snapshot.Pruned s) :
    let d := (cfg.engine.resolve c).result
    let d' := (cfg.engine.resolve { c with snapshot := s }).result
    Option.Rel (Decision.Agrees SameTargets) d d' ∧
      Option.Rel (Decision.Agrees SameTargets) d' d :=
  ⟨cfg.rel_of_sameContracts c h.sameContracts, cfg.rel_of_sameContracts c h.sameContracts.symm⟩

/-- In front of a contract stands an entry of no kind with its address, and among the interfaces one
of nobody. Without both, the target of the chain is the same but shown under another name. -/
theorem Config.decision_of_pruned_shadowed :
    let caller : Entry := ⟨"eth:0xC", some "Caller", some "Contract",
      some [("vault", .str "eth:0xa")]⟩
    let vault : Entry := ⟨"eth:0xA", some "Vault", some "Contract", none⟩
    let shadow : Entry := ⟨"eth:0xa", some "Shadow", none, none⟩
    let all : Snapshot := ⟨[shadow, caller, vault], [("eth:0xB", ["function f()"])]⟩
    let few : Snapshot := ⟨[caller, vault], []⟩
    let c : Context := ⟨⟨"cached", "IVault", "f"⟩, "eth:0xc", all, [("cached", "vault")]⟩
    let d : Decision := ⟨"variable-chain", [⟨"eth:0xa", some "Shadow"⟩], 100⟩
    let d' : Decision := ⟨"variable-chain", [⟨"eth:0xa", some "Vault"⟩], 100⟩
    all.Pruned few ∧ (Config.default.engine.resolve c).result = some d ∧
      (Config.default.engine.resolve { c with snapshot := few }).result = some d' ∧
      Option.Rel (Decision.Agrees SameTargets) (some d) (some d') := by
  intro caller vault shadow all few c d d'
  have hforeign : all.Foreign "eth:0xB" := by decide +kernel
  have hpruned : all.Pruned few :=
    ⟨.drop (by decide) (.keep caller (.keep vault .nil)), .drop hforeign .nil⟩
  have hd : (Config.default.engine.resolve c).result = some d := by
    rw [Engine.result_resolve]
    decide +kernel
  have hd' : (Config.default.engine.resolve { c with snapshot := few }).result = some d' := by
    rw [Engine.result_resolve]
    decide +kernel
  obtain ⟨hagrees, -⟩ := Config.default.decision_of_pruned c hpruned
  exact ⟨hpruned, hd, hd', hd ▸ hd' ▸ hagrees⟩

end CallAttribution
