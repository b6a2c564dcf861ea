import CallAttribution.Heuristic.Exposure
import CallAttribution.Proofs.Assignment

/-!
# Contracts that expose a function

A signature is read exactly if it has the form of a declaration, and then it declares one function.
The interface that counts for an address is the one recorded under this very spelling, else the
first whose address differs only in letter case. The contracts for whose address such an interface
declares the called function are the candidates, all of them and no others.
-/

namespace CallAttribution

open Assignment (IsGap IsName callee?_dropWhile_eq_some_iff)

namespace Signature

/-- A declaration of the function: the word `function`, a plain space and perhaps more white space,
the name and an opening parenthesis. Whatever follows is not looked at. -/
structure Declares (signature name : String) : Prop where
  isName : IsName name.toList
  form : ∃ gap rest, IsGap gap ∧
    signature.toList = "function ".toList ++ (gap ++ (name.toList ++ '(' :: rest))

variable {signature name : String}

theorem functionName?_eq_some_iff : functionName? signature = some name ↔
    Declares signature name := by
  unfold functionName? isFunction
  constructor
  · intro h
    split_ifs at h with hkeyword
    obtain ⟨⟨cs, rest⟩, hcallee, rfl⟩ := Option.map_eq_some_iff.mp h
    obtain ⟨tail, htail⟩ := List.isPrefixOf_iff_prefix.mp hkeyword
    rw [← htail, List.drop_left] at hcallee
    obtain ⟨gap, rfl, hgap, hname⟩ := callee?_dropWhile_eq_some_iff.mp hcallee
    rw [← String.toList_ofList (l := cs)] at hname htail
    exact ⟨hname, gap, rest, hgap, htail.symm⟩
  · rintro ⟨hname, gap, rest, hgap, hform⟩
    have hsplit : signature.toList = keyword ++ (gap ++ (name.toList ++ '(' :: rest)) := hform
    have hkeyword : keyword.isPrefixOf signature.toList = true := by
      rw [hsplit]
      exact List.isPrefixOf_iff_prefix.mpr (List.prefix_append _ _)
    have hcallee : callee? ((gap ++ (name.toList ++ '(' :: rest)).dropWhile Text.isSpace) =
        some (name.toList, rest) :=
      callee?_dropWhile_eq_some_iff.mpr ⟨gap, rfl, hgap, hname⟩
    rw [if_pos hkeyword, hsplit, List.drop_left]
    simp only [hcallee, Option.map_some, String.ofList_toList]

theorem exposes_iff {interface : List String} :
    exposes interface name = true ↔ ∃ signature ∈ interface, Declares signature name := by
  simp only [exposes, List.any_eq_true, beq_iff_eq, functionName?_eq_some_iff]

end Signature

namespace Snapshot

/-- The interface that counts for an address: the one recorded under this very spelling, or, where
there is none, the first one recorded under the address in any letter case. -/
def Recorded (interfaces : Table (List String)) (address : String) (i : List String) : Prop :=
  interfaces.FirstWhere (· = address) i ∨
    address ∉ interfaces.keys ∧
      interfaces.FirstWhere (fun key => Text.lower key = Text.lower address) i

/-- The entry is a contract, and the interface that counts for its address declares the function. -/
def Exposes (s : Snapshot) (function : String) (e : Entry) : Prop :=
  e.kind = some "Contract" ∧ ∃ i, Recorded s.interfaces e.address i ∧
    ∃ signature ∈ i, Signature.Declares signature function

variable {s : Snapshot} {address function : String} {e : Entry} {i : List String}

theorem recorded_iff {t : Table (List String)} : Recorded t address i ↔
    (t.get? address).or ((t.find? fun e => sameAddress e.1 address).map Prod.snd) = some i := by
  have habsent : address ∉ t.keys ↔ t.get? address = none := by
    rw [Table.mem_keys_iff, Option.not_isSome_iff_eq_none]
  rw [Option.or_eq_some_iff, ← habsent, Table.get?_eq_find?,
    Table.find?_map_eq_some_iff (q := (· == address)) fun _ => beq_iff_eq,
    Table.find?_map_eq_some_iff (q := (sameAddress · address)) fun _ => beq_iff_eq, Recorded]

theorem mem_interfaceOf_iff {signature : String} :
    signature ∈ s.interfaceOf address ↔ ∃ i, Recorded s.interfaces address i ∧ signature ∈ i := by
  simp only [recorded_iff, interfaceOf]
  cases s.interfaces.get? address with
  | some i => simp
  | none => cases s.interfaces.find? fun e => sameAddress e.1 address <;> simp

theorem exposes_iff : s.Exposes function e ↔
    (e.isContract && Signature.exposes (s.interfaceOf e.address) function) = true := by
  have hdeclared : (∃ i, Recorded s.interfaces e.address i ∧
      ∃ signature ∈ i, Signature.Declares signature function) ↔
        ∃ signature ∈ s.interfaceOf e.address, Signature.Declares signature function := by
    simp only [mem_interfaceOf_iff]
    tauto
  rw [Exposes, hdeclared, Bool.and_eq_true, Signature.exposes_iff, Entry.isContract, beq_iff_eq,
    Entry.contractKind]

instance (s : Snapshot) (function : String) : DecidablePred (s.Exposes function) :=
  fun _ => decidable_of_iff _ exposes_iff.symm

end Snapshot

namespace Heuristic

theorem exposingContracts_eq_filter (s : Snapshot) (function : String) :
    exposingContracts s function =
      (s.entries.filter fun e => s.Exposes function e).map (·.toCandidate) := by
  rw [exposingContracts, Snapshot.contracts, List.filter_filter]
  congr 2
  funext e
  rw [Bool.eq_iff_iff, decide_eq_true_iff, Snapshot.exposes_iff, Bool.and_comm]

/-- What is found for the called function are all contracts that expose it, in the order of the
snapshot and as often as they stand there, and nothing is found if there are none. A function whose
name is empty or has a character that no name has is exposed by none. -/
theorem functionSignature_finds_exposing (c : Context) :
    let exposing := c.snapshot.entries.filter fun e => c.snapshot.Exposes c.call.calledFunction e
    (functionSignature.apply c = none ↔ exposing = []) ∧
    (∀ f, functionSignature.apply c = some f →
      f.candidates = exposing.map fun e => ⟨e.address, e.name⟩) ∧
    (c.call.calledFunction = "" ∨ (∃ x ∈ c.call.calledFunction.toList, Text.isWord x = false) →
      functionSignature.apply c = none) := by
  intro exposing
  have hfound : exposingContracts c.snapshot c.call.calledFunction =
      exposing.map (·.toCandidate) := exposingContracts_eq_filter _ _
  have hnone : functionSignature.apply c = none ↔ exposing = [] := by
    simp [functionSignature, hfound]
  refine ⟨hnone, fun f hf => ?_, fun hname => ?_⟩
  · simp only [functionSignature] at hf
    split_ifs at hf
    cases hf
    exact hfound
  · rw [hnone, List.filter_eq_nil_iff]
    intro e _ hexposes
    obtain ⟨-, i, -, signature, -, hdeclares⟩ := of_decide_eq_true hexposes
    rcases hname with hempty | ⟨x, hx, hword⟩
    · exact hdeclares.isName.nonempty (by rw [hempty]; rfl)
    · rw [hdeclares.isName.word x hx] at hword
      cases hword

/-- An interface under the very spelling of an address hides one under another spelling; of two
under other spellings the first counts. The signatures of the first contract come near to a
declaration of the function, the second contract stands twice. -/
theorem functionSignature_finds_exposing_near :
    let near := ["function\tf()", "function ff()", "function f ()", "function F()", "event f()"]
    let c : Context := ⟨⟨"v", "IV", "f"⟩, "0x1",
      ⟨[⟨"0xA", some "A", some "Contract", none⟩, ⟨"0xb", some "B", some "Contract", none⟩,
        ⟨"0xb", some "L", some "Library", none⟩, ⟨"0xb", none, some "Contract", none⟩],
      [("0xa", ["function f()"]), ("0xA", near), ("0XB", ["function \t f(x"]), ("0xB", [])]⟩, []⟩
    ∃ f, functionSignature.apply c = some f ∧
      f.candidates = [⟨"0xb", some "B"⟩, ⟨"0xb", none⟩] := by
  intro near c
  obtain ⟨hnone, hfound, -⟩ := functionSignature_finds_exposing c
  have hexposes : ⟨"0xb", some "B", some "Contract", none⟩ ∈
      c.snapshot.entries.filter fun e => c.snapshot.Exposes c.call.calledFunction e :=
    List.mem_filter.mpr ⟨List.mem_cons_of_mem _ List.mem_cons_self, by decide +kernel⟩
  have hsome : functionSignature.apply c ≠ none := fun h =>
    List.ne_nil_of_mem hexposes (hnone.mp h)
  obtain ⟨f, hf⟩ := Option.ne_none_iff_exists'.mp hsome
  exact ⟨f, hf, (hfound f hf).trans (by decide +kernel)⟩

end Heuristic

end CallAttribution
