import CallAttribution.Config
import CallAttribution.Proofs.FileTree
import CallAttribution.Proofs.Precedence
import Mathlib.Data.List.Nodup
import Mathlib.Data.Set.List

/-!
# Lists of heuristics that can be used

A list of names is judged twice: by the configuration, which looks for names that it does not know
or has seen before, and by the engine, which is built from heuristics that say their names
themselves. Either way the outcome is described by one equation between the names that were asked
for and the names of what comes out. So both accept the same lists, the empty one apart, and a
configuration that has been accepted can be used without further failures.
-/

namespace CallAttribution

open Schema

namespace Builtin

variable {names : List String} {bs : List Builtin}

theorem ofName?_eq_some_iff {n : String} {b : Builtin} : ofName? n = some b ↔ b.name = n := by
  constructor
  · intro h
    have hname := List.find?_some h
    exact beq_iff_eq.mp hname
  · intro h
    rw [← h, ofName?_name]

theorem mem_names {b : Builtin} : b.name ∈ defaultOrder.map name := by
  cases b <;> decide

/-- Heuristics are found for names exactly if these are their names. -/
theorem ofNames_eq_ok_iff : ofNames names = .ok bs ↔ bs.map name = names := by
  induction names generalizing bs with
  | nil =>
    constructor
    · intro h
      cases h
      rfl
    · intro h
      rw [List.map_eq_nil_iff.mp h]
      rfl
  | cons n names ih =>
    unfold ofNames at ih ⊢
    rw [List.mapM_cons]
    constructor
    · intro h
      obtain ⟨b, hb, h⟩ := bind_eq_ok.mp h
      obtain ⟨rest, hrest, h⟩ := bind_eq_ok.mp h
      cases h
      split at hb
      · next b' hn =>
        cases hb
        rw [List.map_cons, ofName?_eq_some_iff.mp hn, ih.mp hrest]
      · cases hb
    · intro h
      obtain ⟨b, rest, rfl, hn, hrest⟩ := List.map_eq_cons_iff.mp h
      rw [ofName?_eq_some_iff.mpr hn, ih.mpr hrest]
      rfl

end Builtin

namespace Engine

variable {e e' : Engine} {g : Heuristic} {hs : List Heuristic}

theorem ext_heuristics (h : e.heuristics = e'.heuristics) : e = e' := by
  cases e
  cases e'
  cases h
  rfl

theorem notMem_names_of_append (h : e'.heuristics = e.heuristics ++ g :: hs) :
    g.name ∉ e.names := by
  have hd := e'.distinct
  rw [h, List.map_append, List.map_cons] at hd
  have hdisjoint := (List.nodup_append.mp hd).2.2
  intro hg
  exact hdisjoint _ hg _ List.mem_cons_self rfl

/-- Heuristics are registered exactly if they are what comes to those that were there. -/
theorem registerAll_eq_ok_iff :
    e.registerAll hs = .ok e' ↔ e'.heuristics = e.heuristics ++ hs := by
  induction hs generalizing e with
  | nil =>
    rw [List.append_nil]
    constructor
    · intro h
      cases h
      rfl
    · intro h
      rw [ext_heuristics h]
      rfl
  | cons g hs ih =>
    have hstep : e.registerAll (g :: hs) = e.register g >>= fun e₁ => e₁.registerAll hs := rfl
    rw [hstep]
    constructor
    · intro h
      obtain ⟨e₁, hregister, hrest⟩ := bind_eq_ok.mp h
      unfold register at hregister
      split_ifs at hregister with hg
      cases hregister
      rw [ih.mp hrest, List.append_assoc]
      rfl
    · intro h
      obtain ⟨e₁, hregister, he₁⟩ := register_of_fresh (notMem_names_of_append h)
      rw [hregister]
      apply ih.mpr
      rw [h, he₁, List.append_assoc]
      rfl

/-- The engine with the heuristics of these names: they are looked up and then registered. -/
def Builds (addressPrefix : String) (names : List String) (e : Engine) : Prop :=
  ∃ bs, Builtin.ofNames names = .ok bs ∧
    Engine.empty.registerAll (bs.map (·.toHeuristic addressPrefix)) = .ok e

theorem builds_iff {addressPrefix : String} {names : List String} :
    Builds addressPrefix names e ↔ ∃ bs : List Builtin, bs.map Builtin.name = names ∧
      e.heuristics = bs.map (·.toHeuristic addressPrefix) := by
  unfold Builds
  simp only [Builtin.ofNames_eq_ok_iff, registerAll_eq_ok_iff]
  rfl

/-- An engine has the names that it has been built from. -/
theorem Builds.names_eq {addressPrefix : String} {names : List String}
    (h : Builds addressPrefix names e) : e.names = names := by
  obtain ⟨bs, rfl, he⟩ := builds_iff.mp h
  rw [Engine.names, he, List.map_map]
  exact List.map_congr_left fun b _ => b.name_toHeuristic addressPrefix

theorem builds_ofBuiltins {addressPrefix : String} {bs : List Builtin} (h : bs.Nodup) :
    Builds addressPrefix (bs.map Builtin.name) (ofBuiltins addressPrefix bs h) :=
  builds_iff.mpr ⟨bs, rfl, rfl⟩

/-- An engine is built from known names of which none is repeated. -/
theorem exists_builds_iff {addressPrefix : String} {names : List String} :
    (∃ e, Builds addressPrefix names e) ↔
      (∀ n ∈ names, n ∈ Builtin.defaultOrder.map Builtin.name) ∧ names.Nodup := by
  constructor
  · rintro ⟨e, he⟩
    have hnames := he.names_eq
    obtain ⟨bs, hbs, -⟩ := builds_iff.mp he
    constructor
    · rw [← hbs]
      intro n hn
      obtain ⟨b, -, rfl⟩ := List.mem_map.mp hn
      exact Builtin.mem_names
    · rw [← hnames]
      exact e.distinct
  · rintro ⟨hknown, hnodup⟩
    have hrange : names ∈ Set.range (List.map Builtin.name) := by
      rw [Set.range_list_map]
      intro n hn
      obtain ⟨b, -, hb⟩ := List.mem_map.mp (hknown n hn)
      exact ⟨b, hb⟩
    obtain ⟨bs, rfl⟩ := hrange
    exact ⟨_, builds_ofBuiltins (List.Nodup.of_map _ hnodup)⟩

end Engine

namespace Selection

def names (s : Selection) : List String :=
  s.order.map Builtin.name

variable {s s' : Selection} {ns : List String} {v : Value}

theorem ext_names (h : s.names = s'.names) : s = s' := by
  have horder : s.order = s'.order :=
    List.map_injective_iff.mpr (fun _ _ => Builtin.name_injective) h
  cases s
  cases s'
  cases horder
  rfl

theorem nodup_names (s : Selection) : s.names.Nodup :=
  s.distinct.map fun _ _ => Builtin.name_injective

/-- Names are chosen exactly if they are what comes to those that were chosen before. -/
theorem addNames_eq_accepted_iff :
    s.addNames ns = .accepted s' ↔ s'.names = s.names ++ ns := by
  induction ns generalizing s with
  | nil =>
    rw [List.append_nil]
    constructor
    · intro h
      cases h
      rfl
    · intro h
      rw [ext_names h]
      rfl
  | cons n ns ih =>
    unfold addNames
    split
    · next hn =>
      -- an unknown name is not among the names of any selection
      refine iff_of_false (fun h => by cases h) fun h => ?_
      have hmem : n ∈ s'.names := by
        rw [h]
        exact List.mem_append_right _ List.mem_cons_self
      obtain ⟨b, -, hb⟩ := List.mem_map.mp hmem
      rw [Builtin.ofName?_eq_some_iff.mpr hb] at hn
      cases hn
    · next b hn =>
      have hname := Builtin.ofName?_eq_some_iff.mp hn
      split_ifs with hb
      · -- a repeated name would stand twice among the names of the selection
        refine iff_of_false (fun h => by cases h) fun h => ?_
        have hnodup := s'.nodup_names
        rw [h] at hnodup
        have hdisjoint := (List.nodup_append.mp hnodup).2.2
        exact hdisjoint _ (List.mem_map_of_mem hb) _ List.mem_cons_self hname
      · have hadd : (s.add b hb).names = s.names ++ [n] := by
          rw [← hname]
          exact List.map_append
        rw [ih, hadd, List.append_assoc]
        rfl

theorem mapM_str?_eq_some_iff {items : List Value} :
    items.mapM Value.str? = some ns ↔ items = ns.map .str := by
  induction items generalizing ns with
  | nil => simp [eq_comm]
  | cons v items ih =>
    rw [List.mapM_cons]
    constructor
    · intro h
      obtain ⟨n, hn, h⟩ := Option.bind_eq_some_iff.mp h
      obtain ⟨rest, hrest, h⟩ := Option.bind_eq_some_iff.mp h
      cases h
      rw [List.map_cons, ← ih.mp hrest]
      cases v with
      | str t => rw [Option.some.inj hn]
      | _ => cases hn
    · intro h
      obtain ⟨n, rest, rfl, rfl, hrest⟩ := List.map_eq_cons_iff.mp h.symm
      rw [ih.mpr hrest.symm]
      rfl

theorem texts?_eq_some_iff : texts? v = some ns ↔ v = .arr (ns.map .str) := by
  cases v with
  | arr items => simp [texts?, Value.arr?, mapM_str?_eq_some_iff]
  | _ => simp [texts?, Value.arr?]

/-- What is accepted is nothing, for the usual heuristics, or the list of the names, and these are
some. -/
theorem shape_eq_accepted_iff : shape v = .accepted s ↔
    (v = .null ∧ s = default) ∨ (v = .arr (s.names.map .str) ∧ s.names ≠ []) := by
  unfold shape
  split
  · simp [eq_comm (a := default)]
  · next hnull =>
    rw [or_iff_right fun h => hnull h.1, ← texts?_eq_some_iff]
    split
    · next h => simp [h, Checked.refuse]
    · next h => simp [h, Checked.refuse]
    · next ns hne h =>
      have hempty : empty.names = [] := rfl
      rw [addNames_eq_accepted_iff, h, Option.some.injEq, eq_comm (a := ns), hempty,
        List.nil_append]
      constructor
      · intro heq
        exact ⟨heq, fun hnil => hne (heq ▸ hnil)⟩
      · intro heq
        exact heq.1

theorem shape_strings_eq_accepted_iff :
    shape (.arr (ns.map .str)) = .accepted s ↔ s.names = ns ∧ ns ≠ [] := by
  have hinjective : ns.map Value.str = s.names.map Value.str ↔ s.names = ns := by
    rw [eq_comm]
    exact (List.map_injective_iff.mpr fun _ _ => Value.str.inj).eq_iff
  have hnull : ¬ (Value.arr (ns.map .str) = .null ∧ s = default) := fun h => nomatch h.1
  rw [shape_eq_accepted_iff, or_iff_right hnull, Value.arr.injEq, hinjective]
  exact and_congr_right fun h => by rw [h]

/-- The names that can be chosen are those that an engine can be built from. -/
theorem exists_names_iff {addressPrefix : String} :
    (∃ s : Selection, s.names = ns) ↔ ∃ e, Engine.Builds addressPrefix ns e := by
  constructor
  · rintro ⟨s, rfl⟩
    exact ⟨_, Engine.builds_ofBuiltins s.distinct⟩
  · rintro ⟨e, he⟩
    have hnodup := (Engine.exists_builds_iff.mp ⟨e, he⟩).2
    obtain ⟨bs, rfl, -⟩ := Engine.builds_iff.mp he
    exact ⟨⟨bs, List.Nodup.of_map _ hnodup⟩, rfl⟩

end Selection

theorem Interval.ofInt?_lines (i : Interval) : ofInt? i.lines = some i := by
  have hlines : (i.lines : Int).toNat = i.lines := Int.toNat_natCast i.lines
  have hpositive : 0 < (i.lines : Int).toNat := by
    rw [hlines]
    exact i.positive
  unfold ofInt?
  rw [dif_pos hpositive]
  cases i
  simp

/-- A reporter is made for every interval. -/
theorem Reporter.make_lines (i : Interval) : make i.lines = .ok (fresh i) := by
  unfold make
  rw [Interval.ofInt?_lines]

namespace Config

variable {d : Table Value} {c : Config}

/-- The members that a configuration may have. -/
def known : List String :=
  ["output_dir", "heuristics", "address_prefix", "trace"]

theorem shape_eq_accepted_iff : shape (.obj d) = .accepted c ↔ unexpected known d = [] ∧
    defaulted "output_dir" default.outputDir text d = .accepted c.outputDir ∧
    defaulted "heuristics" default.heuristics Selection.shape d = .accepted c.heuristics ∧
    defaulted "address_prefix" default.addressPrefix prefixShape d = .accepted c.addressPrefix ∧
    defaulted "trace" default.trace TraceSettings.shape d = .accepted c.trace := by
  simp only [shape, record, exact_eq_accepted_iff]
  refine and_congr_right fun _ => ?_
  simp only [Checked.seq_eq_accepted_iff, Checked.map_eq_accepted_iff]
  constructor
  · rintro ⟨_, t, ⟨_, p, ⟨_, h, ⟨o, ho, rfl⟩, hh, rfl⟩, hp, rfl⟩, ht, rfl⟩
    exact ⟨ho, hh, hp, ht⟩
  · rintro ⟨ho, hh, hp, ht⟩
    exact ⟨_, _, ⟨_, _, ⟨_, _, ⟨_, ho, rfl⟩, hh, rfl⟩, hp, rfl⟩, ht, rfl⟩

/-- The names of the heuristics, in the order of registration. -/
def names (c : Config) : List String :=
  c.heuristics.names

theorem builds_engine (c : Config) : Engine.Builds c.addressPrefix c.names c.engine :=
  Engine.builds_ofBuiltins c.heuristics.distinct

/-- A document that says nothing but the heuristics is accepted exactly if these are. -/
theorem exists_shape_heuristics_iff {v : Value} :
    (∃ c, shape (.obj [("heuristics", v)]) = .accepted c) ↔
      ∃ s, Selection.shape v = .accepted s := by
  constructor
  · rintro ⟨c, hc⟩
    obtain ⟨-, -, hs, -, -⟩ := shape_eq_accepted_iff.mp hc
    simp only [defaulted, Table.get?, if_true] at hs
    exact ⟨c.heuristics, Checked.under_eq_accepted_iff.mp hs⟩
  · rintro ⟨s, hs⟩
    refine ⟨{ default with heuristics := s }, shape_eq_accepted_iff.mpr ⟨rfl, rfl, ?_, rfl, rfl⟩⟩
    simp only [defaulted, Table.get?, if_true]
    exact Checked.under_eq_accepted_iff.mpr hs

/-- An accepted configuration has the names of its document, or the usual ones. -/
theorem get?_heuristics_of_accepted (h : shape (.obj d) = .accepted c) :
    d.get? "heuristics" = some (.arr (c.names.map .str)) ∨
      (d.get? "heuristics" = none ∨ d.get? "heuristics" = some .null) ∧
        c.names = Builtin.defaultOrder.map Builtin.name := by
  obtain ⟨-, -, hs, -, -⟩ := shape_eq_accepted_iff.mp h
  unfold defaulted at hs
  split at hs
  · next v hv =>
    rw [Checked.under_eq_accepted_iff, Selection.shape_eq_accepted_iff] at hs
    rcases hs with ⟨rfl, hdefault⟩ | ⟨rfl, -⟩
    · right
      rw [names, hdefault]
      exact ⟨.inr hv, rfl⟩
    · left
      exact hv
  · next hv =>
    right
    rw [names, ← Checked.accepted.inj hs]
    exact ⟨.inl hv, rfl⟩

/-- A list of names is accepted exactly if there are any and an engine can be built from them, and
this in turn if all are known and none is repeated. An accepted configuration has the names of its
document, or the usual ones; its engine can be built and has these names in this order, and a
reporter can be made that gives way at its pace. -/
theorem accepted_usable :
    (∀ (ns : List String) (addressPrefix : String),
      ((∃ c, shape (.obj [("heuristics", .arr (ns.map .str))]) = .accepted c) ↔
        ns ≠ [] ∧ ∃ e, Engine.Builds addressPrefix ns e) ∧
      ((∃ e, Engine.Builds addressPrefix ns e) ↔
        (∀ n ∈ ns, n ∈ Builtin.defaultOrder.map Builtin.name) ∧ ns.Nodup)) ∧
    ∀ (d : Table Value) (c : Config), shape (.obj d) = .accepted c →
      (d.get? "heuristics" = some (.arr (c.names.map .str)) ∨
        (d.get? "heuristics" = none ∨ d.get? "heuristics" = some .null) ∧
          c.names = Builtin.defaultOrder.map Builtin.name) ∧
      Engine.Builds c.addressPrefix c.names c.engine ∧ c.engine.names = c.names ∧
      Reporter.make c.trace.throttle.lines = .ok (.fresh c.trace.throttle) := by
  constructor
  · intro ns addressPrefix
    refine ⟨?_, Engine.exists_builds_iff⟩
    rw [exists_shape_heuristics_iff, ← Selection.exists_names_iff, and_comm]
    simp only [Selection.shape_strings_eq_accepted_iff, exists_and_right]
  · intro d c h
    have hbuilds := c.builds_engine
    exact ⟨get?_heuristics_of_accepted h, hbuilds, hbuilds.names_eq,
      Reporter.make_lines c.trace.throttle⟩

/-- Two heuristics in an order of their own, with a pace for the trace. -/
theorem accepted_usable_reordered :
    let d : Table Value := [("heuristics", .arr [.str "interface-name", .str "variable-chain"]),
      ("trace", .obj [("throttle_every", .int 3)])]
    ∃ c, shape (.obj d) = .accepted c ∧ c.engine.names = ["interface-name", "variable-chain"] ∧
      Engine.Builds c.addressPrefix ["interface-name", "variable-chain"] c.engine ∧
      Reporter.make 3 = .ok (.fresh c.trace.throttle) := by
  intro d
  obtain ⟨-, husable⟩ := accepted_usable
  have hd : shape (.obj d) = .accepted ⟨".calltarget",
      ⟨[.interfaceName, .variableChain], by decide⟩, Heuristic.defaultAddressPrefix,
      ⟨false, ⟨3, by decide⟩⟩⟩ :=
    rfl
  obtain ⟨-, hbuilds, hnames, hreporter⟩ := husable d _ hd
  exact ⟨_, hd, hnames, hbuilds, hreporter⟩

end Config

end CallAttribution
