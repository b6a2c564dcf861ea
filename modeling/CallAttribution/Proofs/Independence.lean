import CallAttribution.Proofs.Cancellation
import CallAttribution.Proofs.Document
import CallAttribution.Proofs.Table

/-!
# Call sites are resolved independently

The texts of all callers are read before the first call site is resolved, and looked up by address
afterwards. A batch that some document says lists no caller twice, so every call site gets the text
of its own caller, however similar the addresses. Therefore a batch comes to what its call sites
come to one by one: what else is in the batch shows neither in the record of a call site nor in its
lines.
-/

namespace CallAttribution

open Schema

theorem firstRepeated?_eq_none_iff {seen xs : List String} :
    firstRepeated? seen xs = none ↔ xs.Nodup ∧ ∀ x ∈ xs, x ∉ seen := by
  induction xs generalizing seen with
  | nil => simp [firstRepeated?]
  | cons x xs ih =>
    rw [firstRepeated?, List.nodup_cons]
    by_cases hx : x ∈ seen
    · simp [hx]
    · simp only [List.contains_iff_mem, hx, if_false, ih, List.mem_cons, not_or]
      grind

/-- The document of a caller. -/
def Caller.toJson (c : Caller) : Json :=
  .obj [("address", .str c.address), ("ir", .str c.representation),
    ("calls", .arr (c.calls.map CallSite.toJson))]

theorem Caller.shape_toJson (c : Caller) : shape c.toJson.toValue = .accepted c := by
  have hcalls : tuple CallSite.shape (.arr (Json.toValues (c.calls.map CallSite.toJson))) =
      .accepted c.calls :=
    elements_toValues (fun call _ => call.shape_toJson) 0
  change mk <$> Checked.accepted c.address <*> Checked.accepted c.representation
    <*> (tuple CallSite.shape (.arr (Json.toValues (c.calls.map CallSite.toJson)))).under
      "calls" = _
  rw [hcalls]
  rfl

namespace CallBatch

def toJson (b : CallBatch) : Json :=
  .obj [("callers", .arr (b.callers.map Caller.toJson))]

/-- The batch is what some document says. -/
def Accepted (b : CallBatch) : Prop :=
  ∃ v, shape v = .accepted b

theorem unrepeated_eq_accepted_iff {cs ds : List Caller} :
    unrepeated cs = .accepted ds ↔ (cs.map (·.address)).Nodup ∧ cs = ds := by
  have hnone := @firstRepeated?_eq_none_iff [] (cs.map (·.address))
  rw [unrepeated]
  split
  · next a ha => simp_all [Checked.refuse]
  · next ha => simp_all

/-- Some document says the batch exactly if no caller is listed twice. -/
theorem accepted_iff_nodup {b : CallBatch} :
    b.Accepted ↔ (b.callers.map (·.address)).Nodup := by
  constructor
  · rintro ⟨v, hv⟩
    obtain ⟨ms, -, hms⟩ := record_eq_accepted_iff.mp hv
    obtain ⟨cs, hcs, rfl⟩ := Checked.map_eq_accepted_iff.mp hms
    rw [defaulted] at hcs
    split at hcs
    · obtain ⟨ds, -, hds⟩ :=
        Checked.andThen_eq_accepted_iff.mp (Checked.under_eq_accepted_iff.mp hcs)
      obtain ⟨hnodup, rfl⟩ := unrepeated_eq_accepted_iff.mp hds
      exact hnodup
    · cases hcs
      exact List.nodup_nil
  · intro h
    have hcallers : tuple Caller.shape (.arr (Json.toValues (b.callers.map Caller.toJson))) =
        .accepted b.callers :=
      elements_toValues (fun c _ => c.shape_toJson) 0
    refine ⟨b.toJson.toValue, ?_⟩
    change mk <$> ((tuple Caller.shape
      (.arr (Json.toValues (b.callers.map Caller.toJson)))).andThen unrepeated).under
        "callers" = _
    rw [hcallers, Checked.andThen, unrepeated_eq_accepted_iff.mpr ⟨h, rfl⟩]
    rfl

/-- The callers of two batches, one after the other. -/
def append (b b' : CallBatch) : CallBatch :=
  ⟨b.callers ++ b'.callers⟩

theorem Accepted.append {b b' : CallBatch} (hb : b.Accepted) (hb' : b'.Accepted)
    (h : ∀ c ∈ b.callers, ∀ c' ∈ b'.callers, c.address ≠ c'.address) :
    (b.append b').Accepted := by
  rw [accepted_iff_nodup] at hb hb' ⊢
  rw [CallBatch.append, List.map_append, List.nodup_append]
  refine ⟨hb, hb', ?_⟩
  intro a ha a' ha'
  obtain ⟨c, hc, rfl⟩ := List.mem_map.mp ha
  obtain ⟨c', hc', rfl⟩ := List.mem_map.mp ha'
  exact h c hc c' hc'

/-- Every call site with the caller that it belongs to, in the order of the batch. -/
def sites (b : CallBatch) : List (Caller × CallSite) :=
  b.callers.flatMap fun c => c.calls.map fun call => (c, call)

/-- The batch of one call site, whose caller has the same address and the same text. -/
def alone (x : Caller × CallSite) : CallBatch :=
  ⟨[{ x.1 with calls := [x.2] }]⟩

theorem sites_append (b b' : CallBatch) : (b.append b').sites = b.sites ++ b'.sites := by
  simp [sites, append]

theorem alone_accepted (x : Caller × CallSite) : (alone x).Accepted :=
  accepted_iff_nodup.mpr (List.nodup_singleton _)

end CallBatch

/-- What may be looked at to resolve a call site of a caller, going by the caller alone. -/
def siteContext (s : Snapshot) (x : Caller × CallSite) : Context :=
  ⟨x.2, x.1.address, s, Assignments.ofText x.1.representation⟩

/-- Each call site of an accepted batch gets the text of its own caller. -/
theorem CallBatch.Accepted.contexts_eq {b : CallBatch} (hb : b.Accepted) (s : Snapshot) :
    b.contexts s = b.sites.map (siteContext s) := by
  have hkeys : ((b.callers.map fun c => (c.address, c.representation)).map
      fun e => (e.1, Assignments.ofText e.2)).map Prod.fst = b.callers.map (·.address) := by
    simp
  have hnodup := hkeys ▸ CallBatch.accepted_iff_nodup.mp hb
  have hget : ∀ c ∈ b.callers,
      (Assignments.ofTexts (b.callers.map fun c => (c.address, c.representation))).get?
        c.address = some (Assignments.ofText c.representation) := by
    intro c hc
    rw [Assignments.ofTexts, Table.ofEntries_eq_self hnodup]
    refine Table.get?_of_mem hnodup ?_
    simp only [List.map_map, List.mem_map, Function.comp_apply]
    exact ⟨c, hc, rfl⟩
  rw [CallBatch.contexts, CallBatch.sites, List.map_flatMap]
  refine List.flatMap_congr fun c hc => ?_
  simp [hget c hc, siteContext, Function.comp_def]

namespace Engine

variable (e : Engine) (s : Snapshot) (reporter : Option Reporter)

theorem records_of_accepted {b : CallBatch} (hb : b.Accepted) :
    (e.outcome s b none reporter).records =
      b.sites.map fun x => e.recordFor (siteContext s x) := by
  rw [outcome_none, hb.contexts_eq, List.map_map]
  rfl

theorem trace_of_accepted {b : CallBatch} (hb : b.Accepted) :
    e.trace s b none reporter =
      b.sites.flatMap fun x => (e.resolve (siteContext s x)).events := by
  rw [trace_none, hb.contexts_eq, List.flatMap_map]

theorem records_alone (x : Caller × CallSite) :
    (e.outcome s (.alone x) none reporter).records = [e.recordFor (siteContext s x)] :=
  e.records_of_accepted s reporter (CallBatch.alone_accepted x)

theorem trace_alone (x : Caller × CallSite) :
    e.trace s (.alone x) none reporter = (e.resolve (siteContext s x)).events := by
  rw [e.trace_of_accepted s reporter (CallBatch.alone_accepted x)]
  exact List.append_nil _

/-- Each call site of a batch, in order, comes to one record and to the lines of one call site, and
both are those of the batch of this call site alone. -/
structure ResolvesApart (b : CallBatch) : Prop where
  records : List.Forall₂
    (fun x r => (e.outcome s (.alone x) none reporter).records = [r] ∧
      r.caller = x.1.address ∧ r.call = x.2)
    b.sites (e.outcome s b none reporter).records
  lines : e.trace s b none reporter =
    b.sites.flatMap fun x => e.trace s (.alone x) none reporter
  stride : ∀ x ∈ b.sites,
    (e.trace s (.alone x) none reporter).length = e.heuristics.length + 2

theorem resolvesApart {b : CallBatch} (hb : b.Accepted) : e.ResolvesApart s reporter b where
  records := by
    rw [e.records_of_accepted s reporter hb, List.forall₂_map_right_iff]
    exact List.forall₂_same.mpr fun x _ => ⟨e.records_alone s reporter x, rfl, rfl⟩
  lines := by
    simp only [trace_alone, e.trace_of_accepted s reporter hb]
  stride := by
    intro x _
    rw [trace_alone]
    exact e.length_events_resolve _

/-- A batch that is not cancelled comes to what it comes to without a rule for stopping. -/
theorem eq_of_not_cancelled {b : CallBatch} {rule : CancelRule}
    (h : (e.outcome s b (some rule) reporter).cancelled = false) :
    (e.outcome s b (some rule) reporter).records = (e.outcome s b none reporter).records ∧
      e.trace s b (some rule) reporter = e.trace s b none reporter := by
  have hstops := e.stopsAfter_noesBefore s b rule reporter
  have hall : b.callCount ≤ noesBefore (e.answerBefore s b rule reporter) b.callCount := by
    refine Nat.le_of_not_lt fun hlt => ?_
    rw [hstops.cancelled.mpr hlt] at h
    cases h
  rw [hstops.records, hstops.trace]
  refine ⟨List.take_of_length_le ?_, List.take_of_length_le ?_⟩
  · rw [length_records_none]
    exact hall
  · rw [length_trace_none]
    exact Nat.mul_le_mul_right _ hall

/-- Nothing leaks from one call site to another, and none is lost or made twice. Each call site of
an accepted batch is resolved as if it were alone, and a rule for stopping that does not cancel the
batch changes nothing. So a call site that two accepted batches share, with its caller's address and
text, has the same record in both, and two batches without a common caller come to one after the
other what they come to together. -/
theorem call_sites_independent {b b' : CallBatch} (hb : b.Accepted) (hb' : b'.Accepted) :
    e.ResolvesApart s reporter b ∧
      (∀ rule, (e.outcome s b (some rule) reporter).cancelled = false →
        (e.outcome s b (some rule) reporter).records = (e.outcome s b none reporter).records ∧
          e.trace s b (some rule) reporter = e.trace s b none reporter) ∧
      (∀ (i j : Nat) (x x' : Caller × CallSite),
        b.sites[i]? = some x → b'.sites[j]? = some x' → x.1.address = x'.1.address →
        x.1.representation = x'.1.representation → x.2 = x'.2 →
        (e.outcome s b none reporter).records[i]? =
          (e.outcome s b' none reporter).records[j]?) ∧
      ((∀ c ∈ b.callers, ∀ c' ∈ b'.callers, c.address ≠ c'.address) →
        (b.append b').Accepted ∧
          (e.outcome s (b.append b') none reporter).records =
            (e.outcome s b none reporter).records ++ (e.outcome s b' none reporter).records ∧
          e.trace s (b.append b') none reporter =
            e.trace s b none reporter ++ e.trace s b' none reporter) := by
  refine ⟨e.resolvesApart s reporter hb, fun _ => e.eq_of_not_cancelled s reporter, ?_, ?_⟩
  · intro i j x x' hx hx' haddress htext hcall
    have hcontext : siteContext s x = siteContext s x' := by
      rw [siteContext, siteContext, haddress, htext, hcall]
    rw [e.records_of_accepted s reporter hb, e.records_of_accepted s reporter hb',
      List.getElem?_map, List.getElem?_map, hx, hx', Option.map_some, Option.map_some, hcontext]
  · intro hdisjoint
    have hboth := hb.append hb' hdisjoint
    refine ⟨hboth, ?_, ?_⟩
    · rw [e.records_of_accepted s reporter hboth, e.records_of_accepted s reporter hb,
        e.records_of_accepted s reporter hb', CallBatch.sites_append, List.map_append]
    · rw [e.trace_of_accepted s reporter hboth, e.trace_of_accepted s reporter hb,
        e.trace_of_accepted s reporter hb', CallBatch.sites_append, List.flatMap_append]

/-- Two callers whose addresses differ in case alone and whose texts assign the same variable, in
either order, and a third caller. -/
theorem call_sites_independent_similar :
    let s : Snapshot := ⟨[⟨"0xAB", some "Vault", some "Contract",
      some [("a", .str "eth:0x1"), ("b", .str "eth:0x2")]⟩], []⟩
    let call : CallSite := ⟨"t", "IToken", "f"⟩
    let upper : Caller := ⟨"0xAb", "t(IToken) := a(IToken)", [call]⟩
    let lower : Caller := ⟨"0xaB", "t(IToken) := b(IToken)", [call]⟩
    let other : CallBatch := ⟨[⟨"0x3", "", [call, call]⟩]⟩
    let b : CallBatch := ⟨[upper, lower]⟩
    let swapped : CallBatch := ⟨[lower, upper]⟩
    let records := fun b => (Config.default.engine.outcome s b none none).records
    b.Accepted ∧ swapped.Accepted ∧ other.Accepted ∧ (records b)[0]? = (records swapped)[1]? ∧
      records (b.append other) = records b ++ records other := by
  intro s call upper lower other b swapped records
  have hb : b.Accepted := CallBatch.accepted_iff_nodup.mpr (by decide)
  have hswapped : swapped.Accepted := CallBatch.accepted_iff_nodup.mpr (by decide)
  have hother : other.Accepted := CallBatch.accepted_iff_nodup.mpr (by decide)
  refine ⟨hb, hswapped, hother, ?_, ?_⟩
  · exact (Config.default.engine.call_sites_independent s none hb hswapped).2.2.1 0 1
      (upper, call) (upper, call) rfl rfl rfl rfl rfl
  · exact ((Config.default.engine.call_sites_independent s none hb hother).2.2.2
      (by decide)).2.1

end Engine

end CallAttribution
