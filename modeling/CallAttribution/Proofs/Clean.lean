import CallAttribution.Proofs.Criterion
import CallAttribution.Proofs.Tally

/-!
# What a clean validation tells

A validation counts the records and adds up the summary, but it does not count who has won the
records. When it finds nothing wrong and nothing to warn of, the summary has the right total and
its numbers fit each other; so it describes the records exactly if the counts of the single
heuristics are right, and these are taken on trust.
-/

namespace CallAttribution

namespace Artifact

/-- A line of the file of the records is read as this record. -/
def ReadAs (line : Bytes) (r : Record) : Prop :=
  (Json.read? line).map Record.shape = some (.accepted r)

/-- The lines of the file of the records in a directory, blank ones apart, are read as these
records. -/
def RecordsIn (t : FileTree) (dir : Path) (records : List Record) : Prop :=
  ∃ b, t.read (dir.child "resolutions.jsonl") = .ok b ∧
    List.Forall₂ ReadAs (Validation.statedLines b) records

variable {t : FileTree} {dir : Path} {s s' : Summary} {records records' : List Record}

theorem RecordsIn.unique (h : RecordsIn t dir records) (h' : RecordsIn t dir records') :
    records = records' := by
  obtain ⟨b, hread, hlines⟩ := h
  obtain ⟨b', hread', hlines'⟩ := h'
  rw [hread] at hread'
  cases hread'
  refine List.right_unique_forall₂' (fun line r r' hr hr' => ?_) hlines hlines'
  have heq := hr.symm.trans hr'
  simpa using heq

theorem SummaryIn.unique (h : SummaryIn t dir s) (h' : SummaryIn t dir s') : s = s' := by
  obtain ⟨b, hread, hs⟩ := h
  obtain ⟨b', hread', hs'⟩ := h'
  rw [hread] at hread'
  cases hread'
  have heq := hs.symm.trans hs'
  simpa using heq

end Artifact

namespace Summary

/-- The total is the number of the records, and the other numbers fit each other. -/
structure Fits (s : Summary) (records : List Record) : Prop where
  total : s.total = records.length
  resolved : s.resolved = (s.byHeuristic.map Prod.snd).sum
  unresolved : s.unresolved = s.total - s.resolved

/-- If the numbers fit, all of them are right as soon as the counts of the single heuristics are. -/
theorem Fits.describes_iff {s : Summary} {records : List Record} (h : s.Fits records) :
    s.Describes records ↔ Tallies s.byHeuristic records := by
  constructor
  · intro hd
    exact hd.byHeuristic
  · intro ht
    have hresolved : s.resolved = records.countP fun r => r.decision.isSome := by
      rw [h.resolved, ← sumCounts_eq_sum, ht.sumCounts_eq]
    have hunresolved : s.unresolved = records.countP fun r => r.decision.isNone := by
      rw [h.unresolved, hresolved, h.total, countP_isNone]
    exact ⟨h.total, hresolved, hunresolved, ht⟩

end Summary

namespace Validation

open Artifact

variable {t : FileTree} {dir : Path} {v : Validation}

/-- The record is of version 1 and its flag tells whether it has a decision. -/
def Sound (r : Record) : Prop :=
  r.version = 1 ∧ r.resolved = r.decision.isSome

theorem recordInOrder_iff {line : Bytes} : RecordInOrder line ↔ ∃ r, ReadAs line r ∧ Sound r := by
  constructor
  · rintro ⟨v, r, hread, hshape, hsound⟩
    refine ⟨r, ?_, hsound⟩
    rw [ReadAs, hread, Option.map_some, hshape]
  · rintro ⟨r, hr, hsound⟩
    obtain ⟨v, hread, hshape⟩ := Option.map_eq_some_iff.mp hr
    exact ⟨v, r, hread, hshape, hsound⟩

/-- Lines in order are read as sound records, one for each line. -/
theorem forall_recordInOrder_iff {lines : List Bytes} :
    (∀ line ∈ lines, RecordInOrder line) ↔
      ∃ records, List.Forall₂ ReadAs lines records ∧ ∀ r ∈ records, Sound r := by
  induction lines with
  | nil => simp
  | cons line lines ih =>
    rw [List.forall_mem_cons, ih, recordInOrder_iff]
    constructor
    · rintro ⟨⟨r, hr, hsound⟩, records, hrecords, hall⟩
      exact ⟨r :: records, hrecords.cons hr, List.forall_mem_cons.mpr ⟨hsound, hall⟩⟩
    · rintro ⟨records, hrecords, hall⟩
      obtain ⟨r, rest, hr, hrest, rfl⟩ := List.forall₂_cons_left_iff.mp hrecords
      obtain ⟨hsound, hall⟩ := List.forall_mem_cons.mp hall
      exact ⟨⟨r, hr, hsound⟩, rest, hrest, hall⟩

theorem summaryInOrder_iff {b : Bytes} {n : Nat} :
    SummaryInOrder b n ↔ ∃ s, (Json.read? b).map Summary.shape = some (.accepted s) ∧
      s.version = 1 ∧ s.total = n ∧ s.resolved + s.unresolved = s.total := by
  constructor
  · rintro ⟨ms, s, hread, hshape, hcounts⟩
    refine ⟨s, ?_, hcounts⟩
    rw [hread, Option.map_some, hshape]
  · rintro ⟨s, hs, hcounts⟩
    obtain ⟨v, hread, hshape⟩ := Option.map_eq_some_iff.mp hs
    obtain ⟨ms, rfl, -⟩ := Schema.record_eq_accepted_iff.mp hshape
    exact ⟨ms, s, hread, hshape, hcounts⟩

theorem warnings_checkRecords (artifact : String) (p : Path) :
    (checkRecords t artifact p).1.warnings = [] := by
  unfold checkRecords
  split <;> rfl

/-- The one thing to warn of: the counts of the single heuristics do not add up. -/
theorem warnings_checkSummary {artifact : String} {p : Path} {n : Option Nat} {s : Summary}
    (h : readSummary t p = .ok s) :
    (checkSummary t artifact p n).warnings = [] ↔
      s.resolved = (s.byHeuristic.map Prod.snd).sum := by
  have hwarnings : (checkSummary t artifact p n).warnings =
      (countWarnings s).map fun c => ⟨artifact, p, none, c⟩ := by
    unfold checkSummary
    rw [h]
  rw [hwarnings, List.map_eq_nil_iff, countWarnings, Summary.attributed, Summary.sumCounts_eq_sum]
  split_ifs with heq
  · simp [heq]
  · simpa using Ne.symm heq

/-- When both files can be read, both are looked at. -/
theorem ofDirectory_of_read {records summary : Bytes}
    (hdir : t.stat? dir = .ok (some .directory))
    (hrecords : t.read (dir.child recordsFile) = .ok records)
    (hsummary : t.read (dir.child summaryFile) = .ok summary) :
    ofDirectory t dir defaultSpecs = .ok (append
      (checkRecords t "resolutions" (dir.child recordsFile)).1
      (append (checkSummary t "summary" (dir.child summaryFile)
        (some (checkRecords t "resolutions" (dir.child recordsFile)).2)) nothing)) := by
  have hr := FileTree.stat?_of_read hrecords
  have hs := FileTree.stat?_of_read hsummary
  simp only [ofDirectory, defaultSpecs, checkFiles, hdir, hr, hs, bind, Except.bind, pure,
    Except.pure]
  rfl

theorem readSummary_of_shape {p : Path} {b : Bytes} {s : Summary} (hread : t.read p = .ok b)
    (hs : (Json.read? b).map Summary.shape = some (.accepted s)) : readSummary t p = .ok s := by
  obtain ⟨w, hw, hshape⟩ := Option.map_eq_some_iff.mp hs
  obtain ⟨ms, rfl, -⟩ := Schema.record_eq_accepted_iff.mp hshape
  exact readSummary_eq_ok.mpr ⟨b, ms, hread, hw, hshape⟩

/-- Once both files can be read, there is nothing to warn of exactly if the counts of the single
heuristics add up. -/
theorem warnings_ofDirectory {records summary : Bytes} {s : Summary}
    (hdir : t.stat? dir = .ok (some .directory))
    (hrecords : t.read (dir.child recordsFile) = .ok records)
    (hsummary : t.read (dir.child summaryFile) = .ok summary)
    (hs : (Json.read? summary).map Summary.shape = some (.accepted s))
    (h : ofDirectory t dir defaultSpecs = .ok v) :
    v.warnings = [] ↔ s.resolved = (s.byHeuristic.map Prod.snd).sum := by
  rw [ofDirectory_of_read hdir hrecords hsummary] at h
  cases h
  have hcheck := @warnings_checkSummary t "summary" (dir.child summaryFile)
    (some (checkRecords t "resolutions" (dir.child recordsFile)).2) s
    (readSummary_of_shape hsummary hs)
  simpa [append, nothing, warnings_checkRecords] using hcheck

/-- A validation finds nothing wrong and nothing to warn of exactly if the two files hold sound
records and a summary that fits them. -/
theorem clean_iff :
    (∃ v, ofDirectory t dir defaultSpecs = .ok v ∧ v.errors = [] ∧ v.warnings = []) ↔
      t.stat? dir = .ok (some .directory) ∧ ∃ records s, RecordsIn t dir records ∧
        SummaryIn t dir s ∧ (∀ r ∈ records, Sound r) ∧ s.version = 1 ∧ s.Fits records := by
  constructor
  · rintro ⟨v, hv, herrors, hwarnings⟩
    have hpasses : Passes (ofDirectory t dir defaultSpecs) :=
      ⟨v, hv, List.isEmpty_iff.mpr herrors⟩
    obtain ⟨hdir, hfiles⟩ := passes_ofDirectory_iff.mp hpasses
    obtain ⟨b, c, hb, hc, hlines, hcounts⟩ := passes_defaultSpecs_iff.mp hfiles
    obtain ⟨records, hrecords, hsound⟩ := forall_recordInOrder_iff.mp hlines
    obtain ⟨s, hs, hversion, htotal, hsplit⟩ := summaryInOrder_iff.mp hcounts
    -- the errors settle everything but the sum of the counts, which is only warned of
    have hsum := (warnings_ofDirectory hdir hb hc hs hv).mp hwarnings
    have hfits : s.Fits records :=
      ⟨by rw [htotal, hrecords.length_eq], hsum, by omega⟩
    exact ⟨hdir, records, s, ⟨b, hb, hrecords⟩, ⟨c, hc, hs⟩, hsound, hversion, hfits⟩
  · rintro ⟨hdir, records, s, ⟨b, hb, hrecords⟩, ⟨c, hc, hs⟩, hsound, hversion, hfits⟩
    have hlines := forall_recordInOrder_iff.mpr ⟨records, hrecords, hsound⟩
    have htotal : s.total = (statedLines b).length := by rw [hfits.total, hrecords.length_eq]
    have hsplit := hfits.unresolved
    have hcounts := summaryInOrder_iff.mpr ⟨s, hs, hversion, htotal, by omega⟩
    obtain ⟨v, hv, hok⟩ := passes_ofDirectory_iff.mpr
      ⟨hdir, passes_defaultSpecs_iff.mpr ⟨b, c, hb, hc, hlines, hcounts⟩⟩
    have hwarnings := (warnings_ofDirectory hdir hb hc hs hv).mpr hfits.resolved
    exact ⟨v, hv, List.isEmpty_iff.mp hok, hwarnings⟩

/-- After a clean validation the total is the number of the records, every flag tells whether there
is a decision, the counts of the single heuristics add up to the resolved call sites, and the
unresolved ones are the others. So the summary describes the records exactly if it names the winners
rightly. -/
theorem summary_of_clean (h : ofDirectory t dir defaultSpecs = .ok v) (he : v.errors = [])
    (hw : v.warnings = []) :
    (∃ records, RecordsIn t dir records) ∧ (∃ s, SummaryIn t dir s) ∧
      ∀ records s, RecordsIn t dir records → SummaryIn t dir s →
        (∀ r ∈ records, r.resolved = r.decision.isSome) ∧
          s.total = records.length ∧
          s.resolved = (s.byHeuristic.map Prod.snd).sum ∧
          s.unresolved = s.total - s.resolved ∧
          (s.Describes records ↔ Summary.Tallies s.byHeuristic records) := by
  obtain ⟨-, records, s, hrecords, hs, hsound, -, hfits⟩ := clean_iff.mp ⟨v, h, he, hw⟩
  refine ⟨⟨records, hrecords⟩, ⟨s, hs⟩, fun records' s' hrecords' hs' => ?_⟩
  cases hrecords.unique hrecords'
  cases hs.unique hs'
  exact ⟨fun r hr => (hsound r hr).2, hfits.total, hfits.resolved, hfits.unresolved,
    hfits.describes_iff⟩

theorem shape_of_toOption {α : Type} {shape : Value → Schema.Checked α} {b : Bytes} {x : α}
    (h : ((Json.read? b).bind fun w => ((shape w).toExcept "").toOption) = some x) :
    (Json.read? b).map shape = some (.accepted x) := by
  obtain ⟨w, hw, hx⟩ := Option.bind_eq_some_iff.mp h
  rw [hw, Option.map_some]
  cases hshape : shape w with
  | refused issues => simp [hshape, Schema.Checked.toExcept, Except.toOption] at hx
  | accepted y => simpa [hshape, Schema.Checked.toExcept, Except.toOption] using hx

/-- The line of a call site that is not resolved. -/
def unresolvedLine : Bytes :=
  Text.encode ("\x7b\"caller_address\":\"\",\"call\":\x7b\"storage_variable\":\"\"," ++
    "\"interface_type\":\"\",\"called_function\":\"\"\x7d,\"resolved\":false\x7d")

/-- Beside this line stands a summary that counts the call site as resolved. -/
def overstated : FileTree where
  nodes :=
    [(["a"], .directory), (["a", "resolutions.jsonl"], .file unresolvedLine),
      (["a", "resolution_summary.json"], .file (Text.encode ("\x7b\"total\":1,\"resolved\":1," ++
        "\"unresolved\":0,\"by_heuristic\":\x7b\"x\":1\x7d\x7d")))]
  distinct := by decide

theorem recordsIn_overstated :
    RecordsIn overstated ⟨.root, ["a"]⟩ [.ofDecision "" ⟨"", "", ""⟩ none] := by
  have hlines : statedLines unresolvedLine = [unresolvedLine] := by decide +kernel
  have hread : ReadAs unresolvedLine (.ofDecision "" ⟨"", "", ""⟩ none) :=
    shape_of_toOption (by decide +kernel)
  refine ⟨unresolvedLine, rfl, ?_⟩
  rw [hlines]
  exact .cons hread .nil

theorem summaryIn_overstated :
    SummaryIn overstated ⟨.root, ["a"]⟩ ⟨1, 1, 1, 0, [("x", 1)], false⟩ :=
  ⟨_, rfl, shape_of_toOption (by decide +kernel)⟩

theorem clean_overstated :
    ∃ v, ofDirectory overstated ⟨.root, ["a"]⟩ defaultSpecs = .ok v ∧ v.errors = [] ∧
      v.warnings = [] := by
  refine clean_iff.mpr ⟨by decide +kernel, _, _, recordsIn_overstated, summaryIn_overstated, ?_,
    rfl, ⟨rfl, rfl, rfl⟩⟩
  simp [Sound, Record.ofDecision, schemaVersion]

/-- A clean validation does not make the summary describe the records: nothing relates the counts
of the single heuristics to the decisions. -/
theorem clean_without_describing :
    (∃ v, ofDirectory overstated ⟨.root, ["a"]⟩ defaultSpecs = .ok v ∧ v.errors = [] ∧
      v.warnings = []) ∧
    ∃ records s, RecordsIn overstated ⟨.root, ["a"]⟩ records ∧
      SummaryIn overstated ⟨.root, ["a"]⟩ s ∧ s.resolved = 1 ∧
      (records.countP fun r => r.decision.isSome) = 0 ∧ ¬ s.Describes records := by
  refine ⟨clean_overstated, _, _, recordsIn_overstated, summaryIn_overstated, rfl, rfl, ?_⟩
  intro h
  have hresolved := h.resolved
  simp [Record.ofDecision] at hresolved

/-- The numbers of the summary that tells too much fit each other, but they are not the numbers of
the records. -/
theorem summary_of_clean_overstated :
    ∃ records s, RecordsIn overstated ⟨.root, ["a"]⟩ records ∧
      SummaryIn overstated ⟨.root, ["a"]⟩ s ∧ s.total = records.length ∧
      s.resolved = (s.byHeuristic.map Prod.snd).sum ∧
      ¬ Summary.Tallies s.byHeuristic records := by
  obtain ⟨v, hv, herrors, hwarnings⟩ := clean_overstated
  obtain ⟨⟨records, hrecords⟩, ⟨s, hs⟩, h⟩ := summary_of_clean hv herrors hwarnings
  obtain ⟨-, htotal, hresolved, -, -⟩ := h records s hrecords hs
  refine ⟨records, s, hrecords, hs, htotal, hresolved, ?_⟩
  cases hrecords.unique recordsIn_overstated
  cases hs.unique summaryIn_overstated
  intro ht
  have hcounted := ht.counted "x"
  simp [Table.get?, Record.wonBy, Record.ofDecision] at hcounted

end Validation

end CallAttribution
