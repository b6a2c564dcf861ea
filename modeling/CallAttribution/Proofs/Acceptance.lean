import CallAttribution.Config
import CallAttribution.Proofs.Artifact

/-!
# Written artifacts are accepted and can be read back

Whatever a batch of call sites has come to, once its outcome has been written nothing is found
wrong with the directory, and the two files hold the outcome: the records line by line and the
summary. So the files determine the records and the summary.
-/

namespace CallAttribution

namespace Validation

/-- Consistent records of the known version give no cause for complaint. -/
theorem lineComplaints_records {rs : List Record} (h : ∀ r ∈ rs, r.Consistent) (n : Nat) :
    lineComplaints n false (rs.map .record ++ [.blank]) = [] := by
  induction rs generalizing n with
  | nil => rfl
  | cons r rs ih =>
    obtain ⟨hr, hrs⟩ := List.forall_mem_cons.mp h
    simp only [List.map_cons, List.cons_append, lineComplaints, versionComplaints, flagComplaints,
      hr.version, hr.resolved]
    simpa using ih hrs (n + 1)

theorem recordsOf_records (rs : List Record) :
    recordsOf (rs.map .record ++ [.blank]) = rs := by
  simp [recordsOf, List.filterMap_append, List.filterMap_map]

/-- The counts that a summary takes from records agree with each other. -/
theorem countComplaints_ofRecords (rs : List Record) (cancelled : Bool) :
    countComplaints (some rs.length) (Summary.ofRecords rs cancelled) = [] := by
  simp [countComplaints, Summary.ofRecords]

theorem countWarnings_ofRecords (rs : List Record) (cancelled : Bool) :
    countWarnings (Summary.ofRecords rs cancelled) = [] :=
  if_pos rfl

variable {t u : FileTree} {dir : Path} {o : Outcome} {d : Location} {b : Bytes}

theorem checkRecords_of_written (hw : Artifact.Written t dir o d b u)
    (hc : ∀ r ∈ o.records, r.Consistent) (artifact : String) :
    checkRecords u artifact (dir.child Artifact.recordsFile) = (nothing, o.records.length) := by
  simp only [checkRecords, hw.read_recordsFile, linesOf_encodeRecords hc,
    lineComplaints_records hc, recordsOf_records, List.map_nil]
  rfl

theorem readSummary_of_written (hw : Artifact.Written t dir o d b u) :
    readSummary u (dir.child Artifact.summaryFile) = .ok o.summary := by
  have hread := Artifact.read?_of_encodeSummary? hw.encoded
  have hshape := o.summary.shape_toJson
  obtain ⟨ms, hms⟩ : ∃ ms, o.summary.toJson.toValue = .obj ms := ⟨_, rfl⟩
  rw [Outcome.summary] at hms hshape
  rw [hms] at hread hshape
  simp only [readSummary, hw.read_summaryFile, hread, hshape]
  rfl

theorem checkSummary_of_written (hw : Artifact.Written t dir o d b u) (artifact : String) :
    checkSummary u artifact (dir.child Artifact.summaryFile) (some o.records.length) =
      nothing := by
  have hcounts := countComplaints_ofRecords o.records o.cancelled
  have hwarnings := countWarnings_ofRecords o.records o.cancelled
  simp only [checkSummary, readSummary_of_written hw, Outcome.summary, hcounts, hwarnings]
  rfl

/-- Nothing is wrong with a directory that consistent records were written into. -/
theorem ofDirectory_of_written (hw : Artifact.Written t dir o d b u)
    (hc : ∀ r ∈ o.records, r.Consistent) : ofDirectory u dir defaultSpecs = .ok nothing := by
  have hdir := FileTree.stat?_of_locate hw.located hw.directory
  have hrecords := FileTree.stat?_of_locate hw.locate_recordsFile hw.records
  have hsummary := FileTree.stat?_of_locate hw.locate_summaryFile hw.summary
  have hfiles : checkFiles u dir none defaultSpecs = .ok nothing := by
    simp only [defaultSpecs, checkFiles, hrecords, hsummary, bind, Except.bind, pure, Except.pure,
      checkRecords_of_written hw hc, checkSummary_of_written hw]
    rfl
  simp only [ofDirectory, hdir, bind, Except.bind]
  exact hfiles

/-- Whatever has been written is accepted: in either mode, for every engine, snapshot, batch and
rule for stopping, and over any file tree. -/
theorem ofDirectory_write {e : Engine} {s : Snapshot} {calls : CallBatch}
    {cancel : Option CancelRule} {reporter : Option Reporter} {files : List Path}
    (h : Artifact.write t dir (e.outcome s calls cancel reporter) = (.ok files, u)) :
    ofDirectory u dir defaultSpecs = .ok nothing := by
  obtain ⟨d, b, hw⟩ := Artifact.exists_written h
  exact ofDirectory_of_written hw fun _ => Engine.consistent_of_mem_outcome

/-- One call site whose texts need escaping, resolved by its interface, with lines delivered in the
suspending mode. -/
theorem ofDirectory_write_escaped :
    let s : Snapshot := ⟨[⟨"0xA\n", some "to\"ken", some "Contract", none⟩], []⟩
    let calls : CallBatch := ⟨[⟨"0x\\1", "", [⟨"t\x01", "ITo\"ken", "é\u2028"⟩]⟩]⟩
    let dir : Path := ⟨.root, ["out"]⟩
    let o := Config.default.engine.outcome s calls none (some (.fresh .one))
    ∃ u, Artifact.write .empty dir o =
        (.ok [dir.child "resolutions.jsonl", dir.child "resolution_summary.json"], u) ∧
      ofDirectory u dir defaultSpecs = .ok nothing := by
  intro s calls dir o
  have h : (Artifact.write .empty dir o).1 =
      .ok [dir.child "resolutions.jsonl", dir.child "resolution_summary.json"] := by
    decide +kernel
  have hw := Artifact.write_eq_of_fst h
  exact ⟨_, hw, ofDirectory_write hw⟩

end Validation

namespace Artifact

/-- The two files hold an outcome: each line of the first is read as the record of its number, and
the second is read as the summary. -/
structure Holds (records summary : Bytes) (o : Outcome) : Prop where
  count : records.count 0x0a = o.records.length
  ended : o.records ≠ [] → records.getLast? = some 0x0a
  line : ∀ (k : Nat) (r : Record), o.records[k]? = some r →
    ∃ b, (Text.pieces 0x0a records)[k]? = some b ∧
      (Json.read? b).map Record.shape = some (.accepted r)
  summary : (Json.read? summary).map Summary.shape = some (.accepted o.summary)

theorem Written.holds {t u : FileTree} {dir : Path} {o : Outcome} {d : Location} {b : Bytes}
    (hw : Written t dir o d b u) (hc : ∀ r ∈ o.records, r.Consistent) :
    Holds (encodeRecords o.records) b o where
  count := count_encodeRecords o.records
  ended := getLast?_encodeRecords
  line := by
    intro k r hk
    have hr := hc r (List.mem_of_getElem? hk)
    refine ⟨line r, ?_, ?_⟩
    · have hlt : k < (o.records.map line).length := by
        rw [List.length_map]
        exact (List.getElem?_eq_some_iff.mp hk).choose
      rw [pieces_encodeRecords, List.getElem?_append_left hlt, List.getElem?_map, hk]
      rfl
    · rw [read?_line hr, Option.map_some, Record.shape_toJson hr]
  summary := by
    rw [read?_of_encodeSummary? hw.encoded, Option.map_some, Summary.shape_toJson]
    rfl

/-- Files do not hold two outcomes that differ in their records or in their summary. -/
theorem Holds.unique {records summary : Bytes} {o o' : Outcome} (h : Holds records summary o)
    (h' : Holds records summary o') : o.records = o'.records ∧ o.summary = o'.summary := by
  constructor
  · have hlen : o.records.length = o'.records.length := h.count.symm.trans h'.count
    refine List.ext_getElem? fun k => ?_
    rcases Nat.lt_or_ge k o.records.length with hk | hk
    · obtain ⟨b, hb, hr⟩ := h.line k _ (List.getElem?_eq_getElem hk)
      obtain ⟨b', hb', hr'⟩ := h'.line k _ (List.getElem?_eq_getElem (hlen ▸ hk))
      rw [hb] at hb'
      cases hb'
      rw [hr] at hr'
      rw [List.getElem?_eq_getElem hk, List.getElem?_eq_getElem (hlen ▸ hk)]
      simpa using hr'
    · rw [List.getElem?_eq_none hk, List.getElem?_eq_none (hlen ▸ hk)]
  · have hs := h.summary.symm.trans h'.summary
    simpa using hs

/-- What has been written is recovered from the two files, so outcomes that were written as the same
bytes have the same records and the same summary. -/
theorem holds_of_write {e : Engine} {s : Snapshot} {calls : CallBatch} {cancel : Option CancelRule}
    {reporter : Option Reporter} {t u : FileTree} {dir : Path} {files : List Path}
    (h : write t dir (e.outcome s calls cancel reporter) = (.ok files, u)) :
    ∃ records summary, u.read (dir.child recordsFile) = .ok records ∧
      u.read (dir.child summaryFile) = .ok summary ∧
      Holds records summary (e.outcome s calls cancel reporter) ∧
      ∀ {e' : Engine} {s' : Snapshot} {calls' : CallBatch} {cancel' : Option CancelRule}
        {reporter' : Option Reporter} {t' u' : FileTree} {dir' : Path} {files' : List Path},
        write t' dir' (e'.outcome s' calls' cancel' reporter') = (.ok files', u') →
        u'.read (dir'.child recordsFile) = .ok records →
        u'.read (dir'.child summaryFile) = .ok summary →
        (e'.outcome s' calls' cancel' reporter').records =
            (e.outcome s calls cancel reporter).records ∧
          (e'.outcome s' calls' cancel' reporter').summary =
            (e.outcome s calls cancel reporter).summary := by
  obtain ⟨d, b, hw⟩ := exists_written h
  have hh := hw.holds fun _ => Engine.consistent_of_mem_outcome
  refine ⟨_, b, hw.read_recordsFile, hw.read_summaryFile, hh, ?_⟩
  intro e' s' calls' cancel' reporter' t' u' dir' files' h' hrecords hsummary
  obtain ⟨d', b', hw'⟩ := exists_written h'
  have hh' := hw'.holds fun _ => Engine.consistent_of_mem_outcome
  have hr := hrecords.symm.trans hw'.read_recordsFile
  have hs := hsummary.symm.trans hw'.read_summaryFile
  rw [← Except.ok.inj hr, ← Except.ok.inj hs] at hh'
  exact hh'.unique hh

/-- A call site is resolved to a candidate without a name, and the batch is cancelled before the
second one. -/
theorem holds_of_write_cancelled :
    let s : Snapshot := ⟨[⟨"0xA", none, some "Contract", none⟩], [("0xA", ["function f()"])]⟩
    let calls : CallBatch := ⟨[⟨"0x1", "", [⟨"v\n", "IToken", "f"⟩, ⟨"w", "IToken", "g"⟩]⟩]⟩
    let dir : Path := ⟨.root, ["out"]⟩
    let o := Config.default.engine.outcome s calls (some fun n _ => decide (2 ≤ n)) none
    o.records.map (fun r => r.decision.map (·.candidates)) = [some [⟨"0xA", none⟩]] ∧
      ∃ u, write .empty dir o = (.ok [dir.child recordsFile, dir.child summaryFile], u) ∧
      ∃ records summary, u.read (dir.child recordsFile) = .ok records ∧
        u.read (dir.child summaryFile) = .ok summary ∧ Holds records summary o := by
  intro s calls dir o
  have h : (write .empty dir o).1 = .ok [dir.child recordsFile, dir.child summaryFile] := by
    decide +kernel
  have hw := write_eq_of_fst h
  obtain ⟨records, summary, hr, hs, hh, -⟩ := holds_of_write hw
  exact ⟨by decide +kernel, _, hw, records, summary, hr, hs, hh⟩

end Artifact

end CallAttribution
