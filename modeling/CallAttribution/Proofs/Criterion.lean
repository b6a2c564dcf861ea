import CallAttribution.Proofs.Artifact

/-!
# What makes artifacts valid

A validation looks at one thing after another, passes over blank lines, reports a wrong version once
and goes on after every complaint. All this comes to a plain criterion on the directory and the
contents of its two files: nothing is wrong exactly if both files are there, every line that says
something stands for a record in order, and the summary is in order and counts these lines.
-/

namespace CallAttribution.Validation

/-- The lines of a file that are not blank, without the blanks around them. -/
def statedLines (b : Bytes) : List Bytes :=
  ((Text.pieces 0x0a b).map Text.trimBytes).filter (· ≠ [])

/-- The line is the document of a record of version 1 whose flag tells whether there is a
decision. -/
def RecordInOrder (line : Bytes) : Prop :=
  ∃ v r, Json.read? line = some v ∧ Record.shape v = .accepted r ∧ r.version = 1 ∧
    r.resolved = r.decision.isSome

/-- The file is the document of a summary of version 1 that counts so many records, each of them
either as resolved or as unresolved. -/
def SummaryInOrder (b : Bytes) (records : Nat) : Prop :=
  ∃ ms s, Json.read? b = some (.obj ms) ∧ Summary.shape (.obj ms) = .accepted s ∧
    s.version = 1 ∧ s.total = records ∧ s.resolved + s.unresolved = s.total

/-- The path leads to a directory that holds the two files with these contents, and they are in
order. -/
structure InOrder (t : FileTree) (dir : Path) (d : Location) (records summary : Bytes) : Prop where
  located : t.locate dir = .ok d
  directory : t.node? d = some .directory
  recordsFile : t.node? (d ++ ["resolutions.jsonl"]) = some (.file records)
  summaryFile : t.node? (d ++ ["resolution_summary.json"]) = some (.file summary)
  lines : ∀ line ∈ statedLines records, RecordInOrder line
  counts : SummaryInOrder summary (statedLines records).length

/-- Nothing is wrong with the line. -/
def LineContent.InOrder : LineContent → Prop
  | .blank => True
  | .notJson | .refused _ => False
  | .record r => r.version = schemaVersion ∧ r.resolved = r.decision.isSome

/-- As long as no wrong version has been reported, every line is judged by itself. -/
theorem lineComplaints_eq_nil_iff {n : Nat} {ls : List LineContent} :
    lineComplaints n false ls = [] ↔ ∀ l ∈ ls, l.InOrder := by
  induction ls generalizing n with
  | nil => simp [lineComplaints]
  | cons l ls ih =>
    cases l with
    | blank => simp [lineComplaints, LineContent.InOrder, ih]
    | notJson => simp [lineComplaints, LineContent.InOrder]
    | refused r => simp [lineComplaints, LineContent.InOrder]
    | record r =>
      by_cases hv : r.version = schemaVersion
      · simp [lineComplaints, versionComplaints, flagComplaints, LineContent.InOrder, hv, ih]
      · simp [lineComplaints, versionComplaints, LineContent.InOrder, hv]

/-- What a line holds, judged by the line without the blanks around it. -/
theorem inOrder_ofBytes_iff {line : Bytes} :
    (LineContent.ofBytes line).InOrder ↔
      Text.trimBytes line ≠ [] → RecordInOrder (Text.trimBytes line) := by
  by_cases hblank : Text.trimBytes line = []
  · simp [LineContent.ofBytes, LineContent.InOrder, hblank]
  · simp only [LineContent.ofBytes, if_false, ne_eq, not_false_eq_true, forall_true_left, hblank,
      RecordInOrder]
    cases hread : Json.read? (Text.trimBytes line) with
    | none => simp [LineContent.InOrder]
    | some v =>
      cases hshape : Record.shape v with
      | refused issues => simp [LineContent.InOrder, Schema.Checked.toExcept, hshape]
      | accepted r => simp [LineContent.InOrder, Schema.Checked.toExcept, hshape, schemaVersion]

theorem forall_linesOf_iff {b : Bytes} :
    (∀ l ∈ linesOf b, l.InOrder) ↔ ∀ line ∈ statedLines b, RecordInOrder line := by
  simp only [linesOf, statedLines, List.forall_mem_map, List.forall_mem_filter, inOrder_ofBytes_iff,
    decide_eq_true_iff]

theorem ofBytes_eq_blank_iff {line : Bytes} :
    LineContent.ofBytes line = .blank ↔ Text.trimBytes line = [] := by
  rw [LineContent.ofBytes]
  split_ifs with h
  · simp [h]
  · simp only [h, iff_false]
    split
    · simp
    · split <;> simp

/-- Lines in order hold one record each, blank ones apart. -/
theorem length_recordsOf {b : Bytes} (h : ∀ l ∈ linesOf b, l.InOrder) :
    (recordsOf (linesOf b)).length = (statedLines b).length := by
  rw [linesOf] at h ⊢
  rw [statedLines]
  generalize Text.pieces 0x0a b = lines at h ⊢
  induction lines with
  | nil => rfl
  | cons line lines ih =>
    obtain ⟨hline, hlines⟩ := List.forall_mem_cons.mp h
    have hrest := ih hlines
    have hblank := @ofBytes_eq_blank_iff line
    rw [List.map_cons, List.map_cons]
    cases hl : LineContent.ofBytes line with
    | blank =>
      rw [List.filter_cons_of_neg (by simp [hblank.mp hl])]
      exact hrest
    | notJson => simp [hl, LineContent.InOrder] at hline
    | refused r => simp [hl, LineContent.InOrder] at hline
    | record r =>
      have hstated : Text.trimBytes line ≠ [] := fun hnil => by simp [hblank.mpr hnil] at hl
      rw [List.filter_cons_of_pos (by simpa using hstated), List.length_cons, ← hrest]
      rfl

/-- The file of the records is there and nothing is wrong with it; it holds `n` records. -/
theorem checkRecords_ok_iff {t : FileTree} {artifact : String} {p : Path} {n : Nat} :
    (checkRecords t artifact p).1.ok = true ∧ (checkRecords t artifact p).2 = n ↔
      ∃ b, t.read p = .ok b ∧ (∀ line ∈ statedLines b, RecordInOrder line) ∧
        (statedLines b).length = n := by
  rw [checkRecords]
  cases hread : t.read p with
  | error e => simp [ok]
  | ok b =>
    simp only [ok, List.isEmpty_iff, List.map_eq_nil_iff, lineComplaints_eq_nil_iff,
      Except.ok.injEq, exists_eq_left', ← forall_linesOf_iff]
    exact and_congr_right fun h => by rw [length_recordsOf h]

theorem readSummary_eq_ok {t : FileTree} {p : Path} {s : Summary} :
    readSummary t p = .ok s ↔ ∃ b ms, t.read p = .ok b ∧ Json.read? b = some (.obj ms) ∧
      Summary.shape (.obj ms) = .accepted s := by
  rw [readSummary]
  cases hread : t.read p with
  | error e => simp
  | ok b =>
    rcases hjson : Json.read? b with _ | v
    · simp [hjson]
    · cases v <;> simp [hjson, mapError_eq_ok, Schema.Checked.toExcept_eq_ok_iff]

theorem countComplaints_eq_nil_iff {n : Nat} {s : Summary} :
    countComplaints (some n) s = [] ↔ s.total = n ∧ s.resolved + s.unresolved = s.total := by
  have hcomm : (n : Int) = s.total ↔ s.total = n := eq_comm
  simp [countComplaints, hcomm]

/-- The file of the summary is there and nothing is wrong with it, given the number of records. -/
theorem checkSummary_ok_iff {t : FileTree} {artifact : String} {p : Path} {n : Nat} :
    (checkSummary t artifact p (some n)).ok = true ↔
      ∃ b, t.read p = .ok b ∧ SummaryInOrder b n := by
  have hsummary : (checkSummary t artifact p (some n)).ok = true ↔
      ∃ s, readSummary t p = .ok s ∧ s.version = schemaVersion ∧
        countComplaints (some n) s = [] := by
    rw [checkSummary]
    cases readSummary t p with
    | error c => simp [ok]
    | ok s => simp [ok]
  rw [hsummary]
  constructor
  · rintro ⟨s, hs, hversion, hcounts⟩
    obtain ⟨b, ms, hread, hjson, hshape⟩ := readSummary_eq_ok.mp hs
    exact ⟨b, hread, ms, s, hjson, hshape, hversion, countComplaints_eq_nil_iff.mp hcounts⟩
  · rintro ⟨b, hread, ms, s, hjson, hshape, hversion, hcounts⟩
    exact ⟨s, readSummary_eq_ok.mpr ⟨b, ms, hread, hjson, hshape⟩, hversion,
      countComplaints_eq_nil_iff.mpr hcounts⟩

/-- The validation gets to its end and finds nothing wrong. -/
def Passes (x : Except FileError Validation) : Prop :=
  ∃ v, x = .ok v ∧ v.ok = true

theorem ok_append (v w : Validation) : (append v w).ok = (v.ok && w.ok) := by
  cases hv : v.errors <;> simp [append, ok, hv]

theorem passes_append_iff {v : Validation} {x : Except FileError Validation} :
    Passes (x >>= fun w => pure (append v w)) ↔ v.ok = true ∧ Passes x := by
  cases x with
  | error e => simp [Passes, bind, Except.bind]
  | ok w => simp [Passes, bind, Except.bind, pure, Except.pure, ok_append]

variable {t : FileTree} {dir : Path} {name file : String} {specs : List ArtifactSpec}

/-- What is said about a file that is there, and the number of records known from then on. -/
def checkFile (t : FileTree) (p : Path) (n : Option Nat) (spec : ArtifactSpec) :
    Validation × Option Nat :=
  if spec.format = "jsonl" then
    let (v, m) := checkRecords t spec.artifact p
    (v, some m)
  else if spec.format = "json" then
    (checkSummary t spec.artifact p n, n)
  else
    (⟨[⟨spec.artifact, p, none, .unknownFormat spec.format⟩], []⟩, n)

/-- A file that is missing or cannot be asked about does not pass; one that is there is checked, and
then the others. -/
theorem passes_checkFiles_cons_iff {spec : ArtifactSpec} {n : Option Nat} :
    Passes (checkFiles t dir n (spec :: specs)) ↔
      (∃ node, t.stat? (dir.child spec.file) = .ok (some node)) ∧
        (checkFile t (dir.child spec.file) n spec).1.ok = true ∧
        Passes (checkFiles t dir (checkFile t (dir.child spec.file) n spec).2 specs) := by
  rw [checkFiles]
  rcases hstat : t.stat? (dir.child spec.file) with e | _ | node
  · simp [Passes, bind, Except.bind]
  · refine iff_of_false (fun h => ?_) (by simp)
    obtain ⟨hmissing, -⟩ := passes_append_iff.mp h
    cases hmissing
  · rw [and_iff_right ⟨node, rfl⟩, checkFile]
    -- whatever the format, what is said about the file comes before what is said about the others
    split_ifs <;> exact passes_append_iff

theorem passes_records_iff {n : Option Nat} :
    Passes (checkFiles t dir n (⟨name, file, "jsonl"⟩ :: specs)) ↔
      ∃ b, t.read (dir.child file) = .ok b ∧ (∀ line ∈ statedLines b, RecordInOrder line) ∧
        Passes (checkFiles t dir (some (statedLines b).length) specs) := by
  have hcheck : checkFile t (dir.child file) n ⟨name, file, "jsonl"⟩ =
      ((checkRecords t name (dir.child file)).1,
        some (checkRecords t name (dir.child file)).2) := rfl
  rw [passes_checkFiles_cons_iff, hcheck]
  constructor
  · rintro ⟨-, hok, hrest⟩
    obtain ⟨b, hread, hlines, hcount⟩ := checkRecords_ok_iff.mp ⟨hok, rfl⟩
    exact ⟨b, hread, hlines, hcount ▸ hrest⟩
  · rintro ⟨b, hread, hlines, hrest⟩
    obtain ⟨hok, hcount⟩ := checkRecords_ok_iff.mpr ⟨b, hread, hlines, rfl⟩
    exact ⟨⟨_, FileTree.stat?_of_read hread⟩, hok, hcount ▸ hrest⟩

theorem passes_summary_iff {n : Nat} :
    Passes (checkFiles t dir (some n) (⟨name, file, "json"⟩ :: specs)) ↔
      (∃ b, t.read (dir.child file) = .ok b ∧ SummaryInOrder b n) ∧
        Passes (checkFiles t dir (some n) specs) := by
  have hcheck : checkFile t (dir.child file) (some n) ⟨name, file, "json"⟩ =
      (checkSummary t name (dir.child file) (some n), some n) := rfl
  rw [passes_checkFiles_cons_iff, hcheck, checkSummary_ok_iff]
  refine and_iff_right_of_imp ?_
  rintro ⟨⟨b, hread, -⟩, -⟩
  exact ⟨_, FileTree.stat?_of_read hread⟩

theorem passes_ofDirectory_iff :
    Passes (ofDirectory t dir specs) ↔
      t.stat? dir = .ok (some .directory) ∧ Passes (checkFiles t dir none specs) := by
  rw [ofDirectory]
  rcases hstat : t.stat? dir with e | _ | _ | _ <;>
    simp [Passes, ok, bind, Except.bind, pure, Except.pure]

theorem passes_defaultSpecs_iff :
    Passes (checkFiles t dir none defaultSpecs) ↔
      ∃ records summary, t.read (dir.child Artifact.recordsFile) = .ok records ∧
        t.read (dir.child Artifact.summaryFile) = .ok summary ∧
        (∀ line ∈ statedLines records, RecordInOrder line) ∧
        SummaryInOrder summary (statedLines records).length := by
  simp only [defaultSpecs, passes_records_iff, passes_summary_iff]
  constructor
  · rintro ⟨records, hrecords, hlines, ⟨summary, hsummary, hcounts⟩, -⟩
    exact ⟨records, summary, hrecords, hsummary, hlines, hcounts⟩
  · rintro ⟨records, summary, hrecords, hsummary, hlines, hcounts⟩
    exact ⟨records, hrecords, hlines, ⟨summary, hsummary, hcounts⟩, nothing, rfl, rfl⟩

/-- A validation finds nothing wrong exactly if the directory and the two files in it are there and
their contents are in order. -/
theorem passes_iff_inOrder (t : FileTree) (dir : Path) :
    (∃ v, ofDirectory t dir defaultSpecs = .ok v ∧ v.ok = true) ↔
      ∃ d records summary, InOrder t dir d records summary := by
  constructor
  · intro h
    obtain ⟨hstat, hfiles⟩ := passes_ofDirectory_iff.mp h
    obtain ⟨d, hd, hdir⟩ := FileTree.stat?_eq_some.mp hstat
    obtain ⟨records, summary, hrecords, hsummary, hlines, hcounts⟩ :=
      passes_defaultSpecs_iff.mp hfiles
    rw [FileTree.read_child_eq_ok Artifact.recordsFile_isName hd hdir] at hrecords
    rw [FileTree.read_child_eq_ok Artifact.summaryFile_isName hd hdir] at hsummary
    exact ⟨d, records, summary, hd, hdir, hrecords, hsummary, hlines, hcounts⟩
  · rintro ⟨d, records, summary, h⟩
    refine passes_ofDirectory_iff.mpr ⟨FileTree.stat?_of_locate h.located h.directory, ?_⟩
    refine passes_defaultSpecs_iff.mpr ⟨records, summary, ?_, ?_, h.lines, h.counts⟩
    · rw [FileTree.read_child_eq_ok Artifact.recordsFile_isName h.located h.directory]
      exact h.recordsFile
    · rw [FileTree.read_child_eq_ok Artifact.summaryFile_isName h.located h.directory]
      exact h.summaryFile

end CallAttribution.Validation
