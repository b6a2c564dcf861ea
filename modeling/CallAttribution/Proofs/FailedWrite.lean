import CallAttribution.Proofs.CommandLine.Frame
import CallAttribution.Proofs.Criterion
import CallAttribution.Proofs.Tally

/-!
# Writing that fails midway

Writing makes the directory, writes the records one by one and then the summary, and may fail at
each of these steps. What has been done by then stays. Mostly what made a step fail is still in the
way of a validation: where the directory could not be made there is none, and what could not be
written over is a directory and no file. But a record that has no line is not in the way. It leaves
the lines of the records before it, beside whatever summary stood there, and if these two happen to
agree a validation accepts them.
-/

namespace CallAttribution

namespace FileTree

variable {t u v : FileTree} {p : Path} {l : Location}

/-- What making a directory has come to, as far as the path can be asked about: either the directory
is there, or none is, and then nothing but a name that is too long keeps the path from being asked
about. -/
def Settled (u : FileTree) (p : Path) : Except FileError Unit → Prop
  | .ok () => u.stat? p = .ok (some .directory)
  | .error e => u.stat? p ≠ .ok (some .directory) ∧
      ∀ e', u.stat? p = .error e' → ∃ q, e = .fault .nameTooLong q

theorem stat?_eq_error {e : FileError} (h : t.stat? p = .error e) :
    e = .fault .nameTooLong p := by
  rw [stat?_eq] at h
  split_ifs at h
  split at h <;> cases h
  rfl

theorem stat?_of_overlong {s : String} (hnull : Path.hasNull s = false) (hup : s ≠ "..")
    (hlong : maxName < s.utf8ByteSize) :
    t.stat? ⟨.root, [s]⟩ = .error (.fault .nameTooLong ⟨.root, [s]⟩) := by
  have henter : t.enter [] [s] = .error .nameTooLong := if_pos ⟨hup, hlong⟩
  simp [stat?_eq, Path.isMalformed, hnull, henter]

theorem isDirectory?_eq (t : FileTree) (p : Path) :
    t.isDirectory? p = (t.stat? p).map fun n => decide (n = some .directory) := by
  rw [isDirectory?]
  rcases t.stat? p with e | _ | _ | _ <;> rfl

theorem makeDirectory_of_stat?_some {n : Node} (h : t.stat? p = .ok (some n)) :
    t.makeDirectory p = .error (.fault .alreadyExists p) := by
  obtain ⟨l, hl, hn⟩ := stat?_eq_some.mp h
  simp only [makeDirectory, hl, hn, bind, Except.bind]

theorem makeDirectory_of_stat?_error {e : FileError} (h : t.stat? p = .error e) :
    t.makeDirectory p = .error (.fault .nameTooLong p) := by
  rw [stat?_eq] at h
  split_ifs at h with hm
  split at h <;> cases h
  next hlong => simp [makeDirectory, locate, hm, hlong, Except.mapError, bind, Except.bind]

/-- Where a name is too long nothing is made. -/
theorem makeDirectories_of_stat?_error {e : FileError} (h : t.stat? p = .error e) :
    t.makeDirectories p = (.error (.fault .nameTooLong p), t) := by
  obtain rfl := stat?_eq_error h
  have hmake := makeDirectory_of_stat?_error h
  have hone : t.makeOne p = (.error (.fault .nameTooLong p), t) := by
    simp [makeOne, hmake, excuse, isDirectory?_eq, h, Except.map, bind, Except.bind]
  rw [makeDirectories]
  cases p.parts.length with
  | zero => exact hone
  | succ depth =>
    rw [makeWithin, hmake]
    exact hone

/-- A failure is excused only where the directory is there. -/
theorem settled_excuse {e : FileError} (h : t.makeDirectory p = .error e) :
    Settled t p (t.excuse p e) := by
  unfold excuse
  split
  · next q =>
    constructor
    · intro hs
      rw [makeDirectory_of_stat?_some hs] at h
      cases h
    · intro e' hs
      rw [makeDirectory_of_stat?_error hs] at h
      cases h
  · rw [isDirectory?_eq]
    rcases hs : t.stat? p with e' | n
    · exact ⟨by simp [hs], fun _ _ => ⟨p, stat?_eq_error hs⟩⟩
    · by_cases hn : n = some .directory
      · simpa [Except.map, bind, Except.bind, hn, Settled] using hs
      · simp [Except.map, bind, Except.bind, hn, Settled, hs]

theorem settled_makeOne (t : FileTree) (p : Path) : Settled (t.makeOne p).2 p (t.makeOne p).1 := by
  rw [makeOne]
  cases h : t.makeDirectory p with
  | error e => exact settled_excuse h
  | ok u =>
    have hkeeps := (grown_of_makeDirectory h).keepsDirectories
    obtain ⟨l, hl, hn, rfl⟩ := makeDirectory_eq_ok.mp h
    refine stat?_of_locate (hkeeps.locate hl) ?_
    rw [node?_set _ _ _ _ (ne_nil_of_node? (t := t) (by simp [hn])), if_pos rfl]

theorem settled_of_none {e : FileError} (h : t.stat? p = .ok none) : Settled t p (.error e) := by
  simp [Settled, h]

/-- Where the directory above could not be made, this one is not there either. -/
theorem Settled.of_parent {e : FileError} (h : Settled t p.parent (.error e)) :
    Settled t p (.error e) := by
  obtain ⟨hdir, hlong⟩ := h
  rcases List.eq_nil_or_concat p.parts with hnil | ⟨qs, s, hparts⟩
  · have hparent : p.parent = p := by
      simp only [Path.parent, hnil, List.dropLast_nil]
      exact hnil ▸ rfl
    rw [hparent] at hdir hlong
    exact ⟨hdir, hlong⟩
  · rw [List.concat_eq_append] at hparts
    by_cases hm : p.isMalformed = true
    · exact settled_of_none (by rw [stat?_eq, if_pos hm])
    · have hqs : p.parent.parts = qs := by simp [Path.parent, hparts]
      have hparent : p.parent.isMalformed = false := by
        simp_all [Path.isMalformed]
      have hstat := t.stat?_eq p
      have hstat' := t.stat?_eq p.parent
      rw [if_neg hm, hparts, enter_append] at hstat
      rw [if_neg (by simp [hparent]), hqs] at hstat'
      rcases hq : t.enter [] qs with f | l
      · rcases fault_of_enter hq with rfl | rfl | ⟨rfl, -⟩
        · exact settled_of_none (by simpa [hq, bind, Except.bind] using hstat)
        · exact settled_of_none (by simpa [hq, bind, Except.bind] using hstat)
        · obtain ⟨q, rfl⟩ := hlong (.fault .nameTooLong p.parent) (by simp [hstat', hq])
          refine ⟨by simp [hstat, hq, bind, Except.bind], fun _ _ => ⟨q, rfl⟩⟩
      · -- what stands above is no directory, so that nothing can be entered from there
        have hl : t.node? l ≠ some .directory := by simpa [hstat', hq] using hdir
        refine settled_of_none ?_
        rw [hstat, hq]
        rcases hn : t.node? l with _ | _ | _
        · simp [bind, Except.bind, FileTree.enter, hn]
        · simp [bind, Except.bind, FileTree.enter, hn]
        · exact absurd hn hl

theorem settled_makeWithin (depth : Nat) (t : FileTree) (p : Path) :
    Settled (t.makeWithin depth p).2 p (t.makeWithin depth p).1 := by
  induction depth generalizing t p with
  | zero => exact settled_makeOne t p
  | succ depth ih =>
    rw [makeWithin]
    split
    · have hparent := ih t p.parent
      split
      · next hw =>
        rw [hw] at hparent
        exact hparent.of_parent
      · next v hw => exact settled_makeOne v p
    · exact settled_makeOne t p

theorem settled_makeDirectories {r : Except FileError Unit} (h : t.makeDirectories p = (r, u)) :
    Settled u p r := by
  have hs := settled_makeWithin p.parts.length t p
  rw [← makeDirectories, h] at hs
  exact hs

/-- Where a file can be written to, what a path leads to can only not be written over because it is
a directory. -/
theorem node?_of_write_error {b : Bytes} {e : FileError} (h : t.write p b = .error e)
    (hl : t.locate p = .ok l) : t.node? l = some .directory := by
  rcases hn : t.node? l with _ | _ | _
  · simp [write, hl, hn, bind, Except.bind] at h
  · simp [write, hl, hn, bind, Except.bind] at h
  · rfl

end FileTree

namespace Summary

theorem fitsMembers_map {t : Table Int} (h : ∀ e ∈ t, Json.inRange e.2 = true) :
    Json.fitsMembers (t.map fun e => (e.1, .int e.2)) = true := by
  induction t with
  | nil => rfl
  | cons e t ih =>
    obtain ⟨he, ht⟩ := List.forall_mem_cons.mp h
    simp [Json.fitsMembers, Json.fits, he, ih ht]

/-- The numbers of a summary are at most that of the records. -/
theorem fits_ofRecords {records : List Record} (h : records.length < 2 ^ 63) (cancelled : Bool) :
    (ofRecords records cancelled).toJson.fits = true := by
  have hrange (n : Nat) (hn : n ≤ records.length) : Json.inRange n = true := by
    simp only [Json.inRange, Bool.and_eq_true, decide_eq_true_iff]
    omega
  have hcounts : ∀ e ∈ tally records, Json.inRange e.2 = true := by
    intro e he
    have hget := Table.get?_of_mem (nodup_keys_tally records) he
    rw [get?_tally] at hget
    split_ifs at hget
    rw [← Option.some.inj hget]
    exact hrange _ List.countP_le_length
  have hdescribes := describes_ofRecords records cancelled
  have htable : (ofRecords records cancelled).byHeuristic = tally records := rfl
  simp only [toJson, Json.fits, Json.fitsMembers, hdescribes.total, hdescribes.resolved,
    hdescribes.unresolved, htable, fitsMembers_map hcounts, hrange _ List.countP_le_length,
    hrange _ (Nat.le_refl _), Bool.and_true, Bool.true_and]
  rfl

end Summary

namespace Artifact

variable {t u v : FileTree} {dir : Path} {o : Outcome} {e : WriteError} {l : Location}

/-- Once the directory is there, writing a file changes this file only, which was no directory
before. -/
theorem changed_of_write {p : Path} {b : Bytes} (hmake : t.makeDirectories dir = (.ok (), v))
    (hwrite : v.write p b = .ok u) (hl : u.content? l ≠ t.content? l) :
    u.locate p = .ok l ∧ (t.node? l = none ∨ ∃ c, t.node? l = some (.file c)) := by
  have hgrown : t.Grown v := by
    simpa [hmake] using t.grown_makeDirectories dir
  obtain ⟨k, hk, hn, rfl⟩ := FileTree.write_eq_ok.mp hwrite
  by_cases hkl : k = l
  · subst hkl
    refine ⟨(FileTree.keepsDirectories_set hn _).locate hk, ?_⟩
    rcases hgrown k with hsame | ⟨hnone, -⟩
    · rw [hsame] at hn
      rcases ht : t.node? k with _ | c | _
      · exact Or.inl rfl
      · exact Or.inr ⟨c, rfl⟩
      · exact absurd ht hn
    · exact Or.inl hnone
  · refine absurd ?_ hl
    rw [← hgrown.content?_eq l, FileTree.content?, FileTree.content?,
      FileTree.node?_set _ _ _ _ (FileTree.ne_nil_of_node? hn), if_neg hkl]

/-- A failure leaves every file as it was, the file of the records apart. -/
theorem Writes.changed (h : Writes t dir o (.error e) u) (hl : u.content? l ≠ t.content? l) :
    u.locate (dir.child recordsFile) = .ok l ∧
      (t.node? l = none ∨ ∃ b, t.node? l = some (.file b)) := by
  have hgrown := (t.grown_makeDirectories dir).content?_eq l
  cases h with
  | unmade hmake | unopened hmake _ =>
    rw [hmake] at hgrown
    exact absurd hgrown hl
  | cut hmake hrecords _ | uncounted hmake hrecords _ _ | unsummarized hmake hrecords _ =>
    exact changed_of_write hmake hrecords hl

/-- What a number beyond 64 bits leaves in a directory: the lines of the records before the first
one that has none, beside the former summary. A count is such a number only if there are more
records than a memory holds. -/
structure Torn (t : FileTree) (dir : Path) (o : Outcome) (d : Location) (u : FileTree) : Prop where
  located : u.locate dir = .ok d
  directory : u.node? d = some .directory
  oversized : (∃ r ∈ o.records, r.toJson.fits = false) ∨ 2 ^ 63 ≤ o.records.length
  records : u.content? (d ++ [recordsFile]) = some (encodeRecords (encodable o.records))
  summary : u.content? (d ++ [summaryFile]) = t.content? (d ++ [summaryFile])

/-- Writing the records over the former file leaves the summary as it was. -/
theorem torn_of_write (hmake : t.makeDirectories dir = (.ok (), v))
    (hrecords : v.write (dir.child recordsFile) (encodeRecords (encodable o.records)) = .ok u)
    (hover : (∃ r ∈ o.records, r.toJson.fits = false) ∨ 2 ^ 63 ≤ o.records.length) :
    ∃ d, Torn t dir o d u := by
  have hgrown : t.Grown v := by
    simpa [hmake] using t.grown_makeDirectories dir
  obtain ⟨l, hl, hn, rfl⟩ := FileTree.write_eq_ok.mp hrecords
  obtain ⟨d, hd, hdir, rfl⟩ := (FileTree.locate_child recordsFile_isName).mp hl
  have hkeeps := FileTree.keepsDirectories_set hn (.file (encodeRecords (encodable o.records)))
  have hne : d ++ [recordsFile] ≠ d ++ [summaryFile] := by
    simp [recordsFile_ne_summaryFile]
  have hnode (k : Location) := FileTree.node?_set v (d ++ [recordsFile]) k
    (.file (encodeRecords (encodable o.records))) (by simp)
  refine ⟨d, hkeeps.locate hd, hkeeps d hdir, hover, ?_, ?_⟩
  · rw [FileTree.content?, hnode, if_pos rfl]
  · rw [← hgrown.content?_eq, FileTree.content?, FileTree.content?, hnode, if_neg hne]

theorem Writes.torn (h : Writes t dir o (.error .oversized) u) : ∃ d, Torn t dir o d u := by
  cases h with
  | cut hmake hrecords hcut => exact torn_of_write hmake hrecords (Or.inl (by simpa using hcut))
  | uncounted hmake hrecords hfits hsummary =>
    -- the counts of fewer records would fit
    rw [← encodable_of_fits hfits] at hrecords
    refine torn_of_write hmake hrecords (Or.inr (Nat.le_of_not_lt fun ho => ?_))
    rw [encodeSummary?, Outcome.summary, if_pos (Summary.fits_ofRecords ho _)] at hsummary
    cases hsummary

end Artifact

namespace Validation

variable {t : FileTree} {dir : Path} {d : Location} {specs : List ArtifactSpec}

theorem stat?_child {s : String} (hs : Path.IsName s) (hd : t.locate dir = .ok d)
    (hdir : t.node? d = some .directory) :
    t.stat? (dir.child s) = .ok (t.node? (d ++ [s])) := by
  have hl := (FileTree.locate_child hs).mpr ⟨d, hd, hdir, rfl⟩
  rw [FileTree.stat?, FileTree.stat, hl]
  rcases hn : t.node? (d ++ [s]) with _ | n <;> simp [bind, Except.bind, hn]

theorem exists_append {v : Validation} {x : Except FileError Validation} (h : ∃ w, x = .ok w) :
    ∃ w, (x >>= fun w => pure (append v w)) = .ok w := by
  obtain ⟨w, rfl⟩ := h
  exact ⟨append v w, rfl⟩

/-- In a directory every name can be asked about, so that a validation comes to its end. -/
theorem exists_checkFiles (hd : t.locate dir = .ok d) (hdir : t.node? d = some .directory)
    (hspecs : ∀ s ∈ specs, Path.IsName s.file) (n : Option Nat) :
    ∃ v, checkFiles t dir n specs = .ok v := by
  induction specs generalizing n with
  | nil => exact ⟨nothing, rfl⟩
  | cons s specs ih =>
    obtain ⟨hs, hspecs⟩ := List.forall_mem_cons.mp hspecs
    rw [checkFiles, stat?_child hs hd hdir]
    rcases t.node? (d ++ [s.file]) with _ | node
    · exact exists_append (ih hspecs n)
    · simp only [bind, Except.bind]
      split_ifs <;> exact exists_append (ih hspecs _)

theorem defaultSpecs_isName : ∀ s ∈ defaultSpecs, Path.IsName s.file := by
  simp [defaultSpecs, Artifact.recordsFile_isName, Artifact.summaryFile_isName]

theorem exists_ofDirectory (hd : t.locate dir = .ok d) (hdir : t.node? d = some .directory) :
    ∃ v, ofDirectory t dir defaultSpecs = .ok v := by
  rw [ofDirectory, FileTree.stat?_of_locate hd hdir]
  exact exists_checkFiles hd hdir defaultSpecs_isName none

/-- A validation does not accept what stands at the path: it reports something that is wrong, or a
name that is too long keeps it from looking, which is then what `e` is about as well. -/
def Rejects (t : FileTree) (dir : Path) (e : WriteError) : Prop :=
  (∃ v, ofDirectory t dir defaultSpecs = .ok v ∧ v.ok = false) ∨
    ∃ q, e = .file (.fault .nameTooLong q) ∧
      ofDirectory t dir defaultSpecs = .error (.fault .nameTooLong dir)

/-- A directory is accepted by what its two files hold. -/
theorem passes_of_located_iff (hd : t.locate dir = .ok d) (hdir : t.node? d = some .directory) :
    Passes (ofDirectory t dir defaultSpecs) ↔
      ∃ records summary, t.content? (d ++ [Artifact.recordsFile]) = some records ∧
        t.content? (d ++ [Artifact.summaryFile]) = some summary ∧
        (∀ line ∈ statedLines records, RecordInOrder line) ∧
        SummaryInOrder summary (statedLines records).length := by
  rw [passes_ofDirectory_iff, and_iff_right (FileTree.stat?_of_locate hd hdir),
    passes_defaultSpecs_iff]
  simp only [FileTree.read_child_eq_ok Artifact.recordsFile_isName hd hdir,
    FileTree.read_child_eq_ok Artifact.summaryFile_isName hd hdir, FileTree.content?_eq_some_iff]

/-- A directory without one of the two files is not accepted. -/
theorem rejects_of_directory {e : WriteError} (hd : t.locate dir = .ok d)
    (hdir : t.node? d = some .directory) {s : String}
    (hs : s = Artifact.recordsFile ∨ s = Artifact.summaryFile)
    (hnode : t.node? (d ++ [s]) = some .directory) : Rejects t dir e := by
  obtain ⟨v, hv⟩ := exists_ofDirectory hd hdir
  refine Or.inl ⟨v, hv, Bool.eq_false_iff.mpr fun hok => ?_⟩
  obtain ⟨records, summary, hrecords, hsummary, -⟩ :=
    (passes_of_located_iff hd hdir).mp ⟨v, hv, hok⟩
  rw [FileTree.content?_eq_some_iff] at hrecords hsummary
  rcases hs with rfl | rfl
  · rw [hnode] at hrecords
    cases hrecords
  · rw [hnode] at hsummary
    cases hsummary

theorem ofDirectory_of_stat?_error {e : FileError} (h : t.stat? dir = .error e) :
    ofDirectory t dir specs = .error e := by
  simp only [ofDirectory, h, bind, Except.bind]

/-- Where the directory could not be made there is none to look into. -/
theorem rejects_of_settled {e : FileError} (h : FileTree.Settled t dir (.error e)) :
    Rejects t dir (.file e) := by
  obtain ⟨hdir, hlong⟩ := h
  rcases hs : t.stat? dir with e' | _ | _ | _
  · obtain ⟨q, rfl⟩ := hlong e' hs
    obtain rfl := FileTree.stat?_eq_error hs
    exact Or.inr ⟨q, rfl, ofDirectory_of_stat?_error hs⟩
  · exact Or.inl ⟨_, by rw [ofDirectory, hs]; rfl, rfl⟩
  · exact Or.inl ⟨_, by rw [ofDirectory, hs]; rfl, rfl⟩
  · exact absurd hs hdir

/-- Whatever made a step of writing fail is in the way of a validation as well, unless it was a
number that does not fit. -/
theorem rejects_of_writes {u : FileTree} {o : Outcome} {e : WriteError}
    (h : Artifact.Writes t dir o (.error e) u) (he : e ≠ .oversized) : Rejects u dir e := by
  cases h with
  | unmade hmake => exact rejects_of_settled (FileTree.settled_makeDirectories hmake)
  | unopened hmake hopen =>
    obtain ⟨d, hd, hdir⟩ := FileTree.stat?_eq_some.mp (FileTree.settled_makeDirectories hmake)
    have hplace := (FileTree.locate_child Artifact.recordsFile_isName).mpr ⟨d, hd, hdir, rfl⟩
    exact rejects_of_directory hd hdir (Or.inl rfl) (FileTree.node?_of_write_error hopen hplace)
  | cut | uncounted => exact absurd rfl he
  | unsummarized hmake hrecords hopen =>
    obtain ⟨d, hd, hdir⟩ := FileTree.stat?_eq_some.mp (FileTree.settled_makeDirectories hmake)
    -- the records have been written, which leaves the directory where it was
    obtain ⟨k, -, hk, rfl⟩ := FileTree.write_eq_ok.mp hrecords
    have hkeeps := FileTree.keepsDirectories_set hk (.file (Artifact.encodeRecords o.records))
    have hplace := (FileTree.locate_child Artifact.summaryFile_isName).mpr
      ⟨d, hkeeps.locate hd, hkeeps d hdir, rfl⟩
    exact rejects_of_directory (hkeeps.locate hd) (hkeeps d hdir) (Or.inr rfl)
      (FileTree.node?_of_write_error hopen hplace)

theorem statedLines_encodeRecords (rs : List Record) :
    statedLines (Artifact.encodeRecords rs) = rs.map Artifact.line := by
  have hline (r : Record) : Artifact.line r ≠ [] := by
    obtain ⟨bs, hline⟩ := Artifact.exists_line_eq r
    rw [hline]
    exact List.cons_ne_nil _ _
  have hlines : rs.map (Text.trimBytes ∘ Artifact.line) = rs.map Artifact.line := by
    refine List.map_congr_left fun r _ => ?_
    rw [Function.comp_apply, Artifact.trimBytes_line]
  have hstated : ∀ l ∈ rs.map Artifact.line, decide (l ≠ []) = true := by
    simpa using fun r _ => hline r
  have hblank : [Text.trimBytes []].filter (· ≠ []) = [] := rfl
  rw [statedLines, Artifact.pieces_encodeRecords, List.map_append, List.map_map, hlines,
    List.map_singleton, List.filter_append, List.filter_eq_self.mpr hstated, hblank,
    List.append_nil]

theorem recordInOrder_line {r : Record} (h : r.Consistent) : RecordInOrder (Artifact.line r) :=
  ⟨_, r, Artifact.read?_line h, Record.shape_toJson h, h.version, h.resolved⟩

theorem summaryInOrder_of_encodeSummary? {records : List Record} {cancelled : Bool} {b : Bytes}
    (h : Artifact.encodeSummary? (Summary.ofRecords records cancelled) = some b) :
    SummaryInOrder b records.length :=
  ⟨_, _, Artifact.read?_of_encodeSummary? h, Summary.shape_toJson _, rfl, rfl, by
    simp [Summary.ofRecords]⟩

/-- What a record without a line leaves is accepted exactly if the former summary counts the records
before it, and these are in order. -/
theorem passes_of_torn {u : FileTree} {o : Outcome} (h : Artifact.Torn t dir o d u) :
    Passes (ofDirectory u dir defaultSpecs) ↔
      ∃ b, t.content? (d ++ [Artifact.summaryFile]) = some b ∧
        (∀ r ∈ Artifact.encodable o.records, RecordInOrder (Artifact.line r)) ∧
        SummaryInOrder b (Artifact.encodable o.records).length := by
  rw [passes_of_located_iff h.located h.directory]
  simp only [h.records, h.summary, Option.some.injEq, exists_and_left, exists_eq_left',
    statedLines_encodeRecords, List.forall_mem_map, List.length_map]

end Validation

namespace Artifact

theorem write_of_stat?_error {t : FileTree} {dir : Path} {f : FileError}
    (h : t.stat? dir = .error f) (o : Outcome) :
    write t dir o = (.error (.file (.fault .nameTooLong dir)), t) := by
  simp only [write, FileTree.makeDirectories_of_stat?_error h]

/-- When writing fails no file has changed but that of the records, and this one only if it was
missing or a file before. Unless a record has no line, no validation accepts what is left: it comes
to its end and reports something that is wrong, except when the failure was that a name is too long,
which then keeps the validation from looking as well. If a record has no line then the lines of the
records before it have been written and the summary is the former one. A validation accepts them
exactly if these records are in order and there was a summary that counts them. -/
theorem rejected_after_failed_write {t u : FileTree} {dir : Path} {o : Outcome} {e : WriteError}
    (h : write t dir o = (.error e, u)) :
    (∀ l, u.content? l ≠ t.content? l → u.locate (dir.child "resolutions.jsonl") = .ok l ∧
        (t.node? l = none ∨ ∃ b, t.node? l = some (.file b))) ∧
      (e ≠ .oversized →
        (¬ ∃ v, Validation.ofDirectory u dir Validation.defaultSpecs = .ok v ∧ v.ok = true) ∧
        ((∃ v, Validation.ofDirectory u dir Validation.defaultSpecs = .ok v ∧ v.ok = false) ∨
          ∃ q, e = .file (.fault .nameTooLong q) ∧
            Validation.ofDirectory u dir Validation.defaultSpecs =
              .error (.fault .nameTooLong dir))) ∧
      (e = .oversized → ∃ d, Torn t dir o d u ∧
        ((∃ v, Validation.ofDirectory u dir Validation.defaultSpecs = .ok v ∧ v.ok = true) ↔
          ∃ b, t.content? (d ++ ["resolution_summary.json"]) = some b ∧
            (∀ r ∈ encodable o.records, Validation.RecordInOrder (line r)) ∧
            Validation.SummaryInOrder b (encodable o.records).length)) := by
  have hwrites := writes_of_write h
  refine ⟨fun l hl => hwrites.changed hl, fun he => ?_, ?_⟩
  · have hrejects := Validation.rejects_of_writes hwrites he
    refine ⟨?_, hrejects⟩
    rintro ⟨v, hv, hok⟩
    rcases hrejects with ⟨w, hw, hwrong⟩ | ⟨q, -, herror⟩
    · rw [hv] at hw
      cases hw
      rw [hok] at hwrong
      cases hwrong
    · rw [hv] at herror
      cases herror
  · rintro rfl
    obtain ⟨d, hd⟩ := hwrites.torn
    exact ⟨d, hd, Validation.passes_of_torn hd⟩

/-- A directory that is a file, one below a file, one in which the file of the records is a
directory, and one in which the file of the summary is. In an empty directory a version beyond 64
bits leaves the record before it, which is not accepted without a summary. -/
theorem rejected_after_failed_write_blocked :
    let r : Record := .ofDecision "0x1" ⟨"v", "IToken", "f"⟩ none
    let one : Outcome := ⟨[r], false, 0⟩
    let two : Outcome := ⟨[r, { r with version := 2 ^ 64 }], false, 0⟩
    let t : FileTree := ⟨[(["f"], .file []), (["r"], .directory),
      (["r", "resolutions.jsonl"], .directory), (["s"], .directory),
      (["s", "resolutions.jsonl"], .file [0x7b]),
      (["s", "resolution_summary.json"], .directory), (["v"], .directory)], by decide⟩
    let rejected := fun (dir : Path) (o : Outcome) => ∃ e u, write t dir o = (.error e, u) ∧
      ¬ ∃ v, Validation.ofDirectory u dir Validation.defaultSpecs = .ok v ∧ v.ok = true
    rejected ⟨.root, ["f"]⟩ one ∧ rejected ⟨.root, ["f", "below"]⟩ one ∧
      rejected ⟨.root, ["r"]⟩ one ∧ rejected ⟨.root, ["s"]⟩ one ∧ rejected ⟨.root, ["v"]⟩ two := by
  intro r one two t rejected
  have hrejected {dir : Path} {e : WriteError} (h : (write t dir one).1 = .error e)
      (he : e ≠ .oversized) : rejected dir one := by
    obtain ⟨-, hblocked, -⟩ := rejected_after_failed_write (write_eq_of_fst h)
    exact ⟨e, _, write_eq_of_fst h, (hblocked he).1⟩
  refine ⟨hrejected rfl (by simp), hrejected rfl (by simp), hrejected rfl (by simp),
    hrejected rfl (by simp), ?_⟩
  have h : (write t ⟨.root, ["v"]⟩ two).1 = .error .oversized := by decide +kernel
  obtain ⟨-, -, htorn⟩ := rejected_after_failed_write (write_eq_of_fst h)
  obtain ⟨d, hd, hpasses⟩ := htorn rfl
  obtain rfl : d = ["v"] := FileTree.eq_of_locate (by decide) hd.located
  refine ⟨_, _, write_eq_of_fst h, fun hok => ?_⟩
  obtain ⟨b, hb, -⟩ := hpasses.mp hok
  cases hb

/-- A record is followed by one whose version is beyond 64 bits. The first one is left beside the
summary of an earlier run, which happens to count one record, and is accepted. And where a name is
too long for a directory, a validation does not come to its end. -/
theorem accepted_after_failed_write :
    let r : Record := .ofDecision "0x1" ⟨"v", "IToken", "f"⟩ none
    let one : Outcome := ⟨[r], false, 0⟩
    let two : Outcome := ⟨[r, { r with version := 2 ^ 64 }], false, 0⟩
    let t : FileTree := ⟨[(["a"], .directory), (["a", "resolution_summary.json"],
      .file (Text.encode (String.ofList (one.summary.toJson.indented 0))))], by decide⟩
    let long : Path := ⟨.root, [String.ofList (List.replicate 300 'a')]⟩
    (∃ u, write t ⟨.root, ["a"]⟩ two = (.error .oversized, u) ∧
      ∃ v, Validation.ofDirectory u ⟨.root, ["a"]⟩ Validation.defaultSpecs = .ok v ∧
        v.ok = true) ∧
    ∃ e u f, write t long one = (.error e, u) ∧
      Validation.ofDirectory u long Validation.defaultSpecs = .error f := by
  intro r one two t long
  constructor
  · have h : (write t ⟨.root, ["a"]⟩ two).1 = .error .oversized := by decide +kernel
    obtain ⟨d, hd⟩ := (writes_of_write (write_eq_of_fst h)).torn
    obtain rfl : d = ["a"] := FileTree.eq_of_locate (by decide) hd.located
    have hfirst : encodable two.records = [r] := by decide +kernel
    have hsummary : encodeSummary? (Summary.ofRecords [r] false) = some _ := if_pos (by decide)
    have hformer : t.content? (["a"] ++ [summaryFile]) =
        some (Text.encode (String.ofList (one.summary.toJson.indented 0))) := by
      rw [FileTree.content?_eq_some_iff]
      exact if_neg (by decide)
    refine ⟨_, write_eq_of_fst h, (Validation.passes_of_torn hd).mpr ⟨_, hformer, ?_, ?_⟩⟩
    · rw [hfirst]
      simpa using Validation.recordInOrder_line ⟨rfl, rfl, by simp [r, Record.ofDecision]⟩
    · rw [hfirst]
      exact Validation.summaryInOrder_of_encodeSummary? hsummary
  · have hstat : t.stat? long = .error (.fault .nameTooLong long) :=
      FileTree.stat?_of_overlong (Path.hasNull_ofList (by decide +kernel)) (by decide +kernel)
        (by decide +kernel)
    exact ⟨_, t, _, write_of_stat?_error hstat one, Validation.ofDirectory_of_stat?_error hstat⟩

end Artifact

end CallAttribution
