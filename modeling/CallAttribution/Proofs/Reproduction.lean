import CallAttribution.Proofs.Comparison
import CallAttribution.Proofs.Scratch

/-!
# Written artifacts are reproduced

Verification lets a run write at the scratch place and compares what stands below the directory with
what stands below that place. The inputs are read as before, so the run writes the outcome of the
plain mode, and all else in the tree is as it was. Right after a run there is no deviation, in
whichever mode it was. This needs a directory that held nothing else, inputs that the run did not
overwrite, and a scratch place outside of the directory.
-/

namespace CallAttribution

namespace Verification

variable {t u : FileTree} {d : Location} {records summary : Bytes}

/-- A file with this content stands at the end of these names, seen from a place. -/
def FileBelow (t : FileTree) (l : Location) (n : List String) (b : Bytes) : Prop :=
  t.node? (l ++ n) = some (.file b)

/-- The two files that a run writes, each under its own name. -/
def ArtifactFile (records summary : Bytes) (n : List String) (b : Bytes) : Prop :=
  n = [Artifact.recordsFile] ∧ b = records ∨ n = [Artifact.summaryFile] ∧ b = summary

theorem mem_filesUnder_iff (hdir : t.node? d = some .directory) {n : List String} {b : Bytes} :
    (n, b) ∈ t.filesUnder d ↔ FileBelow t d n b := by
  rw [FileTree.mem_filesUnder, FileBelow, and_iff_right_of_imp]
  rintro hn rfl
  rw [List.append_nil, hdir] at hn
  cases hn

theorem ArtifactFile.content_eq {n : List String} {b b' : Bytes}
    (h : ArtifactFile records summary n b) (h' : ArtifactFile records summary n b') : b = b' := by
  have hne := Artifact.recordsFile_ne_summaryFile
  rcases h with ⟨rfl, rfl⟩ | ⟨rfl, rfl⟩ <;> rcases h' with ⟨hn, rfl⟩ | ⟨hn, rfl⟩
  · rfl
  · exact absurd (List.singleton_inj.mp hn) hne
  · exact absurd (List.singleton_inj.mp hn) hne.symm
  · rfl

/-- What is seen below a place while the files of a run stand at the scratch place. -/
def Seen (t : FileTree) (d scratch : Location) (records summary : Bytes) (n : List String)
    (b : Bytes) : Prop :=
  FileBelow t d n b ∨ ∃ m, d ++ n = scratch ++ m ∧ ArtifactFile records summary m b

end Verification

open Verification

namespace Artifact.Written

variable {t u : FileTree} {dir : Path} {o : Outcome} {d : Location} {b : Bytes}

/-- A file that is neither of the two is read as before. -/
theorem read_of_read (hw : Written t dir o d b u) {p : Path} {c : Bytes} (hr : t.read p = .ok c)
    (hp : ∀ l, t.locate p = .ok l → l ≠ d ++ [recordsFile] ∧ l ≠ d ++ [summaryFile]) :
    u.read p = .ok c := by
  obtain ⟨l, hl, hc⟩ := FileTree.read_eq_ok.mp hr
  obtain ⟨h₁, h₂⟩ := hp l hl
  refine FileTree.read_eq_ok.mpr ⟨l, hw.keeps.locate hl, ?_⟩
  rcases hw.elsewhere l h₁ h₂ with hu | ⟨hn, -⟩
  · rw [hu, hc]
  · rw [hc] at hn
    cases hn

/-- A file elsewhere is there after the writing if it was there before. -/
theorem node?_eq_file_iff (hw : Written t dir o d b u) {l : Location} {c : Bytes}
    (hr : l ≠ d ++ [recordsFile]) (hs : l ≠ d ++ [summaryFile]) :
    u.node? l = some (.file c) ↔ t.node? l = some (.file c) := by
  rcases hw.elsewhere l hr hs with hu | ⟨hn, hu⟩
  · rw [hu]
  · rw [hu, hn]
    simp

theorem ne_nil_of_fileBelow (hw : Written t dir o d b u) {n : List String} {c : Bytes}
    (hn : FileBelow t d n c) : n ≠ [] := by
  rintro rfl
  rw [FileBelow, List.append_nil, ← hw.node?_eq_file_iff (by simp) (by simp), hw.directory] at hn
  cases hn

/-- A directory that held at most the two files holds exactly these after the run. -/
theorem fileBelow_iff (hw : Written t dir o d b u)
    (hold : ∀ n c, FileBelow t d n c → n = [recordsFile] ∨ n = [summaryFile]) (n : List String)
    (c : Bytes) : FileBelow u d n c ↔ ArtifactFile (encodeRecords o.records) b n c := by
  constructor
  · intro hn
    by_cases hr : n = [recordsFile]
    · subst hr
      rw [FileBelow, hw.records] at hn
      cases hn
      exact Or.inl ⟨rfl, rfl⟩
    by_cases hs : n = [summaryFile]
    · subst hs
      rw [FileBelow, hw.summary] at hn
      cases hn
      exact Or.inr ⟨rfl, rfl⟩
    rw [FileBelow, hw.node?_eq_file_iff (by simpa using hr) (by simpa using hs)] at hn
    exact absurd (hold n c hn) (not_or.mpr ⟨hr, hs⟩)
  · rintro (⟨rfl, rfl⟩ | ⟨rfl, rfl⟩)
    · exact hw.records
    · exact hw.summary

/-- A run that has written at a spare place is seen there and nowhere else. -/
theorem fileBelow_iff_seen {scratch : Location} (h : t.Spare scratch)
    (hw : Written (t.set scratch .directory) (.ofLocation scratch) o scratch b u) (n : List String)
    (c : Bytes) : FileBelow u d n c ↔ Seen t d scratch (encodeRecords o.records) b n c := by
  have hempty : ∀ m x, FileBelow (t.set scratch .directory) scratch m x →
      m = [recordsFile] ∨ m = [summaryFile] := by
    intro m x hm
    rw [FileBelow, h.node?_set, h.vacant _ (List.prefix_append scratch m)] at hm
    split at hm <;> cases hm
  -- at the scratch place stands what the run has written, anywhere else what stood there before
  by_cases hprefix : scratch <+: d ++ n
  · obtain ⟨m, hm⟩ := hprefix
    have habsent : ¬ FileBelow t d n c := fun hn =>
      h.not_prefix hn (hm ▸ List.prefix_append scratch m)
    rw [FileBelow, ← hm, Seen, or_iff_right habsent]
    refine (hw.fileBelow_iff hempty m c).trans ⟨fun ha => ⟨m, hm.symm, ha⟩, ?_⟩
    rintro ⟨m', hm', ha⟩
    rw [← hm, List.append_cancel_left_eq] at hm'
    exact hm' ▸ ha
  · have hne (m : List String) : d ++ n ≠ scratch ++ m := fun heq =>
      hprefix (heq ▸ List.prefix_append scratch m)
    have hother : scratch ≠ d ++ n := fun heq => hprefix (heq ▸ List.prefix_rfl)
    rw [FileBelow, hw.node?_eq_file_iff (hne _) (hne _), h.node?_set, if_neg hother, Seen,
      or_iff_left]
    · rfl
    · rintro ⟨m, hm, -⟩
      exact hne m hm

end Artifact.Written

namespace Verification

variable {t u : FileTree} {dir : Path} {d scratch : Location} {b : Bytes} {r : Request} {c : Config}
  {s : Snapshot} {calls : CallBatch} {reporter : Option Reporter} {records summary : Bytes}

/-- A directory that is there does not stand below a spare place, so the files of the run are seen
in it only if the spare place lies in the directory. -/
theorem seen_iff (h : t.Spare scratch) (hdir : t.node? d = some .directory)
    (hout : ¬ d <+: scratch) (n : List String) (b : Bytes) :
    Seen t d scratch records summary n b ↔ FileBelow t d n b := by
  refine or_iff_left ?_
  rintro ⟨m, hm, -⟩
  rcases List.prefix_or_prefix_of_prefix (hm ▸ List.prefix_append d n)
    (List.prefix_append scratch m) with hprefix | hprefix
  · exact hout hprefix
  · exact h.not_prefix hdir hprefix

/-- A run that is given a spare place writes its outcome there. -/
theorem exists_written_scratch (h : t.Spare scratch) (hc : r.loadConfig t = .ok c)
    (hs : Input.readSnapshot t r.snapshot = .ok s) (hcalls : Input.readBatch t r.calls = .ok calls)
    (hway : r.Avoids scratch)
    (hb : Artifact.encodeSummary? (c.engine.outcome s calls none none).summary = some b) :
    ∃ g u, generate { r with outputDir := some (.ofLocation scratch) } none
        (t.set scratch .directory) = (.ok g, u) ∧
      Artifact.Written (t.set scratch .directory) (.ofLocation scratch)
        (c.engine.outcome s calls none none) scratch b u := by
  have hprepare := prepare_of_loaded (.ofLocation scratch)
    ((Request.loadConfig_set h hway).trans hc)
    (Input.readSnapshot_of_read hs fun _ => h.read_set)
    (Input.readBatch_of_read hcalls fun _ => h.read_set)
  obtain ⟨files, u, hw⟩ := Artifact.exists_write_of_empty h.locate_set h.directory_set
    (fun _ => h.node?_below) (fun _ hr => (Engine.consistent_of_mem_outcome hr).fits) hb
  obtain ⟨d', b', hwritten⟩ := Artifact.exists_written hw
  obtain rfl : scratch = d' :=
    Except.ok.inj ((hwritten.keeps.locate h.locate_set).symm.trans hwritten.located)
  obtain rfl : b = b' := Option.some.inj (hb.symm.trans hwritten.encoded)
  exact ⟨_, u, generate_of_write hprepare hw, hwritten⟩

/-- With a configuration and both inputs, verification comes to its end: it compares what is seen
below the directory with the outcome of the plain mode, and leaves nothing behind. -/
theorem exists_deviation (h : t.Spare scratch) (hc : r.loadConfig t = .ok c)
    (hs : Input.readSnapshot t r.snapshot = .ok s) (hcalls : Input.readBatch t r.calls = .ok calls)
    (hway : r.Avoids scratch) (hd : t.locate dir = .ok d) (hdir : t.node? d = some .directory)
    (hb : Artifact.encodeSummary? (c.engine.outcome s calls none none).summary = some b) :
    let records := Artifact.encodeRecords (c.engine.outcome s calls none none).records
    ∃ dev, ofDirectory r dir scratch t = (.ok dev, t) ∧
      Tells dev (Seen t d scratch records b) (ArtifactFile records b) := by
  intro records
  obtain ⟨g, u, hg, hw⟩ := exists_written_scratch h hc hs hcalls hway hb
  have hkeeps := h.keepsDirectories.trans hw.keeps
  have hreproduce : (reproduce r dir scratch (t.set scratch .directory)).1 =
      .ok (compare (u.filesUnder d) (u.filesUnder scratch)) := by
    simp only [reproduce, hg, hkeeps.locate hd]
  refine ⟨_, (ofDirectory_of_spare h (FileTree.stat?_of_locate hd hdir)).trans
    (by rw [hreproduce]), ?_⟩
  have htells := tells_compare (u.nodup_filesUnder d) (u.nodup_filesUnder scratch)
  simp only [mem_filesUnder_iff (hkeeps d hdir), mem_filesUnder_iff hw.directory] at htells
  refine htells.congr (hw.fileBelow_iff_seen h) fun n x => ?_
  have hvacant (n : List String) (x : Bytes) : ¬ FileBelow t scratch n x := fun hn =>
    h.not_prefix hn (List.prefix_append scratch n)
  rw [hw.fileBelow_iff_seen h, Seen, or_iff_right (hvacant n x)]
  simp [records]

/-- A run that wrote the artifacts of the same inputs is reproduced, in whichever mode it was. -/
theorem ofDirectory_of_written (h : u.Spare scratch) (hc : r.loadConfig u = .ok c)
    (hs : Input.readSnapshot u r.snapshot = .ok s) (hcalls : Input.readBatch u r.calls = .ok calls)
    (hway : r.Avoids scratch) (hout : ¬ d <+: scratch)
    (hw : Artifact.Written t dir (c.engine.outcome s calls none reporter) d b u)
    (hold : ∀ f ∈ t.filesUnder d,
      f.1 = [Artifact.recordsFile] ∨ f.1 = [Artifact.summaryFile]) :
    ofDirectory r dir scratch u = (.ok ⟨[], [], []⟩, u) := by
  -- the reproduction runs in the plain mode
  rw [c.engine.outcome_eq_plain] at hw
  obtain ⟨dev, hdev, htells⟩ :=
    exists_deviation h hc hs hcalls hway hw.located hw.directory hw.encoded
  have hbelow : ∀ n x, FileBelow t d n x →
      n = [Artifact.recordsFile] ∨ n = [Artifact.summaryFile] := fun n x hn =>
    hold (n, x) (FileTree.mem_filesUnder.mpr ⟨hw.ne_nil_of_fileBelow hn, hn⟩)
  have hok := (htells.ok_iff fun _ _ _ => ArtifactFile.content_eq).mpr fun n x =>
    (seen_iff h hw.directory hout n x).trans (hw.fileBelow_iff hbelow n x)
  rw [hdev, Deviation.eq_of_ok hok]

end Verification

end CallAttribution
