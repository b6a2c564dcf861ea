import CallAttribution.Proofs.Document
import CallAttribution.Proofs.FileTree
import CallAttribution.Proofs.Json.OneLine
import CallAttribution.Validation
import Mathlib.Data.List.TakeWhile

/-!
# What the artifact files hold

Cutting the file of the records at its line feeds gives one line for each record, followed by
nothing, and each line is read as its record. The file of the summary is read as the summary. When
both files have been written they stand in their directory, and all else is as it was, apart from
directories that were made.
-/

namespace CallAttribution

namespace Text

theorem trimBytes_eq_self {x y : UInt8} (hx : isBlankByte x = false) (hy : isBlankByte y = false)
    (bs : Bytes) : trimBytes (x :: (bs ++ [y])) = x :: (bs ++ [y]) := by
  have hl : (x :: (bs ++ [y])).dropWhile isBlankByte = x :: (bs ++ [y]) := by
    rw [List.dropWhile_cons, hx]
    rfl
  have hr : (x :: (bs ++ [y])).reverse = y :: (x :: bs).reverse := by
    simp
  rw [trimBytes, hl, hr, List.dropWhile_cons, hy]
  simp

end Text

/-- The document of an object begins and ends with a brace, which are no blanks. -/
theorem Json.encode_compact_obj (members : List (String × Json)) :
    ∃ bs, Text.encode (String.ofList (compact (.obj members))) = 0x7b :: (bs ++ [0x7d]) := by
  cases members with
  | nil => exact ⟨[], rfl⟩
  | cons m ms =>
    obtain ⟨k, j⟩ := m
    refine ⟨(string k ++ ':' :: compact j ++ compactMembers ms).flatMap String.utf8EncodeChar, ?_⟩
    have hopen : String.utf8EncodeChar '\x7b' = [0x7b] := rfl
    have hclose : String.utf8EncodeChar '\x7d' = [0x7d] := rfl
    simp [Text.encode, compact, hopen, hclose]

namespace Artifact

/-- A record without the line feed that ends its line. -/
def line (r : Record) : Bytes :=
  Text.encode (String.ofList r.toJson.compact)

/-- The lines of records one after the other. -/
def encodeRecords (rs : List Record) : Bytes :=
  (rs.map line).flatMap (· ++ [0x0a])

theorem encodeRecord?_of_fits {r : Record} (h : r.toJson.fits = true) :
    encodeRecord? r = some (line r ++ [0x0a]) :=
  if_pos h

theorem encodeRecord?_eq_none_iff {r : Record} :
    encodeRecord? r = none ↔ r.toJson.fits = false := by
  simp [encodeRecord?]

theorem lineFeed_notMem_line {b : Bytes} {rs : List Record} (h : b ∈ rs.map line) : 0x0a ∉ b := by
  obtain ⟨r, -, rfl⟩ := List.mem_map.mp h
  exact r.toJson.lineFeed_notMem_compact

/-- There are as many line feeds as records. -/
theorem count_encodeRecords (rs : List Record) : (encodeRecords rs).count 0x0a = rs.length := by
  rw [encodeRecords, Text.count_flatMap fun _ => lineFeed_notMem_line, List.length_map]

/-- The file ends with a line feed unless it is empty. -/
theorem getLast?_encodeRecords {rs : List Record} (h : rs ≠ []) :
    (encodeRecords rs).getLast? = some 0x0a := by
  rw [encodeRecords]
  exact Text.getLast?_flatMap (by simpa using h)

theorem pieces_encodeRecords (rs : List Record) :
    Text.pieces 0x0a (encodeRecords rs) = rs.map line ++ [[]] := by
  rw [encodeRecords, Text.pieces_flatMap fun _ => lineFeed_notMem_line]

/-- The line of a record begins and ends with a brace. -/
theorem exists_line_eq (r : Record) : ∃ bs, line r = 0x7b :: (bs ++ [0x7d]) := by
  obtain ⟨members, hmembers⟩ : ∃ members, r.toJson = .obj members := ⟨_, rfl⟩
  obtain ⟨bs, hbs⟩ := Json.encode_compact_obj members
  refine ⟨bs, ?_⟩
  rw [← hbs, ← hmembers]
  rfl

theorem trimBytes_line (r : Record) : Text.trimBytes (line r) = line r := by
  obtain ⟨bs, hline⟩ := exists_line_eq r
  rw [hline]
  exact Text.trimBytes_eq_self rfl rfl bs

theorem read?_line {r : Record} (h : r.Consistent) :
    Json.read? (line r) = some r.toJson.toValue :=
  Json.read?_compact (r.readable_toJson h (by decide))

/-- The document of a summary that fits is read as what it denotes. -/
theorem read?_of_encodeSummary? {records : List Record} {cancelled : Bool} {b : Bytes}
    (h : encodeSummary? (Summary.ofRecords records cancelled) = some b) :
    Json.read? b = some (Summary.ofRecords records cancelled).toJson.toValue := by
  rw [encodeSummary?, Option.ite_none_right_eq_some] at h
  obtain ⟨hfits, hb⟩ := h
  rw [← Option.some.inj hb]
  exact Json.read?_indented 0 (Summary.readable_toJson hfits (by decide))

theorem recordsFile_isName : Path.IsName recordsFile :=
  ⟨by decide, by decide, by decide, by decide⟩

theorem summaryFile_isName : Path.IsName summaryFile :=
  ⟨by decide, by decide, by decide, by decide⟩

theorem recordsFile_ne_summaryFile : recordsFile ≠ summaryFile := by
  decide

/-- The records before the first one that has no line. -/
def encodable (rs : List Record) : List Record :=
  rs.takeWhile fun r => r.toJson.fits

theorem encodable_of_fits {rs : List Record} (h : ∀ r ∈ rs, r.toJson.fits = true) :
    encodable rs = rs :=
  List.takeWhile_eq_self_iff.mpr h

/-- Whether records come to their end: each of them has to have a line. -/
def ending (rs : List Record) : Except WriteError Unit :=
  if ∀ r ∈ rs, r.toJson.fits = true then .ok () else .error .oversized

/-- By induction on the records: what is in the file goes on with their lines. -/
theorem appendRecords_set (t : FileTree) {l : Location} (hl : l ≠ []) (b : Bytes)
    (rs : List Record) : appendRecords l (t.set l (.file b)) rs =
      (ending rs, t.set l (.file (b ++ encodeRecords (encodable rs)))) := by
  induction rs generalizing b with
  | nil => simp [appendRecords, ending, encodable, encodeRecords]
  | cons r rs ih =>
    rw [appendRecords]
    cases hr : r.toJson.fits with
    | false =>
      rw [encodeRecord?_eq_none_iff.mpr hr]
      simp [ending, encodable, encodeRecords, hr]
    | true =>
      rw [encodeRecord?_of_fits hr]
      dsimp only
      rw [FileTree.append_set t hl, ih]
      simp [ending, encodable, encodeRecords, hr]

/-- Records are written as far as they have lines. -/
theorem writeRecords_eq (t : FileTree) (p : Path) (rs : List Record) :
    writeRecords t p rs = match t.write p (encodeRecords (encodable rs)) with
      | .error e => (.error (.file e), t)
      | .ok u => (ending rs, u) := by
  have hwrite := t.write_append p [] (encodeRecords (encodable rs))
  rw [List.nil_append] at hwrite
  rw [writeRecords, FileTree.openFile_eq, hwrite]
  rcases hopen : t.write p [] with e | u
  · rfl
  · obtain ⟨l, hl, hn, rfl⟩ := FileTree.write_eq_ok.mp hopen
    have hnil := FileTree.ne_nil_of_node? hn
    have hwalk := FileTree.eq_walk_of_enter (FileTree.locate_eq_ok.mp hl).2
    simp only [Except.map, ← hwalk, appendRecords_set t hnil, FileTree.append_set t hnil]

/-- How far writing has come, with its answer and the tree that it leaves. -/
inductive Writes (t : FileTree) (dir : Path) (o : Outcome) :
    Except WriteError (List Path) → FileTree → Prop
  | unmade {e : FileError} {u : FileTree} (hmake : t.makeDirectories dir = (.error e, u)) :
    Writes t dir o (.error (.file e)) u
  | unopened {e : FileError} {u : FileTree} (hmake : t.makeDirectories dir = (.ok (), u))
    (hopen : u.write (dir.child recordsFile) (encodeRecords (encodable o.records)) = .error e) :
    Writes t dir o (.error (.file e)) u
  | cut {v u : FileTree} (hmake : t.makeDirectories dir = (.ok (), v))
    (hrecords : v.write (dir.child recordsFile) (encodeRecords (encodable o.records)) = .ok u)
    (hcut : ¬ ∀ r ∈ o.records, r.toJson.fits = true) : Writes t dir o (.error .oversized) u
  | uncounted {v u : FileTree} (hmake : t.makeDirectories dir = (.ok (), v))
    (hrecords : v.write (dir.child recordsFile) (encodeRecords o.records) = .ok u)
    (hfits : ∀ r ∈ o.records, r.toJson.fits = true) (hsummary : encodeSummary? o.summary = none) :
    Writes t dir o (.error .oversized) u
  | unsummarized {e : FileError} {v u : FileTree} {b : Bytes}
    (hmake : t.makeDirectories dir = (.ok (), v))
    (hrecords : v.write (dir.child recordsFile) (encodeRecords o.records) = .ok u)
    (hopen : u.write (dir.child summaryFile) b = .error e) : Writes t dir o (.error (.file e)) u
  | done {v w u : FileTree} {b : Bytes} (hmake : t.makeDirectories dir = (.ok (), v))
    (hrecords : v.write (dir.child recordsFile) (encodeRecords o.records) = .ok w)
    (hsummary : encodeSummary? o.summary = some b)
    (hdone : w.write (dir.child summaryFile) b = .ok u) :
    Writes t dir o (.ok [dir.child recordsFile, dir.child summaryFile]) u

theorem writes_write (t : FileTree) (dir : Path) (o : Outcome) :
    Writes t dir o (write t dir o).1 (write t dir o).2 := by
  rw [write]
  split
  · next hmake => exact .unmade hmake
  · next v hmake =>
    rw [writeRecords_eq]
    split
    · next hrecords =>
      split at hrecords
      · next hopen =>
        cases hrecords
        exact .unopened hmake hopen
      · next hwrite =>
        obtain ⟨hending, rfl⟩ := Prod.mk.inj hrecords
        rw [ending] at hending
        split_ifs at hending with hfits
        cases hending
        exact .cut hmake hwrite hfits
    · next hrecords =>
      split at hrecords
      · cases hrecords
      · next hwrite =>
        obtain ⟨hending, rfl⟩ := Prod.mk.inj hrecords
        rw [ending] at hending
        split_ifs at hending with hfits
        rw [encodable_of_fits hfits] at hwrite
        split
        · next hsummary => exact .uncounted hmake hwrite hfits hsummary
        · next hsummary =>
          split
          · next hopen => exact .unsummarized hmake hwrite hopen
          · next hdone => exact .done hmake hwrite hsummary hdone

theorem writes_of_write {t u : FileTree} {dir : Path} {o : Outcome}
    {r : Except WriteError (List Path)} (h : write t dir o = (r, u)) : Writes t dir o r u := by
  have hw := writes_write t dir o
  rwa [h] at hw

/-- Writing keeps a tree rooted, however far it gets. -/
theorem rooted_write {t : FileTree} (ht : t.Rooted) (dir : Path) (o : Outcome) :
    (write t dir o).2.Rooted := by
  have hmake := ht.makeDirectories dir
  generalize hw : write t dir o = x
  obtain ⟨r, u⟩ := x
  cases writes_of_write hw with
  | unmade hm | unopened hm _ => rwa [hm] at hmake
  | cut hm hrecords _ | uncounted hm hrecords _ _ | unsummarized hm hrecords _ =>
    rw [hm] at hmake
    exact hmake.write hrecords
  | done hm hrecords _ hdone =>
    rw [hm] at hmake
    exact (hmake.write hrecords).write hdone

/-- What writing into a directory has done: `d` is the place of the directory and `b` the document
of the summary. -/
structure Written (t : FileTree) (dir : Path) (o : Outcome) (d : Location) (b : Bytes)
    (u : FileTree) : Prop where
  located : u.locate dir = .ok d
  directory : u.node? d = some .directory
  encoded : encodeSummary? o.summary = some b
  records : u.node? (d ++ [recordsFile]) = some (.file (encodeRecords o.records))
  summary : u.node? (d ++ [summaryFile]) = some (.file b)
  elsewhere : ∀ l, l ≠ d ++ [recordsFile] → l ≠ d ++ [summaryFile] →
    u.node? l = t.node? l ∨ t.node? l = none ∧ u.node? l = some .directory
  keeps : t.KeepsDirectories u
  rooted : t.Rooted → u.Rooted

theorem write_eq_of_fst {t : FileTree} {dir : Path} {o : Outcome}
    {r : Except WriteError (List Path)} (h : (write t dir o).1 = r) :
    write t dir o = (r, (write t dir o).2) :=
  Prod.ext h rfl

theorem exists_written {t u : FileTree} {dir : Path} {o : Outcome} {files : List Path}
    (h : write t dir o = (.ok files, u)) : ∃ d b, Written t dir o d b u := by
  cases writes_of_write h with
  | @done v w _ b hv hw hb hu =>
    have hgrown : t.Grown v := by
      simpa [hv] using t.grown_makeDirectories dir
    have hrooted : t.Rooted → v.Rooted := fun ht => by
      simpa [hv] using ht.makeDirectories dir
    obtain ⟨l₁, hl₁, hn₁, hw'⟩ := FileTree.write_eq_ok.mp hw
    obtain ⟨d, hd, hdir, rfl⟩ := (FileTree.locate_child recordsFile_isName).mp hl₁
    have hvw : v.KeepsDirectories w := hw' ▸ FileTree.keepsDirectories_set hn₁ _
    obtain ⟨l₂, hl₂, hn₂, hu'⟩ := FileTree.write_eq_ok.mp hu
    obtain ⟨d', hd', -, rfl⟩ := (FileTree.locate_child summaryFile_isName).mp hl₂
    have hdd : d = d' := by
      have hk := (hvw.locate hd).symm.trans hd'
      exact Except.ok.inj hk
    subst hdd
    have hwu : w.KeepsDirectories u := hu' ▸ FileTree.keepsDirectories_set hn₂ _
    have hne : d ++ [summaryFile] ≠ d ++ [recordsFile] := by
      simp [recordsFile_ne_summaryFile.symm]
    have hwnode (l : Location) : w.node? l =
        if d ++ [recordsFile] = l then some (.file (encodeRecords o.records)) else v.node? l := by
      rw [hw', FileTree.node?_set _ _ _ _ (by simp)]
    have hunode (l : Location) : u.node? l =
        if d ++ [summaryFile] = l then some (.file b) else w.node? l := by
      rw [hu', FileTree.node?_set _ _ _ _ (by simp)]
    exact ⟨d, b, {
      located := hwu.locate hd'
      directory := hwu d (hvw d hdir)
      encoded := hb
      records := by rw [hunode, if_neg hne, hwnode, if_pos rfl]
      summary := by rw [hunode, if_pos rfl]
      elsewhere := by
        intro l hr hs
        rw [hunode, if_neg (Ne.symm hs), hwnode, if_neg (Ne.symm hr)]
        exact hgrown l
      keeps := (hgrown.keepsDirectories.trans hvw).trans hwu
      rooted := fun ht => ((hrooted ht).write hw).write hu }⟩

namespace Written

variable {t u : FileTree} {dir : Path} {o : Outcome} {d : Location} {b : Bytes}

theorem locate_recordsFile (h : Written t dir o d b u) :
    u.locate (dir.child recordsFile) = .ok (d ++ [recordsFile]) :=
  (FileTree.locate_child recordsFile_isName).mpr ⟨d, h.located, h.directory, rfl⟩

theorem locate_summaryFile (h : Written t dir o d b u) :
    u.locate (dir.child summaryFile) = .ok (d ++ [summaryFile]) :=
  (FileTree.locate_child summaryFile_isName).mpr ⟨d, h.located, h.directory, rfl⟩

theorem read_recordsFile (h : Written t dir o d b u) :
    u.read (dir.child recordsFile) = .ok (encodeRecords o.records) :=
  FileTree.read_eq_ok.mpr ⟨_, h.locate_recordsFile, h.records⟩

theorem read_summaryFile (h : Written t dir o d b u) : u.read (dir.child summaryFile) = .ok b :=
  FileTree.read_eq_ok.mpr ⟨_, h.locate_summaryFile, h.summary⟩

end Written

/-- The file of the summary in a directory is read as this summary. -/
def SummaryIn (t : FileTree) (dir : Path) (s : Summary) : Prop :=
  ∃ b, t.read (dir.child "resolution_summary.json") = .ok b ∧
    (Json.read? b).map Summary.shape = some (.accepted s)

variable {t u : FileTree} {dir : Path} {o : Outcome} {files : List Path}

theorem files_of_write (h : write t dir o = (.ok files, u)) :
    files = [dir.child recordsFile, dir.child summaryFile] := by
  cases writes_of_write h
  rfl

/-- What is written as the summary is read as the summary. -/
theorem summaryIn_of_write (h : write t dir o = (.ok files, u)) : SummaryIn u dir o.summary := by
  obtain ⟨d, b, hw⟩ := exists_written h
  refine ⟨b, hw.read_summaryFile, ?_⟩
  rw [read?_of_encodeSummary? hw.encoded, Option.map_some, Summary.shape_toJson]
  rfl

end Artifact

namespace Validation

/-- A line that was written for a record holds this record. -/
theorem ofBytes_line {r : Record} (h : r.Consistent) :
    LineContent.ofBytes (Artifact.line r) = .record r := by
  have hread := Artifact.read?_line h
  have hne : Artifact.line r ≠ [] := by
    obtain ⟨bs, hline⟩ := Artifact.exists_line_eq r
    rw [hline]
    exact List.cons_ne_nil _ _
  simp only [LineContent.ofBytes, Artifact.trimBytes_line, if_neg hne, hread, Record.shape_toJson h]
  rfl

theorem linesOf_encodeRecords {rs : List Record} (h : ∀ r ∈ rs, r.Consistent) :
    linesOf (Artifact.encodeRecords rs) = rs.map .record ++ [.blank] := by
  have hlines : rs.map (LineContent.ofBytes ∘ Artifact.line) = rs.map .record := by
    refine List.map_congr_left fun r hr => ?_
    rw [Function.comp_apply, ofBytes_line (h r hr)]
  have hblank : LineContent.ofBytes [] = .blank := rfl
  rw [linesOf, Artifact.pieces_encodeRecords, List.map_append, List.map_map, hlines,
    List.map_singleton, hblank]

end Validation

end CallAttribution
