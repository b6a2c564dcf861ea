import CallAttribution.Proofs.Likeness
import CallAttribution.Verification

/-!
# A directory for a while

A verification makes a scratch directory, lets a run write there and removes the directory with
everything in it. Whatever the run comes to, it changes nothing but what stands below the scratch
directory, so what is left in the end is the very tree that was there before. As long as the scratch
directory is there, the configuration and the inputs are read as before.
-/

namespace CallAttribution

namespace FileTree

variable {t u : FileTree} {l k : Location}

theorem filter_put {p : Location → Bool} (hp : p l = false) (n : Node)
    (ns : List (Location × Node)) :
    ((put l n ns).filter fun e => p e.1) = ns.filter fun e => p e.1 := by
  induction ns with
  | nil => simp [put, hp]
  | cons e ns ih =>
    obtain ⟨m, x⟩ := e
    by_cases h : m = l
    · subst h
      simp [put, hp]
    · simp [put, h, List.filter_cons, ih]

/-- What was put below a place is removed with it. -/
theorem erase_set (h : l <+: k) (n : Node) : (t.set k n).erase l = t.erase l := by
  have hfilter := @filter_put k (fun m => !l.isPrefixOf m) (by simpa using h) n t.nodes
  simp only [erase, set, hfilter]

theorem erase_of_write {p : Path} {s : String} (hs : Path.IsName s) {b : Bytes}
    (hl : t.locate p = .ok l) (h : t.write (p.child s) b = .ok u) : u.erase l = t.erase l := by
  obtain ⟨m, hm, -, rfl⟩ := write_eq_ok.mp h
  obtain ⟨d, hd, -, rfl⟩ := (locate_child hs).mp hm
  obtain rfl : l = d := Except.ok.inj (hl.symm.trans hd)
  exact erase_set (List.prefix_append l [s]) _

/-- The place where a directory can be made for a while: the path leads there, and nothing stands
there or below. -/
structure Spare (t : FileTree) (l : Location) : Prop where
  located : t.locate (.ofLocation l) = .ok l
  vacant : ∀ k, l <+: k → t.node? k = none

theorem Rooted.spare (h : t.Rooted) (hl : t.locate (.ofLocation l) = .ok l)
    (hn : t.node? l = none) : t.Spare l where
  located := hl
  vacant := by
    rintro k ⟨m, rfl⟩
    by_cases hm : m = []
    · simpa [hm] using hn
    · refine Option.eq_none_iff_forall_ne_some.mpr fun n hk => ?_
      rw [h.above hm hk] at hn
      cases hn

namespace Spare

variable (h : t.Spare l)
include h

theorem node?_eq_none : t.node? l = none :=
  h.vacant l List.prefix_rfl

theorem not_prefix {n : Node} (hk : t.node? k = some n) : ¬ l <+: k := by
  intro hprefix
  rw [h.vacant k hprefix] at hk
  cases hk

theorem ne_nil : l ≠ [] := by
  refine ne_nil_of_node? (t := t) ?_
  rw [h.node?_eq_none]
  simp

theorem makeDirectory : t.makeDirectory (.ofLocation l) = .ok (t.set l .directory) :=
  makeDirectory_eq_ok.mpr ⟨l, h.located, h.node?_eq_none, rfl⟩

/-- The directory is removed, and the tree is what it was. -/
theorem erase_set : (t.set l .directory).erase l = t := by
  -- nothing stood there or below, so nothing else goes with the directory
  have hkeep : t.nodes.filter (fun e => !l.isPrefixOf e.1) = t.nodes := by
    refine List.filter_eq_self.mpr fun e he => ?_
    by_contra hno
    have hprefix : l <+: e.1 := by simpa using hno
    have hne : e.1 ≠ [] := fun hnil => h.ne_nil (List.prefix_nil.mp (hnil ▸ hprefix))
    exact h.not_prefix ((node?_eq_some_iff hne).mpr he) hprefix
  rw [FileTree.erase_set List.prefix_rfl]
  simp only [erase, hkeep]

theorem node?_set (k : Location) :
    (t.set l .directory).node? k = if l = k then some .directory else t.node? k :=
  FileTree.node?_set t l k .directory h.ne_nil

theorem keepsDirectories : KeepsDirectories t (t.set l .directory) :=
  (grown_of_makeDirectory h.makeDirectory).keepsDirectories

theorem locate_set : (t.set l .directory).locate (.ofLocation l) = .ok l :=
  h.keepsDirectories.locate h.located

theorem directory_set : (t.set l .directory).node? l = some .directory := by
  rw [h.node?_set, if_pos rfl]

theorem node?_below {s : String} : (t.set l .directory).node? (l ++ [s]) = none := by
  rw [h.node?_set, if_neg (by simp), h.vacant _ (List.prefix_append l [s])]

theorem read_set {p : Path} {b : Bytes} (hp : t.read p = .ok b) :
    (t.set l .directory).read p = .ok b := by
  obtain ⟨k, hk, hb⟩ := read_eq_ok.mp hp
  refine read_eq_ok.mpr ⟨k, h.keepsDirectories.locate hk, ?_⟩
  rw [h.node?_set, if_neg, hb]
  rintro rfl
  exact h.not_prefix hb List.prefix_rfl

end Spare

/-- A directory that has been made without detours was made at a spare place. -/
theorem Rooted.spare_of_makeDirectory (h : t.Rooted) (hup : ".." ∉ l)
    (hu : t.makeDirectory (.ofLocation l) = .ok u) : t.Spare l ∧ u = t.set l .directory := by
  obtain ⟨k, hk, hn, rfl⟩ := makeDirectory_eq_ok.mp hu
  obtain rfl := eq_of_locate hup hk
  exact ⟨h.spare hk hn, rfl⟩

/-- Names lead to the same end where the same stands on the way. -/
theorem enter_congr {parts : List String}
    (h : ∀ ps, ps <+: parts → t.node? (Path.walk l ps) = u.node? (Path.walk l ps)) :
    t.enter l parts = u.enter l parts := by
  induction parts generalizing l with
  | nil => rfl
  | cons part parts ih =>
    have hl : t.node? l = u.node? l := h [] List.nil_prefix
    rw [enter, enter, hl, ih fun ps hps => h (part :: ps) (List.cons_prefix_cons.mpr ⟨rfl, hps⟩)]

end FileTree

theorem Input.readJson_of_read {t u : FileTree} {p : Path} {v : Value}
    (h : Input.readJson t p = .ok v) (hread : ∀ b, t.read p = .ok b → u.read p = .ok b) :
    Input.readJson u p = .ok v := by
  rcases hb : t.read p with e | b
  · rw [Input.readJson, hb] at h
    cases e <;> cases h
  · rw [Input.readJson, hb] at h
    rw [Input.readJson, hread b hb]
    exact h

theorem Input.readSnapshot_of_read {t u : FileTree} {p : Path} {s : Snapshot}
    (h : Input.readSnapshot t p = .ok s) (hread : ∀ b, t.read p = .ok b → u.read p = .ok b) :
    Input.readSnapshot u p = .ok s := by
  obtain ⟨v, hv, hs⟩ := bind_eq_ok.mp h
  exact bind_eq_ok.mpr ⟨v, Input.readJson_of_read hv hread, hs⟩

theorem Input.readBatch_of_read {t u : FileTree} {p : Path} {calls : CallBatch}
    (h : Input.readBatch t p = .ok calls) (hread : ∀ b, t.read p = .ok b → u.read p = .ok b) :
    Input.readBatch u p = .ok calls := by
  obtain ⟨v, hv, hs⟩ := bind_eq_ok.mp h
  exact bind_eq_ok.mpr ⟨v, Input.readJson_of_read hv hread, hs⟩

namespace Artifact

variable {t : FileTree} {dir : Path} {d : Location}

/-- Writing into a directory that is there changes nothing but what is in it, however far it
gets. -/
theorem erase_write (hd : t.locate dir = .ok d) (hdir : t.node? d = some .directory)
    (o : Outcome) : (write t dir o).2.erase d = t.erase d := by
  have hthere := FileTree.makeDirectories_of_directory hd hdir
  generalize hw : write t dir o = x
  obtain ⟨r, u⟩ := x
  cases writes_of_write hw with
  | unmade hmake =>
    rw [hthere] at hmake
    cases hmake
  | unopened hmake _ =>
    rw [hthere] at hmake
    cases hmake
    rfl
  | cut hmake hrecords _ | uncounted hmake hrecords _ | unsummarized hmake hrecords _ =>
    rw [hthere] at hmake
    cases hmake
    exact FileTree.erase_of_write recordsFile_isName hd hrecords
  | done hmake hrecords _ hdone =>
    rw [hthere] at hmake
    cases hmake
    -- the records have been written, and the directory is where it was
    have hd' := (FileTree.keepsDirectories_of_write hrecords).locate hd
    exact (FileTree.erase_of_write summaryFile_isName hd' hdone).trans
      (FileTree.erase_of_write recordsFile_isName hd hrecords)

/-- An empty directory can be written to. -/
theorem exists_write_of_empty {o : Outcome} {b : Bytes} (hd : t.locate dir = .ok d)
    (hdir : t.node? d = some .directory) (hempty : ∀ s : String, t.node? (d ++ [s]) = none)
    (hfits : ∀ r ∈ o.records, r.toJson.fits = true)
    (hb : encodeSummary? o.summary = some b) : ∃ files u, write t dir o = (.ok files, u) := by
  have hrecords := FileTree.write_child recordsFile_isName (encodeRecords o.records) hd hdir
    (by simp [hempty])
  have hkeeps := FileTree.keepsDirectories_of_write hrecords
  have hsummary := FileTree.write_child summaryFile_isName b (hkeeps.locate hd) (hkeeps d hdir)
    (by
      rw [FileTree.node?_set _ _ _ _ (by simp), if_neg (by simp [recordsFile_ne_summaryFile]),
        hempty]
      simp)
  simp [write, FileTree.makeDirectories_of_directory hd hdir, writeRecords_eq,
    encodable_of_fits hfits, hrecords, ending, if_pos hfits, hb, hsummary]

end Artifact

namespace Request

/-- Where the configuration has to be looked for, the way there does not lead over the place. -/
def Avoids (r : Request) (l : Location) : Prop :=
  r.config = none →
    ∀ ps, ps <+: (r.root.child Project.configFile).parts → Path.walk [] ps ≠ l

variable {r : Request} {t : FileTree} {l : Location} {c : Config}

theorem loadConfig_set (h : t.Spare l) (hway : r.Avoids l) :
    r.loadConfig (t.set l .directory) = r.loadConfig t := by
  rcases hc : r.config with _ | c
  · have hsame : ∀ ps, ps <+: (r.root.child Project.configFile).parts →
        (t.set l .directory).node? (Path.walk [] ps) = t.node? (Path.walk [] ps) := by
      intro ps hps
      rw [h.node?_set, if_neg (Ne.symm (hway hc ps hps))]
    have hstat : (t.set l .directory).stat? (r.root.child Project.configFile) =
        t.stat? (r.root.child Project.configFile) := by
      rw [FileTree.stat?_eq, FileTree.stat?_eq, FileTree.enter_congr hsame]
      split_ifs
      · rfl
      · split
        · next k hk =>
          rw [FileTree.eq_walk_of_enter hk, hsame _ List.prefix_rfl]
        · rfl
        · rfl
    simp only [loadConfig, hc, Project.loadConfig_eq_of_stat?, hstat]
  · simp only [loadConfig, hc]

end Request

namespace Verification

variable {t : FileTree} {r : Request} {dir : Path} {scratch : Location}

/-- A run that is given a directory writes there or nowhere. -/
theorem erase_generate (hl : t.locate dir = .ok scratch)
    (hdir : t.node? scratch = some .directory) :
    (generate { r with outputDir := some dir } none t).2.erase scratch = t.erase scratch := by
  rcases hp : { r with outputDir := some dir }.prepare t with e | p
  · simp only [generate, hp]
  · obtain ⟨c, hc, -⟩ := bind_eq_ok.mp hp
    obtain ⟨hout, -⟩ := prepare_eq_ok hc hp
    cases hout
    simp only [generate_of_prepare hp]
    exact Artifact.erase_write hl hdir _

theorem erase_reproduce (hl : t.locate (.ofLocation scratch) = .ok scratch)
    (hdir : t.node? scratch = some .directory) :
    (reproduce r dir scratch t).2.erase scratch = t.erase scratch := by
  have hgenerate := erase_generate (r := r) hl hdir
  rw [reproduce]
  split
  · next hg => rwa [hg] at hgenerate
  · next hg =>
    rw [hg] at hgenerate
    split <;> exact hgenerate

/-- At a spare place the answer is that of the comparison, and the tree is what it was. -/
theorem ofDirectory_of_spare (h : t.Spare scratch)
    (hdir : t.stat? dir = .ok (some .directory)) : ofDirectory r dir scratch t =
      ((reproduce r dir scratch (t.set scratch .directory)).1, t) := by
  have hback : (reproduce r dir scratch (t.set scratch .directory)).2.erase scratch = t :=
    (erase_reproduce h.locate_set h.directory_set).trans h.erase_set
  simp only [ofDirectory, hdir, h.makeDirectory, hback]

/-- A verification leaves nothing behind, whatever it comes to. -/
theorem ofDirectory_snd (ht : t.Rooted) (hup : ".." ∉ scratch) (r : Request) (dir : Path) :
    (ofDirectory r dir scratch t).2 = t := by
  rcases hdir : t.stat? dir with e | _ | _ | _
  · simp only [ofDirectory, hdir]
  · simp only [ofDirectory, hdir]
  · simp only [ofDirectory, hdir]
  · rcases hmake : t.makeDirectory (.ofLocation scratch) with e | u
    · simp only [ofDirectory, hdir, hmake]
    · obtain ⟨hspare, -⟩ := ht.spare_of_makeDirectory hup hmake
      rw [ofDirectory_of_spare hspare hdir]

end Verification

end CallAttribution
