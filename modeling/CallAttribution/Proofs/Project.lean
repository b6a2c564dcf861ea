import CallAttribution.Project
import CallAttribution.Proofs.FileTree

/-!
# Looking for the configuration

In a rooted tree, whether a project has a configuration depends only on what stands at the place of
the configuration file, as long as no name on the way is too long. So the configuration stays the
same when directories are made or other files are written. A directory of artifacts that a project
names lies inside of the project.
-/

namespace CallAttribution

namespace FileTree

variable {t : FileTree}

/-- Names lead astray where something is missing or not a directory, or where they are too long. -/
theorem fault_of_enter {l : Location} {parts : List String} {f : Fault}
    (h : t.enter l parts = .error f) :
    f = .notFound ∨ f = .notDirectory ∨
      f = .nameTooLong ∧ ∃ part ∈ parts, maxName < part.utf8ByteSize := by
  induction parts generalizing l with
  | nil => cases h
  | cons part parts ih =>
    rw [FileTree.enter] at h
    split at h
    · cases h
      exact Or.inl rfl
    · cases h
      exact Or.inr (Or.inl rfl)
    · split_ifs at h with hlong
      · cases h
        exact Or.inr (Or.inr ⟨rfl, part, List.mem_cons_self, hlong.2⟩)
      · refine (ih h).imp id (Or.imp id (And.imp id ?_))
        rintro ⟨name, hname, hlong⟩
        exact ⟨name, List.mem_cons_of_mem _ hname, hlong⟩

/-- Is there a file? A question about the place itself. -/
theorem Rooted.isFile?_eq (h : t.Rooted) {p : Path} (hm : p.isMalformed = false)
    (hup : ".." ∉ p.parts) (hshort : ∀ part ∈ p.parts, part.utf8ByteSize ≤ maxName) :
    t.isFile? p = .ok (match t.node? p.parts with | some (.file _) => true | _ => false) := by
  rcases hn : t.node? p.parts with _ | n
  · have hstat : t.stat? p = .ok none := by
      rcases he : t.enter [] p.parts with f | k
      · have hl : t.locate p = .error (.fault f p) := by
          simp [locate, hm, he, Except.mapError]
        rcases fault_of_enter he with rfl | rfl | ⟨-, part, hpart, hlong⟩
        · simp [stat?, stat, hl, bind, Except.bind]
        · simp [stat?, stat, hl, bind, Except.bind]
        · exact absurd hlong (Nat.not_lt.mpr (hshort part hpart))
      · obtain rfl := eq_of_enter hup he
        simp [stat?, stat, locate_eq_ok.mpr ⟨hm, he⟩, hn, bind, Except.bind]
    simp [isFile?, hstat, bind, Except.bind, pure, Except.pure]
  · have hl : t.locate p = .ok p.parts :=
      locate_eq_ok.mpr ⟨hm, h.enter (l := []) hup hshort hn⟩
    have hstat := stat?_of_locate hl hn
    cases n <;> simp [isFile?, hstat, bind, Except.bind, pure, Except.pure]

theorem Rooted.read_eq (h : t.Rooted) {p : Path} {b : Bytes} (hm : p.isMalformed = false)
    (hup : ".." ∉ p.parts) (hshort : ∀ part ∈ p.parts, part.utf8ByteSize ≤ maxName)
    (hn : t.node? p.parts = some (.file b)) : t.read p = .ok b :=
  read_eq_ok.mpr ⟨p.parts, locate_eq_ok.mpr ⟨hm, h.enter (l := []) hup hshort hn⟩, hn⟩

end FileTree

namespace Project

variable {t u : FileTree}

theorem configFile_isName : Path.IsName configFile :=
  ⟨by decide, by decide, by decide, by decide⟩

/-- Loading a configuration depends on what stands at the path of its file. -/
theorem loadConfig_eq_of_stat? (t : FileTree) (root : Path) :
    loadConfig t root = match t.stat? (root.child configFile) with
      | .error e => .error (.file e)
      | .ok (some (.file b)) => configOfBytes (root.child configFile) b
      | .ok _ => .ok .default := by
  rcases hs : t.stat? (root.child configFile) with e | _ | b | _
  · simp [loadConfig, FileTree.isFile?, hs, bind, Except.bind, Except.mapError]
  · simp [loadConfig, FileTree.isFile?, hs, bind, Except.bind, pure, Except.pure, Except.mapError]
  · have hread : t.read (root.child configFile) = .ok b :=
      FileTree.read_eq_ok.mpr (FileTree.stat?_eq_some.mp hs)
    simp [loadConfig, FileTree.isFile?, hs, hread, bind, Except.bind, pure, Except.pure,
      Except.mapError]
  · simp [loadConfig, FileTree.isFile?, hs, bind, Except.bind, pure, Except.pure, Except.mapError]

/-- A path that no file system admits has no configuration. -/
theorem loadConfig_of_malformed {root : Path} (h : (root.child configFile).isMalformed = true) :
    loadConfig t root = .ok .default := by
  simp [loadConfig, FileTree.isFile?, FileTree.stat?, FileTree.stat, FileTree.locate, h, bind,
    Except.bind, pure, Except.pure, Except.mapError]

/-- Without the directory of the project the usual configuration holds. -/
theorem loadConfig_of_notFound {root p : Path}
    (h : t.locate (root.child configFile) = .error (.fault .notFound p)) :
    loadConfig t root = .ok .default := by
  simp [loadConfig, FileTree.isFile?, FileTree.stat?, FileTree.stat, h, bind, Except.bind, pure,
    Except.pure, Except.mapError]

/-- The configuration is the one in the file at its place, or the usual one. -/
theorem loadConfig_eq (h : t.Rooted) {root : Path}
    (hm : (root.child configFile).isMalformed = false) (hup : ".." ∉ root.parts)
    (hshort : ∀ part ∈ root.parts, part.utf8ByteSize ≤ FileTree.maxName) :
    loadConfig t root = match t.node? (root.parts ++ [configFile]) with
      | some (.file b) => configOfBytes (root.child configFile) b
      | _ => .ok .default := by
  have hparts : (root.child configFile).parts = root.parts ++ [configFile] := by
    rw [configFile_isName.child]
  have hup' : ".." ∉ (root.child configFile).parts := by
    simpa [hparts, hup] using configFile_isName.ne_up.symm
  have hshort' : ∀ part ∈ (root.child configFile).parts, part.utf8ByteSize ≤ FileTree.maxName := by
    rw [hparts]
    intro part hpart
    rcases List.mem_append.mp hpart with hp | hp
    · exact hshort part hp
    · rw [List.mem_singleton.mp hp]
      exact configFile_isName.short
  have hfile := h.isFile?_eq hm hup' hshort'
  rw [hparts] at hfile
  rcases hn : t.node? (root.parts ++ [configFile]) with _ | b | _
  · simp [loadConfig, hfile, hn, bind, Except.bind, pure, Except.pure, Except.mapError]
  · have hread : t.read (root.child configFile) = .ok b :=
      h.read_eq hm hup' hshort' (by rw [hparts, hn])
    simp [loadConfig, hfile, hn, hread, bind, Except.bind, Except.mapError]
  · simp [loadConfig, hfile, hn, bind, Except.bind, pure, Except.pure, Except.mapError]

/-- Directories may be made and other files written, the configuration stays. -/
theorem loadConfig_congr (ht : t.Rooted) (hu : u.Rooted) {root : Path} (hup : ".." ∉ root.parts)
    (hshort : ∀ part ∈ root.parts, part.utf8ByteSize ≤ FileTree.maxName)
    (hplace : u.node? (root.parts ++ [configFile]) = t.node? (root.parts ++ [configFile]) ∨
      t.node? (root.parts ++ [configFile]) = none ∧
        u.node? (root.parts ++ [configFile]) = some .directory) :
    loadConfig u root = loadConfig t root := by
  cases hm : (root.child configFile).isMalformed with
  | true => rw [loadConfig_of_malformed hm, loadConfig_of_malformed hm]
  | false =>
    rw [loadConfig_eq hu hm hup hshort, loadConfig_eq ht hm hup hshort]
    rcases hplace with h | ⟨h, h'⟩
    · rw [h]
    · rw [h, h']

/-- A project below a directory cannot be asked about if its own name is too long. -/
theorem loadConfig_of_overlong {l : Location} {s : String}
    (hm : ((Path.ofLocation (l ++ [s])).child configFile).isMalformed = false)
    (hl : t.enter [] l = .ok l) (hdir : t.node? l = some .directory) (hup : s ≠ "..")
    (hlong : FileTree.maxName < s.utf8ByteSize) :
    loadConfig t (.ofLocation (l ++ [s])) = .error (.file (.fault .nameTooLong
      ((Path.ofLocation (l ++ [s])).child configFile))) := by
  have hparts : ((Path.ofLocation (l ++ [s])).child configFile).parts =
      l ++ [s, configFile] := by
    rw [configFile_isName.child]
    simp [Path.ofLocation]
  have henter : t.enter [] (l ++ [s, configFile]) = .error .nameTooLong := by
    rw [FileTree.enter_append, hl]
    change t.enter l [s, configFile] = _
    rw [FileTree.enter, hdir]
    exact if_pos ⟨hup, hlong⟩
  have hlocate : t.locate ((Path.ofLocation (l ++ [s])).child configFile) =
      .error (.fault .nameTooLong ((Path.ofLocation (l ++ [s])).child configFile)) := by
    simp [FileTree.locate, hm, hparts, henter, Except.mapError]
  simp [loadConfig, FileTree.isFile?, FileTree.stat?, FileTree.stat, hlocate, bind, Except.bind,
    Except.mapError]

theorem placeOf_eq_ok {p : Path} {l : Location} :
    placeOf p = .ok l ↔ p.isMalformed = false ∧ l = Path.walk [] p.parts := by
  rw [placeOf, Path.resolve?, ite_self]
  cases p.isMalformed with
  | true => simp
  | false => simp [eq_comm (a := l)]

/-- The directory of artifacts that a project names is the place of its path, inside of the
project. -/
theorem outputDir_eq_ok {root out : Location} {dir : String} (hup : ".." ∉ root)
    (h : outputDir (.ofLocation root) dir = .ok out) :
    placeOf ((Path.ofLocation root).child dir) = .ok out ∧ root <+: out := by
  rw [outputDir] at h
  split_ifs at h
  obtain ⟨l, hl, hrest⟩ := bind_eq_ok.mp h
  obtain ⟨o, ho, hlast⟩ := bind_eq_ok.mp hrest
  have hroot : l = root := by
    rw [(placeOf_eq_ok.mp hl).2]
    exact Path.walk_of_notMem hup []
  subst hroot
  split_ifs at hlast with hin
  cases hlast
  exact ⟨ho, List.isPrefixOf_iff_prefix.mp hin⟩

end Project

end CallAttribution
