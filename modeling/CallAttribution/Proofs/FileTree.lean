import CallAttribution.FileTree
import Mathlib.Tactic.SplitIfs

/-!
# Looking up and changing file trees

A path that leads somewhere leads there as long as no directory disappears. Making directories
only fills places where nothing stood, and writing a file changes one place whose directory is
there, so every look-up of another place goes on as before. In a rooted tree, where each thing
stands in a directory, a path without detours leads to its own names.
-/

namespace CallAttribution

section Except

variable {ε δ α β : Type}

theorem bind_eq_ok {x : Except ε α} {f : α → Except ε β} {b : β} :
    x >>= f = .ok b ↔ ∃ a, x = .ok a ∧ f a = .ok b := by
  cases x <;> simp [bind, Except.bind]

theorem mapError_eq_ok {x : Except ε α} {f : ε → δ} {a : α} :
    x.mapError f = .ok a ↔ x = .ok a := by
  cases x <;> simp [Except.mapError]

theorem exists_of_map_eq_ok {x : Except ε α} {f : α → β} {b : β} (h : x.map f = .ok b) :
    ∃ a, x = .ok a ∧ f a = b := by
  cases x with
  | error e => cases h
  | ok a => exact ⟨a, rfl, Except.ok.inj h⟩

theorem eq_error_of_map {x : Except ε α} {f : α → β} {e : ε} (h : x.map f = .error e) :
    x = .error e := by
  cases x with
  | error e' => exact congrArg Except.error (Except.error.inj h)
  | ok a => cases h

theorem exists_of_toBool {x : Except ε α} (h : x.toBool = true) : ∃ a, x = .ok a := by
  cases x with
  | error e => cases h
  | ok a => exact ⟨a, rfl⟩

end Except

namespace Path

/-- The text is a single name, which a path can be extended by. -/
structure IsName (s : String) : Prop where
  ofString : Path.ofString s = ⟨.relative, [s]⟩
  ne_up : s ≠ ".."
  noNull : hasNull s = false
  short : s.utf8ByteSize ≤ FileTree.maxName

theorem IsName.child {s : String} (h : IsName s) (p : Path) :
    p.child s = ⟨p.anchor, p.parts ++ [s]⟩ := by
  rw [Path.child, h.ofString]
  rfl

theorem hasNull_ofList {cs : List Char} (h : '\x00' ∉ cs) : hasNull (String.ofList cs) = false := by
  simpa [hasNull] using h

theorem follow_of_ne {part : String} (h : part ≠ "..") (l : Location) :
    follow l part = l ++ [part] :=
  if_neg h

/-- Names without detours are followed to themselves. -/
theorem walk_of_notMem {parts : List String} (h : ".." ∉ parts) (l : Location) :
    walk l parts = l ++ parts := by
  induction parts generalizing l with
  | nil => simp [walk]
  | cons part parts ih =>
    simp only [List.mem_cons, not_or] at h
    have hs : walk l (part :: parts) = walk (follow l part) parts := rfl
    rw [hs, follow_of_ne (Ne.symm h.1), ih h.2, List.append_assoc, List.singleton_append]

/-- What names lead to holds no detours if the start does not. -/
theorem notMem_walk {l : Location} (h : ".." ∉ l) (parts : List String) :
    ".." ∉ walk l parts := by
  induction parts generalizing l with
  | nil => exact h
  | cons part parts ih =>
    refine ih ?_
    unfold follow
    split_ifs with hp
    · exact fun hm => h (List.dropLast_subset l hm)
    · simpa [h] using Ne.symm hp

end Path

namespace FileTree

variable {t u v : FileTree}

theorem enter_cons_eq_ok {l k : Location} {part : String} {parts : List String} :
    t.enter l (part :: parts) = .ok k ↔
      t.node? l = some .directory ∧ (part = ".." ∨ part.utf8ByteSize ≤ maxName) ∧
        t.enter (Path.follow l part) parts = .ok k := by
  rw [enter]
  rcases t.node? l with - | - | - <;> simp
  split_ifs with h
  · simp [h.1, Nat.not_le.mpr h.2]
  · have hp : part = ".." ∨ part.utf8ByteSize ≤ maxName := by
      by_cases hu : part = ".."
      · exact Or.inl hu
      · exact Or.inr (Nat.le_of_not_lt fun hlt => h ⟨hu, hlt⟩)
    simp [hp]

theorem enter_append (t : FileTree) (l : Location) (ps qs : List String) :
    t.enter l (ps ++ qs) = t.enter l ps >>= fun m => t.enter m qs := by
  induction ps generalizing l with
  | nil => rfl
  | cons p ps ih =>
    rw [List.cons_append, enter, enter]
    split
    · rfl
    · rfl
    · split_ifs
      · rfl
      · exact ih _

/-- Whatever stands on the way, names lead to the place that they spell. -/
theorem eq_walk_of_enter {l k : Location} {parts : List String} (h : t.enter l parts = .ok k) :
    k = Path.walk l parts := by
  induction parts generalizing l with
  | nil =>
    cases h
    rfl
  | cons part parts ih => exact ih (enter_cons_eq_ok.mp h).2.2

theorem eq_of_enter {k : Location} {parts : List String} (hup : ".." ∉ parts)
    (h : t.enter [] parts = .ok k) : k = parts := by
  rw [eq_walk_of_enter h, Path.walk_of_notMem hup, List.nil_append]

theorem le_maxName_of_enter {l k : Location} {parts : List String} (h : t.enter l parts = .ok k) :
    ∀ part ∈ parts, part = ".." ∨ part.utf8ByteSize ≤ maxName := by
  induction parts generalizing l with
  | nil => simp
  | cons part parts ih =>
    obtain ⟨-, hp, h⟩ := enter_cons_eq_ok.mp h
    exact List.forall_mem_cons.mpr ⟨hp, ih h⟩

/-- Every directory of the first tree is a directory of the second. -/
def KeepsDirectories (t u : FileTree) : Prop :=
  ∀ l, t.node? l = some .directory → u.node? l = some .directory

theorem KeepsDirectories.trans (h : KeepsDirectories t u) (k : KeepsDirectories u v) :
    KeepsDirectories t v :=
  fun l hl => k l (h l hl)

theorem KeepsDirectories.enter (h : KeepsDirectories t u) {l k : Location} {parts : List String}
    (hk : t.enter l parts = .ok k) : u.enter l parts = .ok k := by
  induction parts generalizing l with
  | nil => exact hk
  | cons part parts ih =>
    obtain ⟨hl, hp, hk⟩ := enter_cons_eq_ok.mp hk
    exact enter_cons_eq_ok.mpr ⟨h l hl, hp, ih hk⟩

theorem locate_eq_ok {p : Path} {l : Location} :
    t.locate p = .ok l ↔ p.isMalformed = false ∧ t.enter [] p.parts = .ok l := by
  rw [locate]
  cases p.isMalformed <;> simp [mapError_eq_ok]

theorem KeepsDirectories.locate (h : KeepsDirectories t u) {p : Path} {l : Location}
    (hl : t.locate p = .ok l) : u.locate p = .ok l := by
  obtain ⟨hp, hl⟩ := locate_eq_ok.mp hl
  exact locate_eq_ok.mpr ⟨hp, h.enter hl⟩

/-- The path of a place leads to the place. -/
theorem eq_of_locate {s l : Location} (hs : ".." ∉ s) (h : t.locate (.ofLocation s) = .ok l) :
    l = s :=
  eq_of_enter hs (locate_eq_ok.mp h).2

theorem locate_child {s : String} (hs : Path.IsName s) {p : Path} {l : Location} :
    t.locate (p.child s) = .ok l ↔
      ∃ d, t.locate p = .ok d ∧ t.node? d = some .directory ∧ l = d ++ [s] := by
  have hm : (p.child s).isMalformed = p.isMalformed := by
    rw [hs.child]
    simp [Path.isMalformed, hs.noNull]
  have henter (d : Location) : t.enter d [s] = .ok l ↔
      t.node? d = some .directory ∧ l = d ++ [s] := by
    rw [enter_cons_eq_ok, Path.follow_of_ne hs.ne_up, enter]
    simp [hs.short, eq_comm]
  rw [locate_eq_ok, hm, hs.child, enter_append, bind_eq_ok]
  simp only [locate_eq_ok, henter]
  constructor
  · rintro ⟨hp, d, hd, hl⟩
    exact ⟨d, ⟨hp, hd⟩, hl⟩
  · rintro ⟨d, ⟨hp, hd⟩, hl⟩
    exact ⟨hp, d, hd, hl⟩

theorem stat_eq_ok {p : Path} {n : Node} :
    t.stat p = .ok n ↔ ∃ l, t.locate p = .ok l ∧ t.node? l = some n := by
  rw [stat, bind_eq_ok]
  refine exists_congr fun l => and_congr_right fun _ => ?_
  cases t.node? l <;> simp

theorem stat?_eq_some {p : Path} {n : Node} :
    t.stat? p = .ok (some n) ↔ ∃ l, t.locate p = .ok l ∧ t.node? l = some n := by
  rw [← stat_eq_ok, stat?]
  constructor
  · intro h
    split at h <;> simp_all
  · intro h
    rw [h]

theorem stat?_of_locate {p : Path} {l : Location} {n : Node} (hl : t.locate p = .ok l)
    (hn : t.node? l = some n) : t.stat? p = .ok (some n) :=
  stat?_eq_some.mpr ⟨l, hl, hn⟩

theorem read_eq_ok {p : Path} {b : Bytes} :
    t.read p = .ok b ↔ ∃ l, t.locate p = .ok l ∧ t.node? l = some (.file b) := by
  rw [read, ← stat_eq_ok, bind_eq_ok]
  constructor
  · rintro ⟨n, hn, h⟩
    cases n <;> cases h
    exact hn
  · exact fun h => ⟨.file b, h, rfl⟩

/-- Reading a file of a directory is a question about its place. -/
theorem read_child_eq_ok {s : String} (hs : Path.IsName s) {p : Path} {d : Location} {b : Bytes}
    (hd : t.locate p = .ok d) (hdir : t.node? d = some .directory) :
    t.read (p.child s) = .ok b ↔ t.node? (d ++ [s]) = some (.file b) := by
  have hplace : t.locate (p.child s) = .ok (d ++ [s]) :=
    (locate_child hs).mpr ⟨d, hd, hdir, rfl⟩
  rw [read_eq_ok, hplace]
  simp

theorem stat?_of_read {p : Path} {b : Bytes} (h : t.read p = .ok b) :
    t.stat? p = .ok (some (.file b)) :=
  stat?_eq_some.mpr (read_eq_ok.mp h)

theorem write_eq_ok {p : Path} {b : Bytes} :
    t.write p b = .ok u ↔
      ∃ l, t.locate p = .ok l ∧ t.node? l ≠ some .directory ∧ u = t.set l (.file b) := by
  rw [write, bind_eq_ok]
  refine exists_congr fun l => and_congr_right fun _ => ?_
  rcases t.node? l with _ | _ | _ <;> simp [eq_comm]

theorem ne_nil_of_node? {l : Location} (h : t.node? l ≠ some .directory) : l ≠ [] := by
  rintro rfl
  exact h rfl

theorem keepsDirectories_set {l : Location} (h : t.node? l ≠ some .directory) (n : Node) :
    KeepsDirectories t (t.set l n) := by
  intro k hk
  rw [node?_set t l k n (ne_nil_of_node? h), if_neg]
  · exact hk
  · rintro rfl
    exact h hk

/-- A file of a directory that is there can be written unless it is a directory itself. -/
theorem write_child {s : String} (hs : Path.IsName s) {p : Path} {d : Location} (b : Bytes)
    (hd : t.locate p = .ok d) (hdir : t.node? d = some .directory)
    (hn : t.node? (d ++ [s]) ≠ some .directory) :
    t.write (p.child s) b = .ok (t.set (d ++ [s]) (.file b)) :=
  write_eq_ok.mpr ⟨d ++ [s], (locate_child hs).mpr ⟨d, hd, hdir, rfl⟩, hn, rfl⟩

theorem keepsDirectories_of_write {p : Path} {b : Bytes} (h : t.write p b = .ok u) :
    KeepsDirectories t u := by
  obtain ⟨l, -, hn, rfl⟩ := write_eq_ok.mp h
  exact keepsDirectories_set hn _

theorem put_put (l : Location) (m n : Node) (ns : List (Location × Node)) :
    put l n (put l m ns) = put l n ns := by
  induction ns with
  | nil => simp [put]
  | cons e ns ih =>
    obtain ⟨k, x⟩ := e
    by_cases h : k = l <;> simp [put, h, ih]

/-- What is set twice is what it was set to last. -/
theorem set_set (t : FileTree) (l : Location) (m n : Node) : (t.set l m).set l n = t.set l n := by
  simp only [set, put_put]

theorem append_set (t : FileTree) {l : Location} (hl : l ≠ []) (b c : Bytes) :
    (t.set l (.file b)).append l c = t.set l (.file (b ++ c)) := by
  rw [append, node?_set _ _ _ _ hl, if_pos rfl]
  exact set_set t l _ _

theorem openFile_eq (t : FileTree) (p : Path) :
    t.openFile p = (t.write p []).map fun u => (Path.walk [] p.parts, u) := by
  rw [openFile]
  rcases hw : t.write p [] with e | u
  · rcases hl : t.locate p with e' | l
    · rw [write, hl] at hw
      cases hw
      rfl
    · rfl
  · obtain ⟨l, hl, -, -⟩ := write_eq_ok.mp hw
    rw [hl, eq_walk_of_enter (locate_eq_ok.mp hl).2]
    rfl

/-- Whether a file can be written to does not depend on what is written. -/
theorem write_append (t : FileTree) (p : Path) (b c : Bytes) :
    t.write p (b ++ c) = (t.write p b).map fun u => u.append (Path.walk [] p.parts) c := by
  rcases hw : t.write p b with e | u
  · rw [write] at hw ⊢
    rcases hl : t.locate p with e' | l
    · rw [hl] at hw
      exact hw
    · simp only [hl, bind, Except.bind] at hw ⊢
      split at hw
      · exact hw
      · cases hw
  · obtain ⟨l, hl, hn, rfl⟩ := write_eq_ok.mp hw
    rw [write_eq_ok.mpr ⟨l, hl, hn, rfl⟩, ← eq_walk_of_enter (locate_eq_ok.mp hl).2, Except.map,
      append_set t (ne_nil_of_node? hn)]

/-- The second tree is the first one with directories made where nothing stood. -/
def Grown (t u : FileTree) : Prop :=
  ∀ l, u.node? l = t.node? l ∨ t.node? l = none ∧ u.node? l = some .directory

theorem Grown.refl (t : FileTree) : Grown t t :=
  fun _ => Or.inl rfl

theorem Grown.trans (h : Grown t u) (k : Grown u v) : Grown t v := by
  intro l
  rcases h l with hl | ⟨hl, hu⟩
  · simpa only [hl] using k l
  · rcases k l with kl | ⟨kl, -⟩
    · exact Or.inr ⟨hl, kl.trans hu⟩
    · rw [hu] at kl
      cases kl

theorem Grown.keepsDirectories (h : Grown t u) : KeepsDirectories t u := by
  intro l hl
  rcases h l with hu | ⟨hn, -⟩
  · rw [hu, hl]
  · rw [hl] at hn
    cases hn

theorem makeDirectory_eq_ok {p : Path} :
    t.makeDirectory p = .ok u ↔
      ∃ l, t.locate p = .ok l ∧ t.node? l = none ∧ u = t.set l .directory := by
  rw [makeDirectory, bind_eq_ok]
  refine exists_congr fun l => and_congr_right fun _ => ?_
  cases t.node? l <;> simp [eq_comm]

theorem grown_of_makeDirectory {p : Path} (h : t.makeDirectory p = .ok u) : Grown t u := by
  obtain ⟨l, -, hn, rfl⟩ := makeDirectory_eq_ok.mp h
  intro k
  have hl : l ≠ [] := ne_nil_of_node? (t := t) (by simp [hn])
  rw [node?_set t l k .directory hl]
  split_ifs with hk
  · exact Or.inr ⟨hk ▸ hn, rfl⟩
  · exact Or.inl rfl

theorem grown_makeOne (t : FileTree) (p : Path) : Grown t (t.makeOne p).2 := by
  rw [makeOne]
  cases h : t.makeDirectory p with
  | error e => exact Grown.refl t
  | ok u => exact grown_of_makeDirectory h

theorem grown_makeWithin (depth : Nat) (t : FileTree) (p : Path) :
    Grown t (t.makeWithin depth p).2 := by
  induction depth generalizing t p with
  | zero => exact grown_makeOne t p
  | succ depth ih =>
    rw [makeWithin]
    split
    · have hparent := ih t p.parent
      split
      · next hw => rwa [hw] at hparent
      · next v hw =>
        rw [hw] at hparent
        exact hparent.trans (grown_makeOne v p)
    · exact grown_makeOne t p

theorem grown_makeDirectories (t : FileTree) (p : Path) : Grown t (t.makeDirectories p).2 :=
  grown_makeWithin p.parts.length t p

/-- Where the directory is there already, nothing is made. -/
theorem makeDirectories_of_directory {p : Path} {l : Location} (hl : t.locate p = .ok l)
    (hn : t.node? l = some .directory) : t.makeDirectories p = (.ok (), t) := by
  have hmake : t.makeDirectory p = .error (.fault .alreadyExists p) := by
    simp [makeDirectory, hl, hn, bind, Except.bind]
  have hone : t.makeOne p = (.ok (), t) := by
    simp [makeOne, hmake, excuse, isDirectory?, stat?_of_locate hl hn, bind, Except.bind, pure,
      Except.pure]
  rw [makeDirectories]
  cases p.parts.length with
  | zero => exact hone
  | succ depth =>
    rw [makeWithin, hmake]
    exact hone

/-- Each thing stands in a directory. -/
def Rooted (t : FileTree) : Prop :=
  ∀ l s n, t.node? (l ++ [s]) = some n → t.node? l = some .directory

theorem Rooted.above (h : t.Rooted) {l k : Location} {n : Node} (hk : k ≠ [])
    (hn : t.node? (l ++ k) = some n) : t.node? l = some .directory := by
  induction k generalizing l with
  | nil => exact absurd rfl hk
  | cons s k ih =>
    by_cases hnil : k = []
    · subst hnil
      exact h l s n hn
    · refine h l s .directory (ih hnil ?_)
      simpa using hn

/-- A path without detours leads to whatever stands at its names. -/
theorem Rooted.enter (h : t.Rooted) {l parts : Location} {n : Node} (hup : ".." ∉ parts)
    (hshort : ∀ part ∈ parts, part.utf8ByteSize ≤ maxName) (hn : t.node? (l ++ parts) = some n) :
    t.enter l parts = .ok (l ++ parts) := by
  induction parts generalizing l with
  | nil => simp [FileTree.enter]
  | cons part parts ih =>
    simp only [List.mem_cons, not_or] at hup
    obtain ⟨hpart, hparts⟩ := List.forall_mem_cons.mp hshort
    -- something stands below `l`, which must then be a directory
    have hl : t.node? l = some .directory := h.above (List.cons_ne_nil part parts) hn
    rw [List.append_cons] at hn ⊢
    rw [enter_cons_eq_ok, Path.follow_of_ne (Ne.symm hup.1)]
    exact ⟨hl, Or.inr hpart, ih hup.2 hparts hn⟩

/-- The place stands in a directory, if it is not the root. -/
def Held (t : FileTree) (l : Location) : Prop :=
  ∀ d s, l = d ++ [s] → t.node? d = some .directory

theorem Rooted.held_of_node? (h : t.Rooted) {l : Location} {n : Node} (hn : t.node? l = some n) :
    t.Held l := by
  rintro d s rfl
  exact h d s n hn

/-- Names only lead to places in directories. -/
theorem Rooted.held_of_enter (h : t.Rooted) {l k : Location} {parts : List String}
    (hl : t.Held l) (hk : t.enter l parts = .ok k) : t.Held k := by
  induction parts generalizing l with
  | nil =>
    cases hk
    exact hl
  | cons part parts ih =>
    obtain ⟨hdir, -, hk⟩ := enter_cons_eq_ok.mp hk
    refine ih ?_ hk
    unfold Path.follow
    split_ifs with hp
    -- two points lead back to the place that holds `l`, any other name stands in `l` itself
    · rcases List.eq_nil_or_concat l with rfl | ⟨m, s, rfl⟩
      · exact hl
      · rw [List.concat_eq_append, List.dropLast_concat]
        exact h.held_of_node? (hl m s (by simp))
    · intro d s hds
      obtain ⟨rfl, -⟩ := List.append_inj' hds rfl
      exact hdir

theorem Rooted.held_of_locate (h : t.Rooted) {p : Path} {l : Location}
    (hl : t.locate p = .ok l) : t.Held l :=
  h.held_of_enter (l := []) (by simp [Held]) (locate_eq_ok.mp hl).2

theorem Rooted.set (h : t.Rooted) {l : Location} (hl : t.Held l)
    (hn : t.node? l ≠ some .directory) (n : Node) : (t.set l n).Rooted := by
  intro k s m hm
  refine keepsDirectories_set hn n k ?_
  rw [node?_set t l _ n (ne_nil_of_node? hn)] at hm
  split_ifs at hm with hk
  · exact hl k s hk
  · exact h k s m hm

theorem Rooted.makeOne (h : t.Rooted) (p : Path) : (t.makeOne p).2.Rooted := by
  rw [FileTree.makeOne]
  cases hm : t.makeDirectory p with
  | error e => exact h
  | ok u =>
    obtain ⟨l, hl, hn, rfl⟩ := makeDirectory_eq_ok.mp hm
    exact h.set (h.held_of_locate hl) (by simp [hn]) .directory

theorem Rooted.makeWithin (depth : Nat) (h : t.Rooted) (p : Path) :
    (t.makeWithin depth p).2.Rooted := by
  induction depth generalizing t p with
  | zero => exact h.makeOne p
  | succ depth ih =>
    rw [FileTree.makeWithin]
    split
    · have hparent := ih h p.parent
      split
      · next hw => rwa [hw] at hparent
      · next v hw =>
        rw [hw] at hparent
        exact hparent.makeOne p
    · exact h.makeOne p

theorem Rooted.makeDirectories (h : t.Rooted) (p : Path) : (t.makeDirectories p).2.Rooted :=
  h.makeWithin p.parts.length p

theorem Rooted.write (h : t.Rooted) {p : Path} {b : Bytes} (hu : t.write p b = .ok u) :
    u.Rooted := by
  obtain ⟨l, hl, hn, rfl⟩ := write_eq_ok.mp hu
  exact h.set (h.held_of_locate hl) hn (.file b)

theorem lookup_eq_some_iff {l : Location} {n : Node} {ns : List (Location × Node)}
    (h : (ns.map Prod.fst).Nodup) : lookup l ns = some n ↔ (l, n) ∈ ns := by
  induction ns with
  | nil => simp [lookup]
  | cons e ns ih =>
    obtain ⟨k, m⟩ := e
    obtain ⟨hk, hns⟩ := List.nodup_cons.mp h
    rw [lookup]
    split_ifs with hkl
    · subst hkl
      have hnot : (k, n) ∉ ns := fun hmem =>
        hk (List.mem_map.mpr ⟨(k, n), hmem, rfl⟩)
      simp [hnot, eq_comm]
    · rw [ih hns]
      simp [Ne.symm hkl]

theorem node?_eq_some_iff {l : Location} (hl : l ≠ []) {n : Node} :
    t.node? l = some n ↔ (l, n) ∈ t.nodes := by
  rw [node?, if_neg hl, lookup_eq_some_iff t.distinct]

/-- A tree is rooted if each of its places stands in a directory. -/
theorem rooted_of_nodes (h : ∀ e ∈ t.nodes, t.node? e.1.dropLast = some .directory) :
    t.Rooted := by
  intro l s n hn
  have hmem := (node?_eq_some_iff (by simp)).mp hn
  simpa using h _ hmem

theorem mem_filesUnder {l name : Location} {b : Bytes} :
    (name, b) ∈ t.filesUnder l ↔ name ≠ [] ∧ t.node? (l ++ name) = some (.file b) := by
  rw [filesUnder, List.mem_filterMap]
  constructor
  · rintro ⟨⟨k, n⟩, hmem, h⟩
    rcases n with c | -
    · simp only [Option.ite_none_right_eq_some, Bool.and_eq_true, List.isPrefixOf_iff_prefix,
        bne_iff_ne, ne_eq, Option.some.injEq, Prod.mk.injEq] at h
      obtain ⟨⟨⟨m, rfl⟩, hne⟩, hname, rfl⟩ := h
      rw [List.drop_left] at hname
      subst hname
      have hm : m ≠ [] := by
        rintro rfl
        exact hne (List.append_nil l).symm
      exact ⟨hm, (node?_eq_some_iff (by simp [hm])).mpr hmem⟩
    · cases h
  · rintro ⟨hne, hn⟩
    refine ⟨(l ++ name, .file b), (node?_eq_some_iff (by simp [hne])).mp hn, ?_⟩
    simp [hne]

/-- Where nothing stands there are no files below. -/
theorem Rooted.filesUnder_of_absent (h : t.Rooted) {l : Location} (hl : t.node? l = none) :
    t.filesUnder l = [] := by
  refine List.eq_nil_iff_forall_not_mem.mpr ?_
  rintro ⟨name, b⟩ hmem
  obtain ⟨hne, hn⟩ := mem_filesUnder.mp hmem
  have hdir := h.above hne hn
  rw [hl] at hdir
  cases hdir

end FileTree

end CallAttribution
