import CallAttribution.Proofs.Artifact
import CallAttribution.Proofs.Generation
import CallAttribution.Proofs.Project

/-!
# Trees that are alike

Two file trees are compared place by place, by a relation of which only two things are asked: what
is the same is alike, and a directory is like directories only. Then paths lead to the same places
in both trees. If moreover what is missing is only like what is missing, at each place that a path
leads through, then directories are made and artifacts are written along this path in both trees
with the same answer, and the trees are still alike.
-/

namespace CallAttribution

namespace FileTree

variable {t u : FileTree} {p : Path}

/-- A name that is too long stays in the way as long as the directories before it are there. -/
theorem KeepsDirectories.nameTooLong (h : KeepsDirectories t u) {l : Location}
    {parts : List String} (ht : t.enter l parts = .error .nameTooLong) :
    u.enter l parts = .error .nameTooLong := by
  induction parts generalizing l with
  | nil => cases ht
  | cons part parts ih =>
    rw [FileTree.enter] at ht ⊢
    split at ht
    · cases ht
    · cases ht
    · next hl =>
      rw [h l hl]
      dsimp only
      split_ifs at ht ⊢
      · rfl
      · exact ih ht

/-- A path leads to what stands at its place, or astray; only a name that is too long is a
failure. -/
theorem stat?_eq (t : FileTree) (p : Path) :
    t.stat? p = if p.isMalformed then .ok none else
      match t.enter [] p.parts with
      | .ok l => .ok (t.node? l)
      | .error .nameTooLong => .error (.fault .nameTooLong p)
      | .error _ => .ok none := by
  rw [stat?, stat, locate]
  split_ifs
  · rfl
  · rcases he : t.enter [] p.parts with f | l
    · rcases fault_of_enter he with rfl | rfl | ⟨rfl, -⟩ <;> rfl
    · rcases hn : t.node? l with _ | n <;> simp [Except.mapError, bind, Except.bind, hn]

/-- What stands at a path depends on the directories and on what stands at its own place. -/
theorem stat?_congr (htu : KeepsDirectories t u) (hut : KeepsDirectories u t)
    (hn : t.node? (Path.walk [] p.parts) = u.node? (Path.walk [] p.parts)) :
    t.stat? p = u.stat? p := by
  rw [stat?_eq, stat?_eq]
  split_ifs
  · rfl
  · rcases ht : t.enter [] p.parts with f | l
    · rcases hu : u.enter [] p.parts with g | k
      · have hlong : f = .nameTooLong ↔ g = .nameTooLong := by
          constructor
          · rintro rfl
            exact Except.error.inj (hu.symm.trans (htu.nameTooLong ht))
          · rintro rfl
            exact Except.error.inj (ht.symm.trans (hut.nameTooLong hu))
        cases f <;> cases g <;> simp_all
      · have hk := hut.enter hu
        rw [ht] at hk
        cases hk
    · rw [htu.enter ht]
      have hl : t.node? l = u.node? l := by rwa [eq_walk_of_enter ht]
      exact congrArg Except.ok hl

end FileTree

open FileTree

/-- What may stand at a place of one tree, given what stands there in another one. -/
structure Likeness where
  rel : Location → Option Node → Option Node → Prop
  refl : ∀ l n, rel l n n
  directory : ∀ {l n m}, rel l n m → (n = some .directory ↔ m = some .directory)

namespace Likeness

variable {R : Likeness} {t u : FileTree} {p : Path}

/-- The trees are alike at every place. -/
def Holds (R : Likeness) (t u : FileTree) : Prop :=
  ∀ l, R.rel l (t.node? l) (u.node? l)

/-- At this place, what is missing is only like what is missing. -/
def Firm (R : Likeness) (l : Location) : Prop :=
  ∀ {n m}, R.rel l n m → n.isSome = m.isSome

/-- Every place is firm that names lead through, the last one included. -/
def FirmAlong (R : Likeness) (parts : List String) : Prop :=
  ∀ ps, ps <+: parts → R.Firm (Path.walk [] ps)

theorem FirmAlong.dropLast {parts : List String} (h : R.FirmAlong parts) :
    R.FirmAlong parts.dropLast :=
  fun ps hps => h ps (hps.trans parts.dropLast_prefix)

/-- The same answer, and trees that are alike. -/
structure Alike {α : Type} (R : Likeness) (x y : α × FileTree) : Prop where
  answer : x.1 = y.1
  tree : R.Holds x.2 y.2

/-- The same failure, or trees that are alike. -/
inductive AlikeIfOk (R : Likeness) : Except FileError FileTree → Except FileError FileTree → Prop
  | error (e : FileError) : AlikeIfOk R (.error e) (.error e)
  | ok {t u : FileTree} (h : R.Holds t u) : AlikeIfOk R (.ok t) (.ok u)

namespace Holds

theorem keepsDirectories (h : R.Holds t u) : KeepsDirectories t u :=
  fun l => (R.directory (h l)).mp

theorem keepsDirectories_symm (h : R.Holds t u) : KeepsDirectories u t :=
  fun l => (R.directory (h l)).mpr

theorem stat?_eq_of_node? (h : R.Holds t u)
    (hn : t.node? (Path.walk [] p.parts) = u.node? (Path.walk [] p.parts)) :
    t.stat? p = u.stat? p :=
  stat?_congr h.keepsDirectories h.keepsDirectories_symm hn

theorem enter_eq (h : R.Holds t u) {l : Location} {parts : List String}
    (hf : ∀ ps, ps <+: parts → ps ≠ parts → R.Firm (Path.walk l ps)) :
    t.enter l parts = u.enter l parts := by
  induction parts generalizing l with
  | nil => rfl
  | cons part parts ih =>
    have hrest : t.enter (Path.follow l part) parts = u.enter (Path.follow l part) parts :=
      ih fun ps hps hne =>
        hf (part :: ps) (List.cons_prefix_cons.mpr ⟨rfl, hps⟩) (by simpa using hne)
    have hsome : (t.node? l).isSome = (u.node? l).isSome :=
      hf [] List.nil_prefix (by simp) (h l)
    have hdir := R.directory (h l)
    rw [enter, enter, hrest]
    rcases ht : t.node? l with _ | _ | _ <;> rcases hu : u.node? l with _ | _ | _ <;> simp_all

theorem locate_eq (h : R.Holds t u) (hf : R.FirmAlong p.parts) : t.locate p = u.locate p := by
  rw [locate, locate, h.enter_eq fun ps hps _ => hf ps hps]

/-- The place of a file in a directory is found by what is on the way to the directory. -/
theorem locate_child_eq (h : R.Holds t u) {s : String} (hs : Path.IsName s)
    (hf : R.FirmAlong p.parts) : t.locate (p.child s) = u.locate (p.child s) := by
  rw [hs.child, locate, locate, h.enter_eq]
  intro ps hps hne
  exact hf ps ((List.prefix_concat_iff.mp hps).resolve_left hne)

theorem isDirectory?_eq (h : R.Holds t u) (hf : R.FirmAlong p.parts) :
    t.isDirectory? p = u.isDirectory? p := by
  have henter : t.enter [] p.parts = u.enter [] p.parts := h.enter_eq fun ps hps _ => hf ps hps
  rw [isDirectory?, isDirectory?, stat?_eq, stat?_eq, henter]
  split_ifs
  · rfl
  · rcases u.enter [] p.parts with f | l
    · cases f <;> rfl
    · have hdir := R.directory (h l)
      rcases ht : t.node? l with _ | _ | _ <;> rcases hu : u.node? l with _ | _ | _ <;>
        simp_all [bind, Except.bind]

theorem set (h : R.Holds t u) {l : Location} (hl : l ≠ []) (n : Node) :
    R.Holds (t.set l n) (u.set l n) := by
  intro k
  rw [node?_set t l k n hl, node?_set u l k n hl]
  split_ifs
  · exact R.refl k _
  · exact h k

theorem write (h : R.Holds t u) (hl : t.locate p = u.locate p) (b : Bytes) :
    R.AlikeIfOk (t.write p b) (u.write p b) := by
  rw [FileTree.write, FileTree.write, hl]
  rcases u.locate p with e | l
  · exact .error e
  · have hdir := R.directory (h l)
    by_cases ht : t.node? l = some .directory
    · simp only [bind, Except.bind, ht, hdir.mp ht]
      exact .error _
    · have hu : u.node? l ≠ some .directory := fun hu => ht (hdir.mpr hu)
      have hset := AlikeIfOk.ok (h.set (ne_nil_of_node? ht) (.file b))
      rcases htn : t.node? l with _ | _ | _ <;> rcases hun : u.node? l with _ | _ | _ <;>
        simp_all [bind, Except.bind]

theorem makeDirectory (h : R.Holds t u) (hf : R.FirmAlong p.parts) :
    R.AlikeIfOk (t.makeDirectory p) (u.makeDirectory p) := by
  rw [FileTree.makeDirectory, FileTree.makeDirectory, ← h.locate_eq hf]
  rcases hl : t.locate p with e | l
  · exact .error e
  · have hwalk := eq_walk_of_enter (locate_eq_ok.mp hl).2
    have hsome : (t.node? l).isSome = (u.node? l).isSome :=
      hwalk ▸ hf p.parts List.prefix_rfl (h (Path.walk [] p.parts))
    rcases ht : t.node? l with _ | n
    · have hu : u.node? l = none := by simpa [ht] using hsome.symm
      have hne : l ≠ [] := ne_nil_of_node? (t := t) (by simp [ht])
      simp only [bind, Except.bind, ht, hu]
      exact .ok (h.set hne .directory)
    · obtain ⟨m, hu⟩ := Option.isSome_iff_exists.mp (hsome.symm.trans (by simp [ht]))
      simp only [bind, Except.bind, ht, hu]
      exact .error _

theorem excuse_eq (h : R.Holds t u) (hf : R.FirmAlong p.parts) (e : FileError) :
    t.excuse p e = u.excuse p e := by
  unfold excuse
  rw [h.isDirectory?_eq hf]

theorem makeOne (h : R.Holds t u) (hf : R.FirmAlong p.parts) :
    R.Alike (t.makeOne p) (u.makeOne p) := by
  have hmake := h.makeDirectory hf
  rw [FileTree.makeOne, FileTree.makeOne]
  generalize t.makeDirectory p = x, u.makeDirectory p = y at hmake
  cases hmake with
  | error e => exact ⟨h.excuse_eq hf e, h⟩
  | ok h' => exact ⟨rfl, h'⟩

theorem makeWithin (depth : Nat) (h : R.Holds t u) (hf : R.FirmAlong p.parts) :
    R.Alike (t.makeWithin depth p) (u.makeWithin depth p) := by
  induction depth generalizing t u p with
  | zero => exact h.makeOne hf
  | succ depth ih =>
    have hmake := h.makeDirectory hf
    have hone := h.makeOne hf
    rw [FileTree.makeWithin, FileTree.makeWithin]
    generalize t.makeDirectory p = x, u.makeDirectory p = y at hmake
    cases hmake with
    | ok h' => exact hone
    | error e =>
      cases e with
      | embeddedNull => exact hone
      | fault f q =>
        cases f with
        | notFound =>
          obtain ⟨hanswer, htree⟩ := ih h (p := p.parent) hf.dropLast
          generalize FileTree.makeWithin depth t p.parent = x,
            FileTree.makeWithin depth u p.parent = y at hanswer htree
          obtain ⟨a, t'⟩ := x
          obtain ⟨b, u'⟩ := y
          obtain rfl : a = b := hanswer
          cases a with
          | error e => exact ⟨rfl, htree⟩
          | ok a => exact makeOne htree hf
        | _ => exact hone

theorem makeDirectories (h : R.Holds t u) (hf : R.FirmAlong p.parts) :
    R.Alike (t.makeDirectories p) (u.makeDirectories p) :=
  h.makeWithin p.parts.length hf

/-- Artifacts are written into both trees with the same answer. -/
theorem writeArtifacts (h : R.Holds t u) {dir : Path} (hf : R.FirmAlong dir.parts) (o : Outcome) :
    R.Alike (Artifact.write t dir o) (Artifact.write u dir o) := by
  obtain ⟨hanswer, htree⟩ := h.makeDirectories hf
  rw [Artifact.write, Artifact.write]
  generalize t.makeDirectories dir = x, u.makeDirectories dir = y at hanswer htree
  obtain ⟨a, t₁⟩ := x
  obtain ⟨b, u₁⟩ := y
  obtain rfl : a = b := hanswer
  cases a with
  | error e => exact ⟨rfl, htree⟩
  | ok a =>
    have hrecords := htree.write (htree.locate_child_eq Artifact.recordsFile_isName hf)
      (Artifact.encodeRecords (Artifact.encodable o.records))
    dsimp only at hrecords ⊢
    rw [Artifact.writeRecords_eq, Artifact.writeRecords_eq]
    generalize t₁.write _ _ = x, u₁.write _ _ = y at hrecords
    cases hrecords with
    | error e => exact ⟨rfl, htree⟩
    | @ok t₂ u₂ hrecords =>
      dsimp only
      cases Artifact.ending o.records with
      | error e => exact ⟨rfl, hrecords⟩
      | ok _ =>
        dsimp only
        split
        · exact ⟨rfl, hrecords⟩
        · next b _ =>
          have hsummary := hrecords.write
            (hrecords.locate_child_eq Artifact.summaryFile_isName hf) b
          generalize t₂.write _ _ = x, u₂.write _ _ = y at hsummary
          cases hsummary with
          | error e => exact ⟨rfl, hrecords⟩
          | ok hsummary => exact ⟨rfl, hsummary⟩

end Holds

end Likeness

end CallAttribution
