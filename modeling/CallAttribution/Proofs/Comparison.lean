import CallAttribution.Proofs.FileTree
import CallAttribution.Verification
import Mathlib.Data.List.Nodup
import Mathlib.Logic.Basic

/-!
# Comparing files

The files of a directory deviate from those of a run in three ways: a file stands there that the run
does not write, a file is lacking that it writes, or a file has other contents. A comparison tells
each of them by a sorted list of paths, and nothing exactly if the same files stand on both sides.
-/

namespace CallAttribution

/-- The places of a tree are different, so each file below a place is seen once. -/
theorem FileTree.nodup_filesUnder (t : FileTree) (l : Location) :
    ((t.filesUnder l).map Prod.fst).Nodup := by
  have hnodes : t.nodes.Pairwise fun a b => a.1 ≠ b.1 := List.pairwise_map.mp t.distinct
  refine List.pairwise_map.mpr (hnodes.filterMap _ ?_)
  rintro ⟨k, n⟩ ⟨k', n'⟩ hkk f hf f' hf' hname
  cases n with
  | directory => cases hf
  | file b =>
    cases n' with
    | directory => cases hf'
    | file b' =>
      simp only [Option.ite_none_right_eq_some, Bool.and_eq_true, List.isPrefixOf_iff_prefix,
        Option.some.injEq] at hf hf'
      obtain ⟨⟨⟨m, rfl⟩, -⟩, rfl⟩ := hf
      obtain ⟨⟨⟨m', rfl⟩, -⟩, rfl⟩ := hf'
      rw [List.drop_left, List.drop_left] at hname
      exact hkk (congrArg (l ++ ·) hname)

theorem Deviation.eq_of_ok {d : Deviation} (h : d.ok = true) : d = ⟨[], [], []⟩ := by
  obtain ⟨mismatches, missing, extra⟩ := d
  simp only [Deviation.ok, Bool.and_eq_true, List.isEmpty_iff] at h
  obtain ⟨⟨rfl, rfl⟩, rfl⟩ := h
  rfl

namespace Verification

/-- The texts of the paths that satisfy a condition, one for each path, in increasing order. -/
structure Lists (shown : List String) (p : List String → Prop) : Prop where
  sorted : shown.Pairwise (· ≤ ·)
  complete : ∃ names : List (List String), names.Nodup ∧ (∀ n, n ∈ names ↔ p n) ∧
    shown.Perm (names.map Path.showParts)

namespace Lists

variable {shown : List String} {p q : List String → Prop}

theorem mem_iff (h : Lists shown p) {s : String} : s ∈ shown ↔ ∃ n, p n ∧ Path.showParts n = s := by
  obtain ⟨names, -, hnames, hperm⟩ := h.complete
  rw [hperm.mem_iff, List.mem_map]
  simp only [hnames]

theorem eq_nil_iff (h : Lists shown p) : shown = [] ↔ ∀ n, ¬ p n := by
  obtain ⟨names, -, hnames, hperm⟩ := h.complete
  simp only [← hnames, ← List.eq_nil_iff_forall_not_mem]
  constructor
  · rintro rfl
    exact List.map_eq_nil_iff.mp (List.nil_perm.mp hperm)
  · rintro rfl
    exact List.perm_nil.mp hperm

theorem congr (h : Lists shown p) (hpq : ∀ n, p n ↔ q n) : Lists shown q := by
  rwa [← funext fun n => propext (hpq n)]

end Lists

section Select

variable {files : Files} {name : List String} {b : Bytes}

theorem content?_of_mem (hmem : (name, b) ∈ files) (huniq : ∀ c, (name, c) ∈ files → c = b) :
    content? files name = some b := by
  induction files with
  | nil => cases hmem
  | cons f files ih =>
    obtain ⟨n, c⟩ := f
    rw [content?, List.lookup_cons]
    by_cases hn : name = n
    · subst hn
      simp [huniq c (by simp)]
    · have hne : (name == n) = false := by simpa using hn
      have hmem' : (name, b) ∈ files := by simpa [hn] using hmem
      rw [hne]
      exact ih hmem' fun c hc => huniq c (List.mem_cons_of_mem _ hc)

theorem content?_eq_some_iff (h : (files.map Prod.fst).Nodup) :
    content? files name = some b ↔ (name, b) ∈ files := by
  constructor
  · intro hb
    obtain ⟨before, after, rfl, -⟩ := List.lookup_eq_some_iff.mp hb
    simp
  · intro hb
    refine content?_of_mem hb fun c hc => ?_
    exact (Prod.ext_iff.mp (List.inj_on_of_nodup_map h hc hb rfl)).2

theorem content?_eq_none_iff (h : (files.map Prod.fst).Nodup) :
    content? files name = none ↔ ∀ b, (name, b) ∉ files := by
  simp only [Option.eq_none_iff_forall_ne_some, ne_eq, content?_eq_some_iff h]

theorem pairwise_showSorted (names : List (List String)) :
    (showSorted names).Pairwise (· ≤ ·) := by
  have hle : (showSorted names).Pairwise fun a b => decide (a ≤ b) = true := by
    refine List.pairwise_mergeSort (fun a b c hab hbc => ?_) (fun a b => ?_) _
    · exact decide_eq_true (String.le_trans (of_decide_eq_true hab) (of_decide_eq_true hbc))
    · simpa using String.le_total a b
  exact hle.imp of_decide_eq_true

/-- A selection of files is shown path by path. -/
theorem lists_select (h : (files.map Prod.fst).Nodup) (p : List String → Bytes → Bool) :
    Lists (select files p) fun n => ∃ b, (n, b) ∈ files ∧ p n b = true where
  sorted := pairwise_showSorted _
  complete := by
    refine ⟨(files.filter fun f => p f.1 f.2).map Prod.fst, ?_, fun n => ?_, ?_⟩
    · exact h.sublist (List.filter_sublist.map _)
    · simp [List.mem_map, List.mem_filter]
    · exact List.mergeSort_perm _ _

end Select

/-- What a comparison of the files that are there with those that a run writes tells. -/
structure Tells (dev : Deviation) (present reproduced : List String → Bytes → Prop) : Prop where
  missing : Lists dev.missing fun n => (∃ b, present n b) ∧ ∀ c, ¬ reproduced n c
  extra : Lists dev.extra fun n => (∃ c, reproduced n c) ∧ ∀ b, ¬ present n b
  mismatches : Lists dev.mismatches fun n => ∃ b c, present n b ∧ reproduced n c ∧ b ≠ c

theorem tells_compare {present reproduced : Files} (hp : (present.map Prod.fst).Nodup)
    (hr : (reproduced.map Prod.fst).Nodup) :
    Tells (compare present reproduced) (fun n b => (n, b) ∈ present)
      (fun n c => (n, c) ∈ reproduced) where
  missing := by
    have h := lists_select hp fun n _ => (content? reproduced n).isNone
    refine h.congr fun n => ?_
    simp only [Option.isNone_iff_eq_none, content?_eq_none_iff hr, exists_and_right]
  extra := by
    have h := lists_select hr fun n _ => (content? present n).isNone
    refine h.congr fun n => ?_
    simp only [Option.isNone_iff_eq_none, content?_eq_none_iff hp, exists_and_right]
  mismatches := by
    dsimp only [compare]
    refine (lists_select hp _).congr fun n => exists_congr fun b => ?_
    rw [exists_and_left]
    refine and_congr_right fun _ => ?_
    rcases hc : content? reproduced n with _ | c
    · simp [(content?_eq_none_iff hr).mp hc]
    · have hmem (x : Bytes) : (n, x) ∈ reproduced ↔ c = x := by
        rw [← content?_eq_some_iff hr, hc, Option.some.injEq]
      simp [hmem]

namespace Tells

variable {dev : Deviation} {present reproduced present' reproduced' : List String → Bytes → Prop}

theorem congr (h : Tells dev present reproduced) (hp : ∀ n b, present n b ↔ present' n b)
    (hr : ∀ n b, reproduced n b ↔ reproduced' n b) : Tells dev present' reproduced' := by
  obtain rfl : present = present' := funext fun n => funext fun b => propext (hp n b)
  obtain rfl : reproduced = reproduced' := funext fun n => funext fun b => propext (hr n b)
  exact h

/-- Nothing is told exactly if the same files stand on both sides, where those of the run have one
content each. -/
theorem ok_iff (h : Tells dev present reproduced)
    (huniq : ∀ n b b', reproduced n b → reproduced n b' → b = b') :
    dev.ok = true ↔ ∀ n b, present n b ↔ reproduced n b := by
  simp only [Deviation.ok, Bool.and_eq_true, List.isEmpty_iff, h.missing.eq_nil_iff,
    h.extra.eq_nil_iff, h.mismatches.eq_nil_iff]
  constructor
  · rintro ⟨⟨hmismatches, hmissing⟩, hextra⟩ n b
    constructor
    · intro hb
      obtain ⟨c, hc⟩ := not_forall_not.mp fun hno => hmissing n ⟨⟨b, hb⟩, hno⟩
      have hbc : b = c := by_contra fun hne => hmismatches n ⟨b, c, hb, hc, hne⟩
      exact hbc ▸ hc
    · intro hc
      obtain ⟨b', hb'⟩ := not_forall_not.mp fun hno => hextra n ⟨⟨b, hc⟩, hno⟩
      have hbc : b' = b := by_contra fun hne => hmismatches n ⟨b', b, hb', hc, hne⟩
      exact hbc ▸ hb'
  · intro hsame
    refine ⟨⟨?_, ?_⟩, ?_⟩
    · rintro n ⟨b, c, hb, hc, hne⟩
      exact hne (huniq n b c ((hsame n b).mp hb) hc)
    · rintro n ⟨⟨b, hb⟩, hno⟩
      exact hno b ((hsame n b).mp hb)
    · rintro n ⟨⟨c, hc⟩, hno⟩
      exact hno c ((hsame n c).mpr hc)

end Tells

end Verification

end CallAttribution
