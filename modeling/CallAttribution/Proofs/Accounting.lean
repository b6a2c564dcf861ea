import CallAttribution.Proofs.Criterion
import CallAttribution.Proofs.Text.Framing
import Mathlib.Data.List.TakeWhile
import Mathlib.Order.Monotone.Basic

/-!
# Every line of the records is accounted for

The check of a file of records goes from line to line with a number, a count of valid records and a
mark that a wrong version has been reported. What it reports does not depend on this course: a line
that is not blank is no document, is refused or holds a record, and each complaint stands for one
line that gives cause for it. Only a wrong version is reported for the first of its lines alone.
Blank lines move the numbers and nothing else.
-/

namespace CallAttribution

namespace Text

theorem isBlankByte_iff {x : UInt8} :
    isBlankByte x = true ↔ x ∈ ([0x20, 0x09, 0x0a, 0x0b, 0x0c, 0x0d] : List UInt8) := by
  simp only [isBlankByte, Bool.or_eq_true, beq_iff_eq, Bool.and_eq_true, decide_eq_true_iff,
    List.mem_cons, List.not_mem_nil, or_false, UInt8.le_iff_toNat_le, ← UInt8.toNat_inj]
  change x.toNat = 32 ∨ 9 ≤ x.toNat ∧ x.toNat ≤ 13 ↔ x.toNat = 32 ∨ x.toNat = 9 ∨ x.toNat = 10 ∨
    x.toNat = 11 ∨ x.toNat = 12 ∨ x.toNat = 13
  omega

theorem trimBytes_eq_nil_iff {b : Bytes} :
    trimBytes b = [] ↔ ∀ x ∈ b, isBlankByte x = true := by
  rw [trimBytes, List.reverse_eq_nil_iff, List.dropWhile_eq_nil_iff]
  simp only [List.mem_reverse]
  constructor
  · intro h
    refine List.dropWhile_eq_nil_iff.mp ?_
    by_contra hne
    have hhead := List.head_dropWhile_not isBlankByte hne
    rw [h _ (List.head_mem hne)] at hhead
    cases hhead
  · intro h x hx
    exact h x ((List.dropWhile_sublist _).mem hx)

end Text

namespace Validation

/-- The lines of a file with their numbers, the first of which is 1. -/
def numberedLines (b : Bytes) : List (Bytes × Nat) :=
  (Text.pieces 0x0a b).zipIdx 1

/-- The line holds nothing but ASCII white space. -/
def Blank (line : Bytes) : Prop :=
  ∀ x ∈ line, x ∈ ([0x20, 0x09, 0x0a, 0x0b, 0x0c, 0x0d] : List UInt8)

instance : DecidablePred Blank := fun line =>
  inferInstanceAs (Decidable (∀ x ∈ line, x ∈ ([0x20, 0x09, 0x0a, 0x0b, 0x0c, 0x0d] : List UInt8)))

/-- The line says something, and that is no document. -/
def NotJson (line : Bytes) : Prop :=
  ¬ Blank line ∧ Json.read? (Text.trimBytes line) = none

/-- The line is a document that is refused as a record. -/
def Refused (line : Bytes) (report : Schema.Report) : Prop :=
  ¬ Blank line ∧ ∃ v, Json.read? (Text.trimBytes line) = some v ∧
    (Record.shape v).toExcept "ResolutionRecord" = .error report

/-- The line is the document of a record. -/
def HoldsRecord (line : Bytes) (r : Record) : Prop :=
  ¬ Blank line ∧ ∃ v, Json.read? (Text.trimBytes line) = some v ∧ Record.shape v = .accepted r

@[simp] def LineContent.Says : LineContent → Bytes → Prop
  | .blank, line => Blank line
  | .notJson, line => NotJson line
  | .refused report, line => Refused line report
  | .record r, line => HoldsRecord line r

inductive LineClass where
  | notJson
  | refused
  | valid

def LineClass.Covers : LineClass → Bytes → Prop
  | notJson, line => NotJson line
  | refused, line => ∃ report, Refused line report
  | valid, line => ∃ r, HoldsRecord line r

/-- The line of this number is the first that holds a record of another version than 1, and this is
the version. -/
def FirstOtherVersion (b : Bytes) (n : Nat) (version : Int) : Prop :=
  ∃ line r, (line, n) ∈ numberedLines b ∧ HoldsRecord line r ∧ r.version = version ∧ version ≠ 1 ∧
    ∀ line' n' r', (line', n') ∈ numberedLines b → HoldsRecord line' r' → r'.version ≠ 1 → n ≤ n'

end Validation

@[simp] def Complaint.isNotJson : Complaint → Bool
  | notJson => true
  | _ => false

@[simp] def Complaint.isBadDocument : Complaint → Bool
  | badDocument _ => true
  | _ => false

@[simp] def Complaint.isOtherVersion : Complaint → Bool
  | otherVersion _ => true
  | _ => false

/-- The complaint is one about a line of records, and this is its text. -/
inductive Complaint.LineText : Complaint → String → Prop where
  | notJson : LineText .notJson "Invalid JSON"
  | badDocument (report : Schema.Report) :
      LineText (.badDocument report) ("Schema validation failed: " ++ report.message ++ ".")
  | otherVersion (version : Int) : LineText (.otherVersion version)
      ("Schema version mismatch: expected 1, got " ++ Text.showInt version ++ ".")
  | flagDisagrees : LineText .flagDisagrees "'resolved' disagrees with presence of 'decision'."

namespace Validation

/-- The complaints, each with the number of a line, and the number of valid records are what the
lines of the file give cause for. -/
structure Accounted (b : Bytes) (errors : List (Nat × Complaint)) (valid : Nat) : Prop where
  classified : ∀ line ∈ Text.pieces 0x0a b, ¬ Blank line → ∃! k : LineClass, k.Covers line
  total : valid + errors.countP (·.2.isNotJson) + errors.countP (·.2.isBadDocument) =
    (Text.pieces 0x0a b).countP (¬ Blank ·)
  records : ∃ records : List (Nat × Record), records.length = valid ∧
    records.Pairwise (·.1 < ·.1) ∧
    ∀ n r, (n, r) ∈ records ↔ ∃ line, (line, n) ∈ numberedLines b ∧ HoldsRecord line r
  notJson : ∀ n, (n, .notJson) ∈ errors ↔ ∃ line, (line, n) ∈ numberedLines b ∧ NotJson line
  refused : ∀ n report, (n, .badDocument report) ∈ errors ↔
    ∃ line, (line, n) ∈ numberedLines b ∧ Refused line report
  flag : ∀ n, (n, .flagDisagrees) ∈ errors ↔
    ∃ line r, (line, n) ∈ numberedLines b ∧ HoldsRecord line r ∧ r.resolved ≠ r.decision.isSome
  versionOnce : errors.countP (·.2.isOtherVersion) = 1 ↔
    ∃ line ∈ Text.pieces 0x0a b, ∃ r, HoldsRecord line r ∧ r.version ≠ 1
  versionAtMostOnce : errors.countP (·.2.isOtherVersion) ≤ 1
  version : ∀ n version, (n, .otherVersion version) ∈ errors ↔ FirstOtherVersion b n version
  told : ∀ e ∈ errors, e.2.LineText e.2.message
  distinct : errors.Nodup
  ordered : errors.Pairwise (·.1 ≤ ·.1)

/-- The lines of the second file are those of the first with blank ones put in between. -/
inductive BlanksInserted : List Bytes → List Bytes → Prop where
  | nil : BlanksInserted [] []
  | keep (line : Bytes) {xs ys : List Bytes} (h : BlanksInserted xs ys) :
      BlanksInserted (line :: xs) (line :: ys)
  | insert {line : Bytes} {xs ys : List Bytes} (hline : Blank line) (h : BlanksInserted xs ys) :
      BlanksInserted xs (line :: ys)

section Line

variable {line : Bytes} {n : Nat} {reported : Bool} {l : LineContent} {ls : List LineContent}

@[simp] def LineContent.record? : LineContent → Option Record
  | .record r => some r
  | .blank | .notJson | .refused _ => none

/-- The complaint about the version of the record that the line holds. -/
@[simp] def LineContent.otherVersion? : LineContent → Option Complaint
  | .record r => if r.version = schemaVersion then none else some (.otherVersion r.version)
  | .blank | .notJson | .refused _ => none

/-- The complaints that the line gives cause for whatever stands on the others. -/
@[simp] def LineContent.ownComplaints : LineContent → List Complaint
  | .blank => []
  | .notJson => [.notJson]
  | .refused report => [.badDocument report]
  | .record r => flagComplaints r

def LineContent.complaints (reported : Bool) (l : LineContent) : List Complaint :=
  (if reported then [] else l.otherVersion?.toList) ++ l.ownComplaints

@[simp] def LineContent.class? : LineContent → Option LineClass
  | .blank => none
  | .notJson => some .notJson
  | .refused _ => some .refused
  | .record _ => some .valid

/-- The step of the check: the complaints about the line, and the mark that it leaves. -/
theorem lineComplaints_cons : lineComplaints n reported (l :: ls) =
    (l.complaints reported).map (n, ·) ++
      lineComplaints (n + 1) (reported || l.otherVersion?.isSome) ls := by
  rw [LineContent.complaints]
  cases l with
  | blank | notJson | refused report =>
    simp [lineComplaints]
  | record r =>
    have hmark : (r.version != schemaVersion) =
        (LineContent.otherVersion? (.record r)).isSome := by
      by_cases hv : r.version = schemaVersion <;> simp [hv]
    have hversion : versionComplaints reported r =
        if reported then [] else (LineContent.otherVersion? (.record r)).toList := by
      by_cases hv : r.version = schemaVersion <;> cases reported <;>
        simp [versionComplaints, hv]
    rw [lineComplaints, hmark, hversion, LineContent.ownComplaints]

/-- What is found on a line is what the line says. -/
theorem ofBytes_eq_iff : LineContent.ofBytes line = l ↔ l.Says line := by
  have hnil : Blank line ↔ Text.trimBytes line = [] := by
    simp only [Text.trimBytes_eq_nil_iff, Text.isBlankByte_iff, Blank]
  by_cases hblank : Text.trimBytes line = []
  · have hl : LineContent.ofBytes line = .blank := by rw [LineContent.ofBytes, if_pos hblank]
    cases l <;> simp [hl, NotJson, Refused, HoldsRecord, hnil, hblank]
  · rw [LineContent.ofBytes, if_neg hblank]
    rcases hread : Json.read? (Text.trimBytes line) with _ | v
    · cases l <;> simp [NotJson, Refused, HoldsRecord, hnil, hblank, hread]
    · cases hshape : Record.shape v <;> cases l <;>
        simp [NotJson, Refused, HoldsRecord, hnil, hblank, hread, hshape, Schema.Checked.toExcept]

theorem blank_iff : Blank line ↔ LineContent.ofBytes line = .blank :=
  (ofBytes_eq_iff (l := .blank)).symm

/-- A line that is not blank belongs to one class, by what is found on it. -/
theorem covers_iff {k : LineClass} :
    k.Covers line ↔ (LineContent.ofBytes line).class? = some k := by
  have hnotJson := @ofBytes_eq_iff line .notJson
  have hrefused := fun report => @ofBytes_eq_iff line (.refused report)
  have hrecord := fun r => @ofBytes_eq_iff line (.record r)
  simp only [LineContent.Says] at hnotJson hrefused hrecord
  cases k <;> simp only [LineClass.Covers, ← hnotJson, ← hrefused, ← hrecord] <;>
    cases LineContent.ofBytes line <;> simp

theorem existsUnique_covers (h : ¬ Blank line) : ∃! k : LineClass, k.Covers line := by
  rw [blank_iff] at h
  simp only [covers_iff]
  cases hl : LineContent.ofBytes line with
  | blank => exact absurd hl h
  | notJson | refused report | record r => exact ⟨_, rfl, fun k hk => (Option.some.inj hk).symm⟩

end Line

section Lines

variable {α : Type} {f : LineContent → Option α} {n k : Nat} {reported : Bool} {c : Complaint}
  {e : Nat × Complaint} {l : LineContent} {ls : List LineContent}

theorem le_of_mem_lineComplaints (h : e ∈ lineComplaints n reported ls) : n ≤ e.1 := by
  induction ls generalizing n reported with
  | nil => cases h
  | cons l ls ih =>
    rw [lineComplaints_cons, List.mem_append, List.mem_map] at h
    rcases h with ⟨c, -, rfl⟩ | h
    · exact Nat.le_refl n
    · exact (Nat.le_succ n).trans (ih h)

theorem pairwise_lineComplaints : (lineComplaints n reported ls).Pairwise (·.1 ≤ ·.1) := by
  induction ls generalizing n reported with
  | nil => exact .nil
  | cons l ls ih =>
    rw [lineComplaints_cons, List.pairwise_append]
    refine ⟨?_, ih, ?_⟩
    · exact List.pairwise_map.mpr (List.pairwise_of_forall fun _ _ => Nat.le_refl n)
    · intro x hx y hy
      obtain ⟨c, -, rfl⟩ := List.mem_map.mp hx
      exact (Nat.le_succ n).trans (le_of_mem_lineComplaints hy)

theorem nodup_complaints : (l.complaints reported).Nodup := by
  cases l with
  | blank | notJson | refused report =>
    simp [LineContent.complaints]
  | record r =>
    by_cases hv : r.version = schemaVersion <;> by_cases hr : r.resolved = r.decision.isSome <;>
      cases reported <;>
        simp [LineContent.complaints, flagComplaints, hv, hr]

theorem nodup_lineComplaints : (lineComplaints n reported ls).Nodup := by
  induction ls generalizing n reported with
  | nil => exact .nil
  | cons l ls ih =>
    rw [lineComplaints_cons, List.nodup_append]
    refine ⟨?_, ih, ?_⟩
    · exact nodup_complaints.map fun c d hcd => (Prod.mk.inj hcd).2
    · intro x hx y hy heq
      obtain ⟨c, -, rfl⟩ := List.mem_map.mp hx
      have hlt := le_of_mem_lineComplaints hy
      rw [← heq] at hlt
      exact absurd hlt (Nat.not_succ_le_self n)

/-- What a function finds on the lines, with the numbers of the lines. -/
def numbered (f : LineContent → Option α) (n : Nat) (ls : List LineContent) : List (Nat × α) :=
  (ls.zipIdx n).filterMap fun x => (f x.1).map (x.2, ·)

theorem mem_numbered_iff {a : α} :
    (k, a) ∈ numbered f n ls ↔ ∃ l, (l, k) ∈ ls.zipIdx n ∧ f l = some a := by
  simp only [numbered, List.mem_filterMap, Option.map_eq_some_iff, Prod.exists, Prod.mk.injEq]
  constructor
  · rintro ⟨l, k', hl, a', ha, rfl, rfl⟩
    exact ⟨l, hl, ha⟩
  · rintro ⟨l, hl, ha⟩
    exact ⟨l, k, hl, a, ha, rfl, rfl⟩

theorem pairwise_numbered : (numbered f n ls).Pairwise (·.1 < ·.1) := by
  have hnumbers : (ls.zipIdx n).Pairwise (·.2 < ·.2) := by
    rw [← List.pairwise_map, List.zipIdx_map_snd]
    exact List.pairwise_lt_range' 1
  refine hnumbers.filterMap _ fun x y hxy a ha b hb => ?_
  obtain ⟨_, -, rfl⟩ := Option.map_eq_some_iff.mp ha
  obtain ⟨_, -, rfl⟩ := Option.map_eq_some_iff.mp hb
  exact hxy

theorem numbered_cons : numbered f n (l :: ls) =
    ((f l).map (n, ·)).toList ++ numbered f (n + 1) ls := by
  rw [numbered, List.zipIdx_cons, List.filterMap_cons]
  cases f l <;> rfl

theorem length_numbered : (numbered f n ls).length = (ls.filterMap f).length := by
  induction ls generalizing n with
  | nil => rfl
  | cons l ls ih =>
    rw [numbered_cons, List.length_append, ih, List.filterMap_cons]
    cases f l <;> simp [Nat.add_comm]

theorem mem_complaints_iff (hc : c.isOtherVersion = false) :
    c ∈ l.complaints reported ↔ c ∈ l.ownComplaints := by
  have hversion : c ∉ l.otherVersion?.toList := by
    rw [Option.mem_toList]
    rintro hl
    cases l with
    | blank | notJson | refused report => cases hl
    | record r =>
      rw [LineContent.otherVersion?] at hl
      split_ifs at hl
      rw [← Option.some.inj hl] at hc
      cases hc
  rw [LineContent.complaints, List.mem_append]
  refine or_iff_right ?_
  split_ifs
  · exact List.not_mem_nil
  · exact hversion

/-- All but the wrong versions is reported for a line whatever has been reported before. -/
theorem mem_lineComplaints_iff (hc : c.isOtherVersion = false) :
    (k, c) ∈ lineComplaints n reported ls ↔
      ∃ l, (l, k) ∈ ls.zipIdx n ∧ c ∈ l.ownComplaints := by
  induction ls generalizing n reported with
  | nil => simp [lineComplaints]
  | cons l ls ih =>
    rw [lineComplaints_cons, List.mem_append, ih, List.zipIdx_cons]
    simp only [List.mem_map, Prod.mk.injEq, List.mem_cons]
    constructor
    · rintro (⟨c, hl, rfl, rfl⟩ | ⟨l', hl', hc'⟩)
      · exact ⟨l, .inl ⟨rfl, rfl⟩, (mem_complaints_iff hc).mp hl⟩
      · exact ⟨l', .inr hl', hc'⟩
    · rintro ⟨l', ⟨rfl, rfl⟩ | hl', hc'⟩
      · exact .inl ⟨c, (mem_complaints_iff hc).mpr hc', rfl, rfl⟩
      · exact .inr ⟨l', hl', hc'⟩

/-- A line that is not blank is counted as a record or reported, once. -/
theorem count_complaints : (l.record?.toList.length + (l.complaints reported).countP (·.isNotJson) +
    (l.complaints reported).countP (·.isBadDocument)) = if l.class?.isSome then 1 else 0 := by
  cases l with
  | blank | notJson | refused report =>
    simp [LineContent.complaints]
  | record r =>
    by_cases hv : r.version = schemaVersion <;> by_cases hr : r.resolved = r.decision.isSome <;>
      cases reported <;>
        simp [LineContent.complaints, flagComplaints, hv, hr]

theorem count_lineComplaints : (ls.filterMap LineContent.record?).length +
    (lineComplaints n reported ls).countP (·.2.isNotJson) +
    (lineComplaints n reported ls).countP (·.2.isBadDocument) =
      ls.countP (·.class?.isSome) := by
  induction ls generalizing n reported with
  | nil => rfl
  | cons l ls ih =>
    have hline := @count_complaints reported l
    have hrest := @ih (n + 1) (reported || l.otherVersion?.isSome)
    have hrecords : ((l :: ls).filterMap LineContent.record?).length =
        l.record?.toList.length + (ls.filterMap LineContent.record?).length := by
      rw [List.filterMap_cons]
      cases l.record? <;> simp [Nat.add_comm]
    rw [lineComplaints_cons, hrecords, List.countP_append, List.countP_append, List.countP_map,
      List.countP_map, List.countP_cons]
    simp only [Function.comp_def]
    omega

theorem recordsOf_eq : recordsOf ls = ls.filterMap LineContent.record? := by
  refine congrArg (List.filterMap · ls) (funext fun l => ?_)
  cases l <;> rfl

theorem filter_complaints : (l.complaints reported).filter (·.isOtherVersion) =
    if reported then [] else l.otherVersion?.toList := by
  cases l with
  | blank | notJson | refused report =>
    simp [LineContent.complaints]
  | record r =>
    by_cases hv : r.version = schemaVersion <;> by_cases hr : r.resolved = r.decision.isSome <;>
      cases reported <;>
        simp [LineContent.complaints, flagComplaints, hv, hr]

/-- A wrong version is reported for the first line that has one, unless one has been reported
before. -/
theorem filter_lineComplaints : (lineComplaints n reported ls).filter (·.2.isOtherVersion) =
    if reported then [] else (numbered LineContent.otherVersion? n ls).take 1 := by
  induction ls generalizing n reported with
  | nil => cases reported <;> rfl
  | cons l ls ih =>
    have hline := @filter_complaints reported l
    rw [lineComplaints_cons, List.filter_append, List.filter_map, ih, numbered_cons]
    simp only [Function.comp_def, hline]
    cases reported <;> cases l.otherVersion? <;> simp

/-- In a list that is sorted by number, the head is what has the least number. -/
theorem head?_eq_some_iff_of_pairwise {α : Type} {xs : List (Nat × α)} {x : Nat × α}
    (h : xs.Pairwise (·.1 < ·.1)) : xs.head? = some x ↔ x ∈ xs ∧ ∀ y ∈ xs, x.1 ≤ y.1 := by
  cases xs with
  | nil => simp
  | cons y ys =>
    obtain ⟨hlt, -⟩ := List.pairwise_cons.mp h
    rw [List.head?_cons, Option.some.injEq]
    constructor
    · rintro rfl
      exact ⟨List.mem_cons_self, List.forall_mem_cons.mpr
        ⟨Nat.le_refl _, fun z hz => (hlt z hz).le⟩⟩
    · rintro ⟨hx, hle⟩
      rcases List.mem_cons.mp hx with rfl | hx
      · rfl
      · exact absurd (hlt x hx) (Nat.not_lt.mpr (hle y List.mem_cons_self))

theorem mem_lineComplaints_otherVersion_iff {version : Int} :
    (k, .otherVersion version) ∈ lineComplaints n false ls ↔
      (∃ l, (l, k) ∈ ls.zipIdx n ∧ l.otherVersion? = some (.otherVersion version)) ∧
      ∀ l k' c, (l, k') ∈ ls.zipIdx n → l.otherVersion? = some c → k ≤ k' := by
  have hmem : (k, Complaint.otherVersion version) ∈ lineComplaints n false ls ↔
      (k, Complaint.otherVersion version) ∈
        (lineComplaints n false ls).filter (·.2.isOtherVersion) := by
    rw [List.mem_filter]
    exact (and_iff_left rfl).symm
  rw [hmem, filter_lineComplaints, if_neg Bool.false_ne_true, List.take_one, Option.mem_toList,
    head?_eq_some_iff_of_pairwise pairwise_numbered, mem_numbered_iff]
  simp only [Prod.forall, mem_numbered_iff]
  constructor
  · rintro ⟨hk, hle⟩
    exact ⟨hk, fun l k' c hl hc => hle k' c ⟨l, hl, hc⟩⟩
  · rintro ⟨hk, hle⟩
    exact ⟨hk, fun k' c ⟨l, hl, hc⟩ => hle l k' c hl hc⟩

theorem countP_lineComplaints_otherVersion :
    (lineComplaints n false ls).countP (·.2.isOtherVersion) =
      min 1 (ls.filterMap LineContent.otherVersion?).length := by
  rw [List.countP_eq_length_filter, filter_lineComplaints, if_neg Bool.false_ne_true,
    List.length_take, length_numbered]

end Lines

section Cause

variable {b : Bytes} {n : Nat} {c : Complaint} {r : Record} {report : Schema.Report}
  {l : LineContent}

theorem record?_eq_some_iff : l.record? = some r ↔ l = .record r := by
  cases l <;> simp

theorem otherVersion?_eq_some_iff : l.otherVersion? = some c ↔
    ∃ r, l = .record r ∧ r.version ≠ 1 ∧ .otherVersion r.version = c := by
  cases l with
  | blank | notJson | refused report => simp
  | record r => by_cases hv : r.version = 1 <;> simp [schemaVersion, hv]

theorem notJson_mem_ownComplaints_iff : .notJson ∈ l.ownComplaints ↔ l = .notJson := by
  cases l <;> simp [flagComplaints]

theorem badDocument_mem_ownComplaints_iff :
    .badDocument report ∈ l.ownComplaints ↔ l = .refused report := by
  cases l <;> simp [flagComplaints, eq_comm]

theorem flagDisagrees_mem_ownComplaints_iff :
    .flagDisagrees ∈ l.ownComplaints ↔ ∃ r, l = .record r ∧ r.resolved ≠ r.decision.isSome := by
  cases l <;> simp [flagComplaints]

theorem lineText_of_mem_ownComplaints (h : c ∈ l.ownComplaints) : c.LineText c.message := by
  cases l with
  | blank => cases h
  | notJson =>
    obtain rfl := List.mem_singleton.mp h
    exact .notJson
  | refused report =>
    obtain rfl := List.mem_singleton.mp h
    exact .badDocument report
  | record r =>
    rw [LineContent.ownComplaints, flagComplaints] at h
    split_ifs at h
    · cases h
    · obtain rfl := List.mem_singleton.mp h
      exact .flagDisagrees

theorem lineText_otherVersion (version : Int) :
    (Complaint.otherVersion version).LineText (Complaint.otherVersion version).message := by
  have hexpected : "Schema version mismatch: expected " ++ Text.showInt schemaVersion ++ ", got " =
      "Schema version mismatch: expected 1, got " := by decide
  have hmessage : (Complaint.otherVersion version).message =
      "Schema version mismatch: expected 1, got " ++ Text.showInt version ++ "." := by
    rw [← hexpected]
    rfl
  rw [hmessage]
  exact .otherVersion version

/-- What is found on the lines, told of the lines as they stand in the file. -/
theorem exists_linesOf_iff {P : LineContent → Prop} :
    (∃ l, (l, n) ∈ (linesOf b).zipIdx 1 ∧ P l) ↔
      ∃ line, (line, n) ∈ numberedLines b ∧ P (LineContent.ofBytes line) := by
  rw [linesOf, List.zipIdx_map]
  simp only [List.mem_map, Prod.exists, Prod.map_apply, id_eq, Prod.mk.injEq, numberedLines]
  constructor
  · rintro ⟨_, ⟨line, k, hline, rfl, rfl⟩, hl⟩
    exact ⟨line, hline, hl⟩
  · rintro ⟨line, hline, hl⟩
    exact ⟨_, ⟨line, n, hline, rfl, rfl⟩, hl⟩

/-- A complaint that stands for its own line is made exactly if the line gives cause for it. -/
theorem mem_lineComplaints_linesOf_iff (hc : c.isOtherVersion = false) :
    (n, c) ∈ lineComplaints 1 false (linesOf b) ↔
      ∃ line, (line, n) ∈ numberedLines b ∧ c ∈ (LineContent.ofBytes line).ownComplaints := by
  rw [mem_lineComplaints_iff hc, exists_linesOf_iff]

theorem exists_numbered_records : ∃ records : List (Nat × Record),
    records.length = (recordsOf (linesOf b)).length ∧ records.Pairwise (·.1 < ·.1) ∧
    ∀ n r, (n, r) ∈ records ↔ ∃ line, (line, n) ∈ numberedLines b ∧ HoldsRecord line r := by
  refine ⟨numbered LineContent.record? 1 (linesOf b), ?_, pairwise_numbered, fun n r => ?_⟩
  · rw [length_numbered, recordsOf_eq]
  · simp only [mem_numbered_iff, exists_linesOf_iff, record?_eq_some_iff, ofBytes_eq_iff,
      LineContent.Says]

theorem total_lineComplaints : (recordsOf (linesOf b)).length +
    (lineComplaints 1 false (linesOf b)).countP (·.2.isNotJson) +
    (lineComplaints 1 false (linesOf b)).countP (·.2.isBadDocument) =
      (Text.pieces 0x0a b).countP (¬ Blank ·) := by
  rw [recordsOf_eq, count_lineComplaints, linesOf, List.countP_map]
  refine List.countP_congr fun line _ => ?_
  rw [Function.comp_apply, decide_eq_true_iff, blank_iff]
  cases LineContent.ofBytes line <;> simp

theorem otherVersion?_ofBytes_eq_some_iff {line : Bytes} :
    (LineContent.ofBytes line).otherVersion? = some c ↔
      ∃ r, HoldsRecord line r ∧ r.version ≠ 1 ∧ .otherVersion r.version = c := by
  simp only [otherVersion?_eq_some_iff, ofBytes_eq_iff, LineContent.Says]

theorem version_lineComplaints {version : Int} :
    (n, .otherVersion version) ∈ lineComplaints 1 false (linesOf b) ↔
      FirstOtherVersion b n version := by
  have hleast : (∀ l n' c, (l, n') ∈ (linesOf b).zipIdx 1 → l.otherVersion? = some c → n ≤ n') ↔
      ∀ line n' r, (line, n') ∈ numberedLines b → HoldsRecord line r → r.version ≠ 1 → n ≤ n' := by
    constructor
    · intro h line n' r hline hr hv
      have hc := otherVersion?_ofBytes_eq_some_iff.mpr ⟨r, hr, hv, rfl⟩
      obtain ⟨l, hl, hlc⟩ := (exists_linesOf_iff (P := (·.otherVersion? = some _))).mpr
        ⟨line, hline, hc⟩
      exact h l n' _ hl hlc
    · intro h l n' c hl hlc
      obtain ⟨line, hline, hc⟩ := (exists_linesOf_iff (P := (·.otherVersion? = some c))).mp
        ⟨l, hl, hlc⟩
      obtain ⟨r, hr, hv, -⟩ := otherVersion?_ofBytes_eq_some_iff.mp hc
      exact h line n' r hline hr hv
  rw [mem_lineComplaints_otherVersion_iff, exists_linesOf_iff, hleast, FirstOtherVersion]
  simp only [otherVersion?_ofBytes_eq_some_iff, Complaint.otherVersion.injEq]
  constructor
  · rintro ⟨⟨line, hline, r, hr, hv, rfl⟩, hle⟩
    exact ⟨line, r, hline, hr, rfl, hv, hle⟩
  · rintro ⟨line, r, hline, hr, rfl, hv, hle⟩
    exact ⟨⟨line, hline, r, hr, hv, rfl⟩, hle⟩

theorem versionOnce_lineComplaints :
    (lineComplaints 1 false (linesOf b)).countP (·.2.isOtherVersion) = 1 ↔
      ∃ line ∈ Text.pieces 0x0a b, ∃ r, HoldsRecord line r ∧ r.version ≠ 1 := by
  rw [countP_lineComplaints_otherVersion, min_eq_left_iff, Nat.succ_le_iff,
    List.length_pos_iff_exists_mem, linesOf, List.filterMap_map]
  simp only [List.mem_filterMap, Function.comp_apply, otherVersion?_ofBytes_eq_some_iff]
  constructor
  · rintro ⟨c, line, hline, r, hr, hv, -⟩
    exact ⟨line, hline, r, hr, hv⟩
  · rintro ⟨line, hline, r, hr, hv⟩
    exact ⟨_, line, hline, r, hr, hv, rfl⟩

theorem isOtherVersion_iff : c.isOtherVersion = true ↔ ∃ version, c = .otherVersion version := by
  cases c <;> simp

theorem lineText_of_mem_lineComplaints {e : Nat × Complaint}
    (h : e ∈ lineComplaints 1 false (linesOf b)) : e.2.LineText e.2.message := by
  obtain ⟨n, c⟩ := e
  cases hc : c.isOtherVersion with
  | true =>
    obtain ⟨version, rfl⟩ := isOtherVersion_iff.mp hc
    exact lineText_otherVersion version
  | false =>
    obtain ⟨line, -, hown⟩ := (mem_lineComplaints_linesOf_iff hc).mp h
    exact lineText_of_mem_ownComplaints hown

theorem accounted_lineComplaints :
    Accounted b (lineComplaints 1 false (linesOf b)) (recordsOf (linesOf b)).length where
  classified _ _ h := existsUnique_covers h
  total := total_lineComplaints
  records := exists_numbered_records
  notJson _ := by
    simp only [mem_lineComplaints_linesOf_iff (c := .notJson) rfl, notJson_mem_ownComplaints_iff,
      ofBytes_eq_iff, LineContent.Says]
  refused _ report := by
    simp only [mem_lineComplaints_linesOf_iff (c := .badDocument report) rfl,
      badDocument_mem_ownComplaints_iff, ofBytes_eq_iff, LineContent.Says]
  flag _ := by
    simp only [mem_lineComplaints_linesOf_iff (c := .flagDisagrees) rfl,
      flagDisagrees_mem_ownComplaints_iff, ofBytes_eq_iff, LineContent.Says, exists_and_left]
  versionOnce := versionOnce_lineComplaints
  versionAtMostOnce := by
    rw [countP_lineComplaints_otherVersion]
    exact Nat.min_le_left 1 _
  version _ _ := version_lineComplaints
  told _ he := lineText_of_mem_lineComplaints he
  distinct := nodup_lineComplaints
  ordered := pairwise_lineComplaints

end Cause

section Renumbering

variable {reported : Bool} {n : Nat} {line : Bytes} {xs ys : List Bytes} {ls : List LineContent}
  {f : Nat → Nat}

/-- The numbers of the lines of a file are turned into the numbers of these lines in another file,
in the same order. -/
structure Renumbers (f : Nat → Nat) (xs ys : List Bytes) : Prop where
  strictMono : StrictMono f
  line : ∀ line n, (line, n) ∈ xs.zipIdx 1 → (line, f n) ∈ ys.zipIdx 1

theorem lineComplaints_succ : lineComplaints (n + 1) reported ls =
    (lineComplaints n reported ls).map fun e => (e.1 + 1, e.2) := by
  induction ls generalizing n reported with
  | nil => rfl
  | cons l ls ih =>
    rw [lineComplaints_cons, lineComplaints_cons, List.map_append, ih, List.map_map]
    rfl

theorem mem_zipIdx_succ_iff :
    (line, n) ∈ xs.zipIdx 2 ↔ ∃ m, 1 ≤ m ∧ (line, m) ∈ xs.zipIdx 1 ∧ n = m + 1 := by
  rw [List.zipIdx_succ, List.mem_map]
  constructor
  · rintro ⟨⟨line, m⟩, hm, heq⟩
    cases heq
    exact ⟨m, List.le_snd_of_mem_zipIdx hm, hm, rfl⟩
  · rintro ⟨m, -, hm, rfl⟩
    exact ⟨(line, m), hm, rfl⟩

/-- The numbers when a line stands before the lines of both files. -/
def afterKept (f : Nat → Nat) : Nat → Nat
  | 0 => 0
  | 1 => 1
  | n + 2 => f (n + 1) + 1

theorem afterKept_succ (hn : 1 ≤ n) : afterKept f (n + 1) = f n + 1 := by
  obtain ⟨m, rfl⟩ := Nat.exists_eq_add_of_le' hn
  rfl

theorem Renumbers.nil : Renumbers id [] [] :=
  ⟨strictMono_id, fun _ _ h => h⟩

theorem Renumbers.keep (h : Renumbers f xs ys) :
    Renumbers (afterKept f) (line :: xs) (line :: ys) where
  strictMono := by
    refine strictMono_nat_of_lt_succ fun n => ?_
    match n with
    | 0 => exact Nat.zero_lt_one
    | 1 => exact Nat.lt_succ_of_le (h.strictMono.le_apply)
    | n + 2 => exact Nat.succ_lt_succ (h.strictMono (Nat.lt_succ_self (n + 1)))
  line line' n hn := by
    rw [List.zipIdx_cons, List.mem_cons] at hn ⊢
    rcases hn with heq | hn
    · cases heq
      exact .inl rfl
    · obtain ⟨m, hle, hm, rfl⟩ := mem_zipIdx_succ_iff.mp hn
      rw [afterKept_succ hle]
      exact .inr (mem_zipIdx_succ_iff.mpr
        ⟨f m, hle.trans h.strictMono.le_apply, h.line line' m hm, rfl⟩)

theorem Renumbers.insert (h : Renumbers f xs ys) : Renumbers (f · + 1) xs (line :: ys) where
  strictMono _ _ hlt := Nat.succ_lt_succ (h.strictMono hlt)
  line line' n hn := by
    have hle : 1 ≤ f n := (List.le_snd_of_mem_zipIdx hn).trans h.strictMono.le_apply
    rw [List.zipIdx_cons, List.mem_cons]
    exact .inr (mem_zipIdx_succ_iff.mpr ⟨f n, hle, h.line line' n hn, rfl⟩)

/-- Blank lines that are put in between move the complaints to other numbers. -/
theorem BlanksInserted.exists_renumbers (h : BlanksInserted xs ys) :
    ∃ f, Renumbers f xs ys ∧ ∀ reported,
      lineComplaints 1 reported (ys.map LineContent.ofBytes) =
        (lineComplaints 1 reported (xs.map LineContent.ofBytes)).map fun e => (f e.1, e.2) := by
  induction h with
  | nil => exact ⟨id, .nil, fun _ => rfl⟩
  | keep line h ih =>
    obtain ⟨f, hf, hsame⟩ := ih
    refine ⟨afterKept f, hf.keep, fun reported => ?_⟩
    rw [List.map_cons, List.map_cons, lineComplaints_cons, lineComplaints_cons, List.map_append,
      List.map_map, lineComplaints_succ (n := 1), lineComplaints_succ (n := 1), hsame,
      List.map_map, List.map_map]
    refine congrArg₂ (· ++ ·) rfl (List.map_congr_left fun e he => ?_)
    have hnumber := afterKept_succ (f := f) (le_of_mem_lineComplaints he)
    exact congrArg (·, e.2) hnumber.symm
  | insert hline h ih =>
    obtain ⟨f, hf, hsame⟩ := ih
    refine ⟨(f · + 1), hf.insert, fun reported => ?_⟩
    rw [List.map_cons, blank_iff.mp hline, lineComplaints, lineComplaints_succ,
      hsame, List.map_map]
    rfl

theorem BlanksInserted.recordsOf_eq (h : BlanksInserted xs ys) :
    recordsOf (ys.map LineContent.ofBytes) = recordsOf (xs.map LineContent.ofBytes) := by
  simp only [Validation.recordsOf_eq]
  induction h with
  | nil => rfl
  | keep line h ih =>
    rw [List.map_cons, List.map_cons, List.filterMap_cons, List.filterMap_cons, ih]
  | insert hline h ih =>
    rw [List.map_cons, blank_iff.mp hline, List.filterMap_cons, ← ih]
    rfl

theorem BlanksInserted.refl : ∀ xs, BlanksInserted xs xs
  | [] => .nil
  | x :: xs => .keep x (refl xs)

theorem BlanksInserted.prepend (h : BlanksInserted xs ys) {zs : List Bytes}
    (hblank : ∀ line ∈ zs, Blank line) : BlanksInserted xs (zs ++ ys) := by
  induction zs with
  | nil => exact h
  | cons z zs ih =>
    obtain ⟨hz, hzs⟩ := List.forall_mem_cons.mp hblank
    exact .insert hz (ih hzs)

theorem BlanksInserted.append_left (h : BlanksInserted xs ys) :
    ∀ zs, BlanksInserted (zs ++ xs) (zs ++ ys)
  | [] => h
  | z :: zs => .keep z (append_left h zs)

/-- White space is put in between two lines of a file, with a line feed after it. -/
theorem blanksInserted_between {before blanks after : Bytes} (h : Blank blanks) :
    BlanksInserted (Text.pieces 0x0a (before ++ 0x0a :: after))
      (Text.pieces 0x0a (before ++ 0x0a :: (blanks ++ 0x0a :: after))) := by
  rw [Text.pieces_append, Text.pieces_append, Text.pieces_append]
  refine .append_left (.prepend (.refl _) fun line hline x hx => ?_) _
  exact h x ((Text.mem_of_mem_pieces hline).2 x hx)

end Renumbering

variable {t : FileTree} {p : Path} {b : Bytes}

theorem checkRecords_of_read {artifact : String} (h : t.read p = .ok b) :
    checkRecords t artifact p =
      (⟨(lineComplaints 1 false (linesOf b)).map fun e => ⟨artifact, p, some e.1, e.2⟩, []⟩,
        (recordsOf (linesOf b)).length) := by
  rw [checkRecords, h]

/-- Whatever a file of records holds, every line of it that is not blank is counted as a valid
record or reported, and every complaint stands for a line with its number. Blank lines put in
between change nothing but the numbers. -/
theorem records_accounted (artifact : String) (h : t.read p = .ok b) :
    ∃ (errors : List (Nat × Complaint)) (valid : Nat),
      checkRecords t artifact p =
        (⟨errors.map fun e => ⟨artifact, p, some e.1, e.2⟩, []⟩, valid) ∧
      Accounted b errors valid ∧
      ∀ u q b', FileTree.read u q = .ok b' →
        BlanksInserted (Text.pieces 0x0a b) (Text.pieces 0x0a b') →
        ∃ f, Renumbers f (Text.pieces 0x0a b) (Text.pieces 0x0a b') ∧
          checkRecords u artifact q =
            (⟨errors.map fun e => ⟨artifact, q, some (f e.1), e.2⟩, []⟩, valid) := by
  refine ⟨_, _, checkRecords_of_read h, accounted_lineComplaints, fun u q b' hu hblanks => ?_⟩
  obtain ⟨f, hf, hsame⟩ := hblanks.exists_renumbers
  refine ⟨f, hf, ?_⟩
  have hcount : recordsOf (linesOf b') = recordsOf (linesOf b) := hblanks.recordsOf_eq
  have hlines : lineComplaints 1 false (linesOf b') =
      (lineComplaints 1 false (linesOf b)).map fun e => (f e.1, e.2) := hsame false
  rw [checkRecords_of_read hu, hcount, hlines, List.map_map]
  rfl

/-- A record of version 2 that is said to be resolved without a decision. -/
def oddRecord : Record :=
  ⟨2, "", ⟨"", "", ""⟩, true, none⟩

/-- The record stands after a line that is no document. -/
def closeLines : Bytes :=
  [0x78] ++ 0x0a :: Artifact.line oddRecord

def spacedLines : Bytes :=
  [0x78] ++ 0x0a :: ([0x20, 0x0d] ++ 0x0a :: Artifact.line oddRecord)

def closeAndSpaced : FileTree where
  nodes := [(["a"], .file closeLines), (["b"], .file spacedLines)]
  distinct := by decide

theorem lineFeed_notMem_oddRecord : 0x0a ∉ Artifact.line oddRecord :=
  oddRecord.toJson.lineFeed_notMem_compact

theorem pieces_closeLines :
    Text.pieces 0x0a closeLines = [[0x78], Artifact.line oddRecord] := by
  rw [closeLines, Text.pieces_append_sep (by decide),
    Text.pieces_of_notMem lineFeed_notMem_oddRecord]

theorem pieces_spacedLines :
    Text.pieces 0x0a spacedLines = [[0x78], [0x20, 0x0d], Artifact.line oddRecord] := by
  rw [spacedLines, Text.pieces_append_sep (by decide), Text.pieces_append_sep (by decide),
    Text.pieces_of_notMem lineFeed_notMem_oddRecord]

/-- The document of a record is a line that holds the record. -/
theorem holdsRecord_line {r : Record} (hreadable : r.toJson.Readable Json.maxDepth)
    (hshape : Record.shape r.toJson.toValue = .accepted r) : HoldsRecord (Artifact.line r) r := by
  have hread : Json.read? (Artifact.line r) = some r.toJson.toValue := Json.read?_compact hreadable
  obtain ⟨bs, hline⟩ := Artifact.exists_line_eq r
  refine ⟨fun hblank => ?_, r.toJson.toValue, ?_, hshape⟩
  · have hbrace := hblank 0x7b (by simp [hline])
    exact absurd hbrace (by decide)
  · rw [Artifact.trimBytes_line, hread]

theorem holdsRecord_oddRecord : HoldsRecord (Artifact.line oddRecord) oddRecord :=
  holdsRecord_line ⟨by decide, by decide, oddRecord.call.readable_toJson (by decide), trivial,
    trivial, trivial, rfl, trivial⟩ rfl

theorem notJson_x : NotJson [0x78] :=
  ⟨by decide +kernel, by decide +kernel⟩

theorem not_holdsRecord_x {r : Record} : ¬ HoldsRecord [0x78] r := by
  rintro ⟨-, v, hv, -⟩
  rw [notJson_x.2] at hv
  cases hv

/-- Two lines are counted or reported, and the blank line moves the complaints about the second to
number 3. -/
theorem records_accounted_spaced :
    ∃ (errors : List (Nat × Complaint)) (valid : Nat) (f : Nat → Nat),
      checkRecords closeAndSpaced "resolutions" ⟨.root, ["a"]⟩ =
        (⟨errors.map fun e => ⟨"resolutions", ⟨.root, ["a"]⟩, some e.1, e.2⟩, []⟩, valid) ∧
      valid + errors.countP (·.2.isNotJson) + errors.countP (·.2.isBadDocument) = 2 ∧
      (1, .notJson) ∈ errors ∧ (2, .otherVersion 2) ∈ errors ∧ (2, .flagDisagrees) ∈ errors ∧
      f 2 = 3 ∧
      checkRecords closeAndSpaced "resolutions" ⟨.root, ["b"]⟩ =
        (⟨errors.map fun e => ⟨"resolutions", ⟨.root, ["b"]⟩, some (f e.1), e.2⟩, []⟩, valid) := by
  have hodd := holdsRecord_oddRecord
  have hlines : numberedLines closeLines = [([0x78], 1), (Artifact.line oddRecord, 2)] := by
    rw [numberedLines, pieces_closeLines]
    rfl
  have hline : (Artifact.line oddRecord, 2) ∈ numberedLines closeLines := by simp [hlines]
  obtain ⟨errors, valid, hcheck, haccount, hblanks⟩ :=
    records_accounted (t := closeAndSpaced) (p := ⟨.root, ["a"]⟩) "resolutions" rfl
  have hblank : Blank [0x20, 0x0d] := by decide +kernel
  obtain ⟨f, hf, hcheck'⟩ := hblanks closeAndSpaced ⟨.root, ["b"]⟩ _ rfl
    (blanksInserted_between hblank)
  have hcount : (Text.pieces 0x0a closeLines).countP (¬ Blank ·) = 2 := by
    simp [pieces_closeLines, notJson_x.1, hodd.1]
  have hfirst : (1, .notJson) ∈ errors :=
    (haccount.notJson 1).mpr ⟨[0x78], by simp [hlines], notJson_x⟩
  have hflag : (2, .flagDisagrees) ∈ errors :=
    (haccount.flag 2).mpr ⟨_, _, hline, hodd, by decide⟩
  have hversion : (2, .otherVersion 2) ∈ errors := by
    refine (haccount.version 2 2).mpr
      ⟨_, _, hline, hodd, rfl, by decide, fun line n r hn hr _ => ?_⟩
    simp only [hlines, List.mem_cons, Prod.mk.injEq, List.not_mem_nil, or_false] at hn
    rcases hn with ⟨rfl, -⟩ | ⟨-, rfl⟩
    · exact absurd hr not_holdsRecord_x
    · exact Nat.le_refl 2
  have hmoved : f 2 = 3 := by
    have hmem : (Artifact.line oddRecord, f 2) ∈ (Text.pieces 0x0a spacedLines).zipIdx 1 :=
      hf.line _ 2 hline
    simp only [pieces_spacedLines, List.zipIdx_cons, List.zipIdx_nil, List.mem_cons, Prod.mk.injEq,
      List.not_mem_nil, or_false] at hmem
    rcases hmem with ⟨heq, -⟩ | ⟨heq, -⟩ | ⟨-, hthree⟩
    · exact absurd (heq ▸ hodd) not_holdsRecord_x
    · exact absurd (heq ▸ hblank) hodd.1
    · exact hthree
  exact ⟨errors, valid, f, hcheck, haccount.total.trans hcount, hfirst, hversion, hflag, hmoved,
    hcheck'⟩

end Validation

end CallAttribution
