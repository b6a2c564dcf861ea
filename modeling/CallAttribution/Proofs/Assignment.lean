import CallAttribution.Assignment
import CallAttribution.Proofs.Table
import CallAttribution.Proofs.Text.Lines
import CallAttribution.Proofs.Text.Word

/-!
# The grammar of assigning lines

The reader of a line takes each run of characters as long as it goes and never looks back. It
accepts the lines that have the parts of an assignment in their order, and no others: every run
stops at a character that cannot belong to it, so a line has its parts in one way only. Entering the
assignments of the lines one after another leaves the last one of each target.
-/

namespace CallAttribution

open Text

namespace Assignment

/-- A name in a line. -/
structure IsName (cs : List Char) : Prop where
  nonempty : cs ≠ []
  word : ∀ c ∈ cs, isWord c = true

/-- White space, or nothing. -/
def IsGap (cs : List Char) : Prop :=
  ∀ c ∈ cs, isSpace c = true

/-- The parts of a line that assigns, in their order. -/
@[ext]
structure Parts where
  margin : List Char
  target : List Char
  type : List Char
  beforeSign : List Char
  afterSign : List Char
  source : List Char
  rest : List Char
  margin_gap : IsGap margin
  target_name : IsName target
  type_nonempty : type ≠ []
  type_open : ')' ∉ type
  beforeSign_gap : IsGap beforeSign
  afterSign_gap : IsGap afterSign
  source_name : IsName source

namespace Parts

/-- What follows the sign. -/
def value (a : Parts) : List Char :=
  a.afterSign ++ (a.source ++ '(' :: a.rest)

/-- What follows the type. -/
def assigned (a : Parts) : List Char :=
  a.beforeSign ++ ':' :: '=' :: a.value

/-- The line that has these parts. -/
def line (a : Parts) : List Char :=
  a.margin ++ (a.target ++ '(' :: (a.type ++ ')' :: a.assigned))

end Parts

/-- The line assigns the source to the target. -/
def Assigns (line : List Char) (target source : String) : Prop :=
  ∃ a : Parts, a.line = line ∧ String.ofList a.target = target ∧ String.ofList a.source = source

variable {cs name rest line : List Char} {target source : String}

theorem IsName.stopsAt_append (h : IsName name) : StopsAt isSpace (name ++ rest) := by
  obtain ⟨c, cs, rfl⟩ := List.exists_cons_of_ne_nil h.nonempty
  intro d hd
  cases hd
  by_contra hspace
  have hword := isWord_of_isSpace (Bool.not_eq_false _ ▸ hspace)
  rw [h.word c List.mem_cons_self] at hword
  cases hword

theorem forall_ne_of_notMem {c : Char} (h : c ∉ cs) : ∀ d ∈ cs, (d != c) = true := by
  intro d hd
  rw [bne_iff_ne]
  rintro rfl
  exact h hd

theorem callee?_eq_some_iff :
    Signature.callee? cs = some (name, rest) ↔ name ++ '(' :: rest = cs ∧ IsName name := by
  unfold Signature.callee?
  constructor
  · intro h
    split at h
    · cases h
    · next word tail hne hspan =>
      cases h
      obtain ⟨happend, hword, -⟩ := span_eq_iff.mp hspan
      exact ⟨happend, hne, hword⟩
    · cases h
  · rintro ⟨happend, hname⟩
    rw [span_eq_iff.mpr ⟨happend, hname.word, stopsAt_cons rfl⟩]
    obtain ⟨c, cs, rfl⟩ := List.exists_cons_of_ne_nil hname.nonempty
    rfl

/-- A name after white space. -/
theorem callee?_dropWhile_eq_some_iff :
    Signature.callee? (cs.dropWhile isSpace) = some (name, rest) ↔
      ∃ gap, gap ++ (name ++ '(' :: rest) = cs ∧ IsGap gap ∧ IsName name := by
  rw [callee?_eq_some_iff]
  constructor
  · rintro ⟨happend, hname⟩
    refine ⟨cs.takeWhile isSpace, ?_, fun _ => List.mem_takeWhile_imp, hname⟩
    rw [happend, List.takeWhile_append_dropWhile]
  · rintro ⟨gap, happend, hgap, hname⟩
    have hspan := span_eq_iff.mpr ⟨happend, hgap, hname.stopsAt_append⟩
    exact ⟨(congrArg Prod.snd hspan).symm, hname⟩

theorem afterType?_eq_some_iff :
    afterType? cs = some rest ↔ ∃ type, type ++ ')' :: rest = cs ∧ type ≠ [] ∧ ')' ∉ type := by
  unfold afterType?
  constructor
  · intro h
    split at h
    · cases h
    · next type tail hne hspan =>
      cases h
      obtain ⟨happend, hopen, -⟩ := span_eq_iff.mp hspan
      refine ⟨type, happend, hne, fun hmem => ?_⟩
      simpa using hopen _ hmem
    · cases h
  · rintro ⟨type, happend, hne, hopen⟩
    rw [span_eq_iff.mpr ⟨happend, forall_ne_of_notMem hopen, stopsAt_cons rfl⟩]
    obtain ⟨c, cs, rfl⟩ := List.exists_cons_of_ne_nil hne
    rfl

theorem afterSign?_eq_some_iff :
    afterSign? cs = some rest ↔ ∃ gap, gap ++ ':' :: '=' :: rest = cs ∧ IsGap gap := by
  unfold afterSign?
  constructor
  · intro h
    split at h
    · next tail hdrop =>
      cases h
      refine ⟨cs.takeWhile isSpace, ?_, fun _ => List.mem_takeWhile_imp⟩
      rw [← hdrop, List.takeWhile_append_dropWhile]
    · cases h
  · rintro ⟨gap, happend, hgap⟩
    have hspan := span_eq_iff.mpr ⟨happend, hgap, stopsAt_cons rfl⟩
    have hdrop : cs.dropWhile isSpace = ':' :: '=' :: rest := congrArg Prod.snd hspan
    simp only [hdrop]

/-- A line is read exactly if it assigns. -/
theorem ofLine?_eq_some_iff :
    ofLine? line = some (target, source) ↔ Assigns line target source := by
  unfold ofLine?
  constructor
  · intro h
    obtain ⟨⟨name, r₁⟩, hname, h⟩ := Option.bind_eq_some_iff.mp h
    obtain ⟨r₂, htype, h⟩ := Option.bind_eq_some_iff.mp h
    obtain ⟨r₃, hsign, h⟩ := Option.bind_eq_some_iff.mp h
    obtain ⟨⟨name', r₄⟩, hname', h⟩ := Option.bind_eq_some_iff.mp h
    cases h
    obtain ⟨margin, rfl, hmargin, htarget⟩ := callee?_dropWhile_eq_some_iff.mp hname
    obtain ⟨type, rfl, hne, hopen⟩ := afterType?_eq_some_iff.mp htype
    obtain ⟨before, rfl, hbefore⟩ := afterSign?_eq_some_iff.mp hsign
    obtain ⟨after, rfl, hafter, hsource⟩ := callee?_dropWhile_eq_some_iff.mp hname'
    exact ⟨⟨margin, name, type, before, after, name', r₄, hmargin, htarget, hne, hopen, hbefore,
      hafter, hsource⟩, rfl, rfl, rfl⟩
  · rintro ⟨a, rfl, rfl, rfl⟩
    have hname : Signature.callee? (a.line.dropWhile isSpace) =
        some (a.target, a.type ++ ')' :: a.assigned) :=
      callee?_dropWhile_eq_some_iff.mpr ⟨_, rfl, a.margin_gap, a.target_name⟩
    have htype : afterType? (a.type ++ ')' :: a.assigned) = some a.assigned :=
      afterType?_eq_some_iff.mpr ⟨_, rfl, a.type_nonempty, a.type_open⟩
    have hsign : afterSign? a.assigned = some a.value :=
      afterSign?_eq_some_iff.mpr ⟨_, rfl, a.beforeSign_gap⟩
    have hname' : Signature.callee? (a.value.dropWhile isSpace) = some (a.source, a.rest) :=
      callee?_dropWhile_eq_some_iff.mpr ⟨_, rfl, a.afterSign_gap, a.source_name⟩
    -- the parts are what the readers find one after another, and nothing is left to choose
    simp only [hname, htype, hsign, hname', bind, Option.bind_some, pure]

/-- A line has its parts in one way only. -/
theorem Parts.line_injective : Function.Injective Parts.line := by
  intro a b h
  unfold line at h
  -- every part but the last is a run that stops at the first character of what follows it
  obtain ⟨hmargin, h⟩ := eq_of_append_eq (p := isSpace) h a.margin_gap
    a.target_name.stopsAt_append b.margin_gap b.target_name.stopsAt_append
  obtain ⟨htarget, h⟩ := eq_of_append_eq (p := isWord) h a.target_name.word (stopsAt_cons rfl)
    b.target_name.word (stopsAt_cons rfl)
  obtain ⟨htype, h⟩ := eq_of_append_eq (List.cons.inj h).2 (forall_ne_of_notMem a.type_open)
    (stopsAt_cons rfl) (forall_ne_of_notMem b.type_open) (stopsAt_cons rfl)
  have hassigned : a.assigned = b.assigned := (List.cons.inj h).2
  unfold assigned at hassigned
  obtain ⟨hbefore, h⟩ := eq_of_append_eq (p := isSpace) hassigned a.beforeSign_gap
    (stopsAt_cons rfl) b.beforeSign_gap (stopsAt_cons rfl)
  have hvalue : a.value = b.value := (List.cons.inj (List.cons.inj h).2).2
  unfold value at hvalue
  obtain ⟨hafter, h⟩ := eq_of_append_eq (p := isSpace) hvalue a.afterSign_gap
    a.source_name.stopsAt_append b.afterSign_gap b.source_name.stopsAt_append
  obtain ⟨hsource, h⟩ := eq_of_append_eq (p := isWord) h a.source_name.word (stopsAt_cons rfl)
    b.source_name.word (stopsAt_cons rfl)
  exact Parts.ext hmargin htarget htype hbefore hafter hsource (List.cons.inj h).2

/-- The line has the parts of an assignment. -/
def IsAssigning (line : List Char) : Prop :=
  ∃ a : Parts, a.line = line

theorem isAssigning_iff : IsAssigning line ↔ (ofLine? line).isSome = true := by
  rw [Option.isSome_iff_exists]
  constructor
  · rintro ⟨a, ha⟩
    exact ⟨(_, _), ofLine?_eq_some_iff.mpr ⟨a, ha, rfl, rfl⟩⟩
  · rintro ⟨⟨target, source⟩, h⟩
    obtain ⟨a, ha, -, -⟩ := ofLine?_eq_some_iff.mp h
    exact ⟨a, ha⟩

instance : DecidablePred IsAssigning :=
  fun _ => decidable_of_iff _ isAssigning_iff.symm

/-- Lines that do not assign make no entries. -/
theorem filterMap_ofLine?_filter (ls : List (List Char)) :
    (ls.filter fun line => IsAssigning line).filterMap ofLine? = ls.filterMap ofLine? := by
  rw [List.filterMap_filter]
  refine List.filterMap_congr fun line _ => ?_
  split_ifs with h
  · rfl
  · rw [decide_eq_true_iff, isAssigning_iff, Option.not_isSome_iff_eq_none] at h
    exact h.symm

end Assignment

namespace Assignments

open Assignment

/-- A target has a source exactly if the source is assigned by a line of the text and no later line
assigns the target. A line has the parts of an assignment in one way at most, and only the lines
that have them matter. -/
theorem last_assignment_stands :
    (∀ text target source : String, (ofText text).get? target = some source ↔
      ∃ before line after, CutInto text.toList (before ++ line :: after) ∧
        Assigns line target source ∧ ∀ later ∈ after, ∀ other, ¬ Assigns later target other) ∧
    Function.Injective Parts.line ∧
    ∀ (text text' : String) (ls ls' : List (List Char)), CutInto text.toList ls →
      CutInto text'.toList ls' →
      (ls.filter fun line => IsAssigning line) = (ls'.filter fun line => IsAssigning line) →
        ofText text = ofText text' := by
  refine ⟨fun text target source => ?_, Parts.line_injective, fun text text' ls ls' h h' hls => ?_⟩
  · unfold ofText
    rw [Table.get?_ofEntries_filterMap]
    simp only [ofLine?_eq_some_iff, ne_eq, lines_eq_iff]
  · unfold ofText
    rw [lines_eq_iff.mpr h, lines_eq_iff.mpr h', ← filterMap_ofLine?_filter ls, hls,
      filterMap_ofLine?_filter]

/-- The second of two assignments of a variable stands. They are ended by other line boundaries in
the other text, which has a line more that assigns nothing. -/
theorem last_assignment_stands_twice :
    let text := " a(T):=b(\u0085 a(U) := c(z"
    let text' := " a(T):=b(\r\nx := y(\u2028 a(U) := c(z\n"
    ofText text = ofText text' ∧ ∃ before line after,
      CutInto text'.toList (before ++ line :: after) ∧ Assigns line "a" "c" ∧
        ∀ later ∈ after, ∀ other, ¬ Assigns later "a" other := by
  intro text text'
  obtain ⟨hlast, -, hnoise⟩ := last_assignment_stands
  constructor
  · exact hnoise text text' _ _ (cutInto_lines _) (cutInto_lines _) (by decide +kernel)
  · exact (hlast text' "a" "c").mp (by decide +kernel)

end Assignments

end CallAttribution
