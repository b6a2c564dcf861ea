import CallAttribution.Proofs.Project
import CallAttribution.Proofs.Text.Framing
import Mathlib.Data.List.Induction
import Mathlib.Logic.ExistsUnique
import Mathlib.Logic.Relation

/-!
# Directories inside of a project

Where a path leads is described on its text: components that say nothing are dropped, and two points
take back the component before them. However these steps are taken, they end in the same place. A
project admits a relative path exactly if all names of the project lead the way to this place, so
names are compared as a whole, and a path may leave the project and come back.
-/

namespace CallAttribution

namespace Path

open Relation

/-- What stands between the slashes of a text. -/
structure Components (text : String) (cs : List String) : Prop where
  joined : "/".intercalate cs = text
  nonempty : cs ≠ []
  noSlash : ∀ c ∈ cs, '/' ∉ c.toList

/-- The component is a name: it says something and does not lead back. -/
structure IsOrdinary (c : String) : Prop where
  ne_empty : c ≠ ""
  ne_point : c ≠ "."
  ne_up : c ≠ ".."

/-- One step of normalization. An empty component or a single point is dropped, and two points take
back the name before them; at the root there is none. -/
inductive Shortens : List String → List String → Prop
  | empty (before after : List String) : Shortens (before ++ "" :: after) (before ++ after)
  | point (before after : List String) : Shortens (before ++ "." :: after) (before ++ after)
  | back (before after : List String) {name : String} (h : IsOrdinary name) :
    Shortens (before ++ name :: ".." :: after) (before ++ after)
  | root (after : List String) : Shortens (".." :: after) after

/-- The place is what normalization makes of a text that begins at the root. -/
def Normalizes (text : String) (l : Location) : Prop :=
  ∃ cs, Components text cs ∧ ReflTransGen Shortens cs l ∧ ∀ name ∈ l, IsOrdinary name

/-- The components that say something. -/
def said (cs : List String) : List String :=
  cs.filter fun c => c ≠ "" && c ≠ "."

variable {cs ds : List String} {l : Location} {text : String}

theorem said_of_ordinary (h : ∀ name ∈ l, IsOrdinary name) : said l = l := by
  refine List.filter_eq_self.mpr fun name hname => ?_
  simp [(h name hname).ne_empty, (h name hname).ne_point]

theorem walk_up (before : Location) (name : String) (after : List String) :
    walk (before ++ [name]) (".." :: after) = walk before after := by
  change walk (follow (before ++ [name]) "..") after = _
  rw [follow, if_pos rfl, List.dropLast_concat]

theorem Shortens.walk_eq (h : Shortens cs ds) : walk [] (said cs) = walk [] (said ds) := by
  cases h with
  | empty before after => simp [said]
  | point before after => simp [said]
  | @back before after name h =>
    have hsaid : said (before ++ name :: ".." :: after) =
        said before ++ ([name] ++ ".." :: said after) := by
      simp [said, h.ne_empty, h.ne_point]
    have hname : walk (walk [] (said before)) [name] = walk [] (said before) ++ [name] :=
      follow_of_ne h.ne_up _
    have hrest : said (before ++ after) = said before ++ said after := List.filter_append ..
    rw [hsaid, hrest, walk_append, walk_append, hname, walk_up, walk_append]
  | root after => rfl

/-- Every step that can be taken leads nearer to the place where a walk ends. -/
theorem reflTransGen_walk (h : ∀ name ∈ l, IsOrdinary name) (cs : List String) :
    ReflTransGen Shortens (l ++ cs) (walk l (said cs)) ∧
      ∀ name ∈ walk l (said cs), IsOrdinary name := by
  induction cs generalizing l with
  | nil =>
    rw [List.append_nil]
    exact ⟨.refl, h⟩
  | cons c cs ih =>
    by_cases hempty : c = ""
    · subst hempty
      exact ⟨.head (.empty l cs) (ih h).1, (ih h).2⟩
    by_cases hpoint : c = "."
    · subst hpoint
      exact ⟨.head (.point l cs) (ih h).1, (ih h).2⟩
    have hsaid : said (c :: cs) = c :: said cs := by simp [said, hempty, hpoint]
    rw [hsaid]
    by_cases hup : c = ".."
    · subst hup
      rcases List.eq_nil_or_concat l with rfl | ⟨init, name, rfl⟩
      · exact ⟨.head (.root cs) (ih h).1, (ih h).2⟩
      · rw [List.concat_eq_append] at h ⊢
        have hinit : ∀ n ∈ init, IsOrdinary n := fun n hn => h n (List.mem_append_left _ hn)
        have hname : IsOrdinary name := h name (List.mem_append_right _ List.mem_cons_self)
        rw [walk_up, List.append_assoc]
        exact ⟨.head (.back init cs hname) (ih hinit).1, (ih hinit).2⟩
    · have hl : ∀ name ∈ l ++ [c], IsOrdinary name := by
        intro name hname
        rcases List.mem_append.mp hname with hname | hname
        · exact h name hname
        · rw [List.mem_singleton.mp hname]
          exact ⟨hempty, hpoint, hup⟩
      have hwalk : walk l (c :: said cs) = walk (l ++ [c]) (said cs) := by
        change walk (follow l c) (said cs) = _
        rw [follow_of_ne hup]
      rw [hwalk, ← List.singleton_append, ← List.append_assoc]
      exact ih hl

theorem walk_eq_of_steps (h : ReflTransGen Shortens cs ds) :
    walk [] (said cs) = walk [] (said ds) := by
  induction h with
  | refl => rfl
  | tail _ hstep ih => exact ih.trans hstep.walk_eq

/-- Normalization always ends, and in one place only. -/
theorem shortens_to_iff :
    (ReflTransGen Shortens cs l ∧ ∀ name ∈ l, IsOrdinary name) ↔ walk [] (said cs) = l := by
  constructor
  · rintro ⟨hsteps, hl⟩
    have hup : ".." ∉ l := fun hmem => (hl _ hmem).ne_up rfl
    rw [walk_eq_of_steps hsteps, said_of_ordinary hl, walk_of_notMem hup, List.nil_append]
  · rintro rfl
    exact reflTransGen_walk (List.forall_mem_nil _) cs

theorem intercalate_cons {c : String} (hne : cs ≠ []) :
    "/".intercalate (c :: cs) = c ++ ("/" ++ "/".intercalate cs) := by
  obtain ⟨d, ds, rfl⟩ := List.exists_cons_of_ne_nil hne
  rw [String.intercalate_cons_cons, String.append_assoc]

theorem pieces_intercalate (hne : cs ≠ []) (h : ∀ c ∈ cs, '/' ∉ c.toList) :
    (Text.pieces '/' ("/".intercalate cs).toList).map String.ofList = cs := by
  induction cs with
  | nil => exact absurd rfl hne
  | cons c cs ih =>
    obtain ⟨hc, hcs⟩ := List.forall_mem_cons.mp h
    by_cases hnil : cs = []
    · subst hnil
      rw [String.intercalate_singleton, Text.pieces_of_notMem hc]
      simp
    · have htext : ("/".intercalate (c :: cs)).toList =
          c.toList ++ '/' :: ("/".intercalate cs).toList := by
        rw [intercalate_cons hnil]
        simp
      rw [htext, Text.pieces_append_sep hc, List.map_cons, ih hnil hcs, String.ofList_toList]

theorem intercalate_pieces (xs : List Char) :
    "/".intercalate ((Text.pieces '/' xs).map String.ofList) = String.ofList xs := by
  induction xs with
  | nil => rfl
  | cons x xs ih =>
    by_cases hx : x = '/'
    · subst hx
      have hpieces : Text.pieces '/' ('/' :: xs) = [] :: Text.pieces '/' xs := rfl
      rw [hpieces, List.map_cons, intercalate_cons (by simp [Text.pieces_ne_nil]), ih]
      apply String.toList_inj.mp
      simp
    · obtain ⟨p, ps, hps, hcons⟩ := Text.pieces_cons_of_ne hx xs
      rw [hps, List.map_cons] at ih
      rw [hcons, List.map_cons]
      by_cases hnil : ps = []
      · subst hnil
        rw [List.map_nil, String.intercalate_singleton] at ih ⊢
        rw [String.ofList_inj.mp ih]
      · have hmap : ps.map String.ofList ≠ [] := by simpa using hnil
        rw [intercalate_cons hmap] at ih ⊢
        apply String.toList_inj.mp
        have hlist := congrArg String.toList ih
        simp only [String.toList_append, String.toList_ofList] at hlist ⊢
        rw [← hlist]
        rfl

/-- Every text is cut into its components in one way. -/
theorem components_iff :
    Components text cs ↔ (Text.pieces '/' text.toList).map String.ofList = cs := by
  constructor
  · rintro ⟨rfl, hne, h⟩
    exact pieces_intercalate hne h
  · rintro rfl
    refine ⟨?_, by simp [Text.pieces_ne_nil], fun c hc => ?_⟩
    · rw [intercalate_pieces, String.ofList_toList]
    · obtain ⟨p, hp, rfl⟩ := List.mem_map.mp hc
      rw [String.toList_ofList]
      exact (Text.mem_of_mem_pieces hp).1

theorem partsOf_eq (xs : List Char) :
    partsOf xs = said ((Text.pieces '/' xs).map String.ofList) := by
  have hempty (p : List Char) : String.ofList p = "" ↔ p = [] := String.ofList_inj
  have hpoint (p : List Char) : String.ofList p = "." ↔ p = ['.'] := String.ofList_inj
  rw [partsOf, said, List.filter_map]
  congr 2
  funext p
  simp [hempty, hpoint]

theorem normalizes_iff : Normalizes text l ↔ walk [] (partsOf text.toList) = l := by
  rw [partsOf_eq, ← shortens_to_iff, Normalizes]
  simp only [components_iff, exists_eq_left']

theorem partsOf_append (xs ys : List Char) :
    partsOf (xs ++ '/' :: ys) = partsOf xs ++ partsOf ys := by
  simp [partsOf, Text.pieces_append]

/-- Components that say something are the parts of the path that shows them. -/
theorem partsOf_showParts (hsaid : said cs = cs) (hslash : ∀ c ∈ cs, '/' ∉ c.toList) :
    partsOf (showParts cs).toList = cs := by
  by_cases hne : cs = []
  · subst hne
    rfl
  · rw [partsOf_eq, showParts, pieces_intercalate hne hslash, hsaid]

theorem mem_of_mem_partsOf {xs : List Char} {part : String} (h : part ∈ partsOf xs) :
    ∀ x ∈ part.toList, x ∈ xs := by
  obtain ⟨p, hp, rfl⟩ := List.mem_map.mp h
  rw [String.toList_ofList]
  exact (Text.mem_of_mem_pieces (List.mem_filter.mp hp).1).2

theorem isAbsolute_iff {s : String} :
    (ofString s).isAbsolute = true ↔ s.toList.head? = some '/' := by
  rw [isAbsolute, ofString, bne_iff_ne, List.head?_eq_some_iff]
  unfold anchorOf
  split <;> simp_all

theorem isMalformed_eq_false_iff {p : Path} :
    p.isMalformed = false ↔ ∀ part ∈ p.parts, '\x00' ∉ part.toList := by
  simp [isMalformed, hasNull]

/-- A name that can stand in a path. -/
structure IsPlain (name : String) : Prop extends IsOrdinary name where
  noSlash : '/' ∉ name.toList
  noNull : '\x00' ∉ name.toList

/-- A project that is named by a path as it is after all detours have been taken back. -/
def IsResolved (root : Location) : Prop :=
  ∀ name ∈ root, IsPlain name

/-- Two points or a name. -/
def IsStep (part : String) : Prop :=
  part = ".." ∨ IsPlain part

theorem notMem_showParts {x : Char} (hx : x ≠ '/') (h : ∀ c ∈ cs, x ∉ c.toList) :
    x ∉ (showParts cs).toList := by
  unfold showParts
  induction cs with
  | nil => simp
  | cons c cs ih =>
    obtain ⟨hc, hcs⟩ := List.forall_mem_cons.mp h
    by_cases hne : cs = []
    · subst hne
      rwa [String.intercalate_singleton]
    · have hrest := ih hcs
      rw [intercalate_cons hne]
      simp only [String.toList_append, List.mem_append, not_or]
      exact ⟨hc, by simpa using hx, hrest⟩

theorem exists_showParts_up (cs : List String) :
    ∃ tail, (showParts (".." :: cs)).toList = '.' :: tail := by
  unfold showParts
  by_cases hne : cs = []
  · subst hne
    exact ⟨['.'], by rw [String.intercalate_singleton]; rfl⟩
  · exact ⟨'.' :: '/' :: ("/".intercalate cs).toList, by rw [intercalate_cons hne]; simp⟩

theorem partsOf_showParts_of_steps (h : ∀ part ∈ cs, IsStep part) :
    partsOf (showParts cs).toList = cs := by
  refine partsOf_showParts (List.filter_eq_self.mpr fun part hpart => ?_) fun part hpart => ?_
  · rcases h part hpart with rfl | hplain
    · decide
    · simp [hplain.ne_empty, hplain.ne_point]
  · rcases h part hpart with rfl | hplain
    · decide
    · exact hplain.noSlash

theorem walk_replicate_up (base names : Location) :
    walk (base ++ names) (List.replicate names.length "..") = base := by
  induction names using List.reverseRecOn with
  | nil => rw [List.append_nil]; rfl
  | append_singleton names name ih =>
    rw [List.length_append, List.length_singleton, List.replicate_succ, ← List.append_assoc,
      walk_up, ih]

variable {root : Location}

theorem IsResolved.notMem_up (h : IsResolved root) : ".." ∉ root :=
  fun hmem => (h _ hmem).ne_up rfl

theorem IsResolved.partsOf_toString (h : IsResolved root) :
    partsOf (ofLocation root).toString.toList = root := by
  have htext : (ofLocation root).toString.toList = [] ++ '/' :: (showParts root).toList := by
    simp [Path.toString, ofLocation]
  rw [htext, partsOf_append, partsOf_showParts (said_of_ordinary fun name hname =>
    (h name hname).toIsOrdinary) fun name hname => (h name hname).noSlash]
  rfl

end Path

namespace Project

open CallAttribution.Path

variable {root out : Location} {dir : String}

/-- The text of a path below a project leads where the path leads from there. -/
theorem normalizes_below_iff (h : IsResolved root) :
    Normalizes ((ofLocation root).toString ++ "/" ++ dir) out ↔
      walk root (partsOf dir.toList) = out := by
  have htext : ((ofLocation root).toString ++ "/" ++ dir).toList =
      (ofLocation root).toString.toList ++ '/' :: dir.toList := by
    simp
  rw [normalizes_iff, htext, partsOf_append, h.partsOf_toString, walk_append,
    walk_of_notMem h.notMem_up, List.nil_append]

/-- The directory that a project names, in terms of the names that lead there. -/
theorem outputDir_eq (h : IsResolved root) (hnull : '\x00' ∉ dir.toList) :
    outputDir (.ofLocation root) dir =
      if dir = "" then .error (.config .emptyOutputDir)
      else if dir.toList.head? = some '~' ∨ dir.toList.head? = some '/' then
        .error (.config .absoluteOutputDir)
      else if root <+: walk root (partsOf dir.toList) then .ok (walk root (partsOf dir.toList))
      else .error (.config (.escapingOutputDir dir)) := by
  unfold outputDir
  by_cases hempty : dir = ""
  · rw [if_pos hempty, if_pos hempty]
  by_cases hhead : dir.toList.head? = some '~' ∨ dir.toList.head? = some '/'
  · rw [if_neg hempty, if_neg hempty, if_pos hhead, if_pos (hhead.imp_right isAbsolute_iff.mpr)]
  have hhead' : ¬ (dir.toList.head? = some '~' ∨ (ofString dir).isAbsolute = true) :=
    fun hor => hhead (hor.imp_right isAbsolute_iff.mp)
  rw [if_neg hempty, if_neg hempty, if_neg hhead, if_neg hhead']
  have hrelative : (ofString dir).isAbsolute = false :=
    Bool.not_eq_true _ ▸ (not_or.mp hhead').2
  have hchild : (ofLocation root).child dir = ⟨.root, root ++ partsOf dir.toList⟩ := by
    rw [child, append, hrelative]
    rfl
  have hroot : placeOf (.ofLocation root) = .ok root :=
    placeOf_eq_ok.mpr ⟨isMalformed_eq_false_iff.mpr fun name hname => (h name hname).noNull,
      (walk_of_notMem h.notMem_up []).symm⟩
  have hout : placeOf ((ofLocation root).child dir) = .ok (walk root (partsOf dir.toList)) := by
    refine placeOf_eq_ok.mpr ⟨isMalformed_eq_false_iff.mpr fun part hpart => ?_, ?_⟩
    · rw [hchild] at hpart
      rcases List.mem_append.mp hpart with hpart | hpart
      · exact (h part hpart).noNull
      · exact fun hmem => hnull (mem_of_mem_partsOf hpart _ hmem)
    · rw [hchild, walk_append, walk_of_notMem h.notMem_up, List.nil_append]
  simp only [hroot, hout, bind, Except.bind, pure, Except.pure, contains,
    List.isPrefixOf_iff_prefix]

/-- A path of steps that begins by leaving the project is judged by where it leads. -/
theorem outputDir_showParts (h : IsResolved root) {parts : List String}
    (hparts : ∀ part ∈ parts, IsStep part) :
    outputDir (.ofLocation root) (showParts (".." :: parts)) =
      if root <+: walk root (".." :: parts) then .ok (walk root (".." :: parts))
      else .error (.config (.escapingOutputDir (showParts (".." :: parts)))) := by
  have hsteps : ∀ part ∈ ".." :: parts, IsStep part :=
    List.forall_mem_cons.mpr ⟨Or.inl rfl, hparts⟩
  have hnull : '\x00' ∉ (showParts (".." :: parts)).toList := by
    refine notMem_showParts (by decide) fun part hpart => ?_
    rcases hsteps part hpart with rfl | hplain
    · decide
    · exact hplain.noNull
  obtain ⟨tail, htail⟩ := exists_showParts_up parts
  have hempty : showParts (".." :: parts) ≠ "" := by
    intro heq
    rw [heq] at htail
    cases htail
  rw [outputDir_eq h hnull, if_neg hempty, if_neg (by simp [htail]),
    partsOf_showParts_of_steps hsteps]

/-- A path is admitted if it is relative and all names of the project lead to the place where it is
normalized. -/
theorem outputDir_eq_ok_iff (h : IsResolved root) (hnull : '\x00' ∉ dir.toList) :
    outputDir (.ofLocation root) dir = .ok out ↔
      dir ≠ "" ∧ dir.toList.head? ≠ some '~' ∧ dir.toList.head? ≠ some '/' ∧
        Normalizes ((ofLocation root).toString ++ "/" ++ dir) out ∧ root <+: out := by
  rw [normalizes_below_iff h, outputDir_eq h hnull]
  split_ifs with hempty hhead hin
  · simp [hempty]
  · refine iff_of_false (fun heq => by cases heq) fun hall => ?_
    exact hhead.elim hall.2.1 hall.2.2.1
  · obtain ⟨htilde, hslash⟩ := not_or.mp hhead
    constructor
    · intro heq
      cases heq
      exact ⟨hempty, htilde, hslash, rfl, hin⟩
    · rintro ⟨-, -, -, rfl, -⟩
      rfl
  · refine iff_of_false (fun heq => by cases heq) ?_
    rintro ⟨-, -, -, rfl, hin'⟩
    exact hin hin'

theorem exists_config_of_outputDir {e : ProjectError} (h : IsResolved root)
    (hnull : '\x00' ∉ dir.toList) (he : outputDir (.ofLocation root) dir = .error e) :
    ∃ c, e = .config c := by
  rw [outputDir_eq h hnull] at he
  split_ifs at he <;> exact ⟨_, (Except.error.inj he).symm⟩

/-- What stands beside the project is not in it. -/
theorem outputDir_beside {base : Location} {last sibling : String} {below : List String}
    (h : IsResolved (base ++ [last])) (hne : sibling ≠ last)
    (hplain : ∀ name ∈ sibling :: below, IsPlain name) :
    outputDir (.ofLocation (base ++ [last])) (showParts (".." :: sibling :: below)) =
      .error (.config (.escapingOutputDir (showParts (".." :: sibling :: below)))) := by
  have hwalk : walk (base ++ [last]) (".." :: sibling :: below) = base ++ sibling :: below := by
    rw [walk_up, walk_of_notMem fun hmem => (hplain _ hmem).ne_up rfl]
  rw [outputDir_showParts h fun name hname => Or.inr (hplain name hname), hwalk, if_neg]
  rw [List.prefix_append_right_inj, List.cons_prefix_cons]
  exact fun hlast => hne hlast.1.symm

/-- A path may go up from the project as long as it goes down again by the same names. -/
theorem outputDir_return {base names below : List String} (h : IsResolved (base ++ names))
    (hne : names ≠ []) (hplain : ∀ name ∈ below, IsPlain name) :
    outputDir (.ofLocation (base ++ names))
        (showParts (List.replicate names.length ".." ++ (names ++ below))) =
      .ok (base ++ names ++ below) := by
  have hnames : ∀ name ∈ names ++ below, IsPlain name := by
    intro name hname
    rcases List.mem_append.mp hname with hname | hname
    · exact h name (List.mem_append_right _ hname)
    · exact hplain name hname
  obtain ⟨n, hn⟩ := Nat.exists_eq_succ_of_ne_zero (mt List.length_eq_zero_iff.mp hne)
  have hsteps : ∀ part ∈ List.replicate n ".." ++ (names ++ below), IsStep part := by
    intro part hpart
    rcases List.mem_append.mp hpart with hpart | hpart
    · exact Or.inl (List.eq_of_mem_replicate hpart)
    · exact Or.inr (hnames part hpart)
  have hwalk : walk (base ++ names) (List.replicate names.length ".." ++ (names ++ below)) =
      base ++ names ++ below := by
    rw [walk_append, walk_replicate_up, walk_of_notMem fun hmem => (hnames _ hmem).ne_up rfl,
      List.append_assoc]
  rw [hn, List.replicate_succ, List.cons_append] at hwalk ⊢
  rw [outputDir_showParts h hsteps, hwalk, if_pos (List.prefix_append _ _)]

/-- A project admits a name for its directory of artifacts exactly if this is not empty, begins with
neither a tilde nor a slash, and is normalized below the project to a place that all names of the
project lead the way to. Everything else is refused as a wrong configuration: so is a directory
beside the project, even if its name begins with that of the project. A path that leaves the project
and comes back by its names is admitted. -/
theorem outputDir_contained (h : IsResolved root) :
    (∀ dir : String, '\x00' ∉ dir.toList →
      (∃! place, Normalizes ((ofLocation root).toString ++ "/" ++ dir) place) ∧
      (∀ out, outputDir (.ofLocation root) dir = .ok out ↔
        dir ≠ "" ∧ dir.toList.head? ≠ some '~' ∧ dir.toList.head? ≠ some '/' ∧
          Normalizes ((ofLocation root).toString ++ "/" ++ dir) out ∧ root <+: out) ∧
      (∀ out, outputDir (.ofLocation root) dir = .ok out →
        (ofLocation out).isAbsolute = true ∧ ∀ name ∈ out, IsOrdinary name) ∧
      ∀ e, outputDir (.ofLocation root) dir = .error e → ∃ c, e = .config c) ∧
    (∀ (base : Location) (last sibling : String) (below : List String), root = base ++ [last] →
      sibling ≠ last → (∀ name ∈ sibling :: below, IsPlain name) →
      outputDir (.ofLocation root) (showParts (".." :: sibling :: below)) =
        .error (.config (.escapingOutputDir (showParts (".." :: sibling :: below))))) ∧
    ∀ (base names : Location) (below : List String), root = base ++ names → names ≠ [] →
      (∀ name ∈ below, IsPlain name) →
      outputDir (.ofLocation root)
          (showParts (List.replicate names.length ".." ++ (names ++ below))) =
        .ok (root ++ below) := by
  refine ⟨fun dir hnull => ⟨?_, fun out => outputDir_eq_ok_iff h hnull, fun out hout => ?_,
    fun e he => exists_config_of_outputDir h hnull he⟩, ?_, ?_⟩
  · refine ⟨_, (normalizes_below_iff h).mpr rfl, fun place hplace => ?_⟩
    exact ((normalizes_below_iff h).mp hplace).symm
  · obtain ⟨-, -, -, ⟨_, -, -, hordinary⟩, -⟩ := (outputDir_eq_ok_iff h hnull).mp hout
    exact ⟨rfl, hordinary⟩
  · rintro base last sibling below rfl hne hplain
    exact outputDir_beside h hne hplain
  · rintro base names below rfl hne hplain
    exact outputDir_return h hne hplain

/-- Below the project, beside it under a longer name, and out of it and back. -/
theorem outputDir_contained_near :
    let root : Location := ["W", "p"]
    outputDir (.ofLocation root) "./a//../..//p/b/." = .ok ["W", "p", "b"] ∧
      outputDir (.ofLocation root) "../pp/a" = .error (.config (.escapingOutputDir "../pp/a")) ∧
      outputDir (.ofLocation root) "../../W/p/a" = .ok ["W", "p", "a"] := by
  intro root
  have hplain : ∀ name ∈ ["W", "p", "a", "b", "pp"], IsPlain name := by
    intro name hname
    simp only [List.mem_cons, List.not_mem_nil, or_false] at hname
    rcases hname with rfl | rfl | rfl | rfl | rfl <;>
      exact ⟨⟨by decide, by decide, by decide⟩, by decide, by decide⟩
  have hroot : IsResolved root := fun name hname => hplain name (List.mem_append_left _ hname)
  obtain ⟨hall, hbeside, hback⟩ := outputDir_contained hroot
  obtain ⟨-, hok, -, -⟩ := hall "./a//../..//p/b/." (by decide)
  refine ⟨(hok _).mpr ⟨by decide, by decide, by decide, ?_, by decide⟩, ?_, ?_⟩
  · exact (normalizes_below_iff hroot).mpr (by decide)
  · exact hbeside ["W"] "p" "pp" ["a"] rfl (by decide) (by simp [hplain])
  · exact hback [] ["W", "p"] ["a"] rfl (by decide) (by simp [hplain])

end Project

end CallAttribution
