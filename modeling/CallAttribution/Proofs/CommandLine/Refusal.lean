import CallAttribution.Proofs.CommandLine.ResolveRun
import CallAttribution.Proofs.Toml.Digits

/-!
# Configurations that cannot be used

A configuration that is no TOML document, or one with wrong settings, is refused: every command that
needs it answers with status 2 and one line, and changes nothing. Three further failures are not
foreseen, and a command has no answer to them: the file is no text, it holds a whole number with too
many digits, or a name on the way to it is too long.
-/

namespace CallAttribution

namespace FileTree

variable {t : FileTree} {p : Path}

theorem stat_eq_error {e : FileError} (h : t.stat p = .error e) :
    e = .embeddedNull ∨ ∃ f, e = .fault f p ∧ (f = .notFound ∨ f = .notDirectory ∨
      f = .nameTooLong ∧ ∃ part ∈ p.parts, maxName < part.utf8ByteSize) := by
  rcases hl : t.locate p with e' | l
  · rw [stat, hl] at h
    cases h
    rw [locate] at hl
    split_ifs at hl
    · cases hl
      exact Or.inl rfl
    · rcases henter : t.enter [] p.parts with f | l
      · rw [henter] at hl
        cases hl
        exact Or.inr ⟨f, rfl, fault_of_enter henter⟩
      · rw [henter] at hl
        cases hl
  · rw [stat, hl] at h
    rcases hn : t.node? l with _ | n
    · simp only [bind, Except.bind, hn] at h
      cases h
      exact Or.inr ⟨.notFound, rfl, Or.inl rfl⟩
    · simp only [bind, Except.bind, hn] at h
      cases h

/-- Whether a file is there can only not be told because of a name that is too long. -/
theorem isFile?_eq_error {e : FileError} (h : t.isFile? p = .error e) :
    e = .fault .nameTooLong p ∧ ∃ part ∈ p.parts, maxName < part.utf8ByteSize := by
  rcases hs : t.stat p with e' | n
  · rcases stat_eq_error hs with rfl | ⟨f, rfl, rfl | rfl | ⟨rfl, hlong⟩⟩
    all_goals
      simp only [isFile?, stat?, hs, bind, Except.bind, pure, Except.pure] at h
      cases h
    exact ⟨rfl, hlong⟩
  · cases n <;>
      simp [isFile?, stat?, hs, bind, Except.bind, pure, Except.pure] at h

theorem isFile?_eq_true : t.isFile? p = .ok true ↔ ∃ b, t.read p = .ok b := by
  constructor
  · intro h
    obtain ⟨n, hn, h⟩ := bind_eq_ok.mp h
    split at h
    · next b =>
      exact ⟨b, read_eq_ok.mpr (stat?_eq_some.mp hn)⟩
    · cases h
  · rintro ⟨b, hb⟩
    exact bind_eq_ok.mpr ⟨_, stat?_of_read hb, rfl⟩

end FileTree

namespace Project

variable {t : FileTree} {root p : Path} {e : ProjectError}

/-- A wrong configuration is one that is no document, or whose settings are reported, each with the
path of its file. -/
def Wrong (p : Path) (c : ConfigError) : Prop :=
  c = .notToml p ∨ ∃ report, c = .invalid p report

/-- The failures that are not told as a wrong configuration, each with what it comes from. -/
inductive Unforeseen (t : FileTree) (p : Path) : ProjectError → Prop
  | notText {b : Bytes} (hread : t.read p = .ok b) (htext : Text.decode? b = none) :
    Unforeseen t p .notText
  | oversized {b : Bytes} {cs run : List Char} {n : Nat} (hread : t.read p = .ok b)
    (htext : Text.decode? b = some cs) (hrun : run <:+: cs) (hdigits : Toml.DigitRun run n)
    (hmax : Toml.maxDigits < n) : Unforeseen t p (.oversizedInteger n)
  | overlong {name : String} (hname : name ∈ p.parts)
    (hlong : FileTree.maxName < name.utf8ByteSize) : Unforeseen t p (.file (.fault .nameTooLong p))

/-- The limits of an operating system and of an interpreter that file trees and the reader of
documents do not have, and beyond which loading fails in further ways: the bytes of a path, and the
values inside each other, of which there are at most as many as brackets that open. -/
structure WithinLimits (t : FileTree) (p : Path) : Prop where
  path : p.toString.utf8ByteSize ≤ 4095
  nesting : ∀ b cs, t.read p = .ok b → Text.decode? b = some cs →
    cs.countP (fun c => c == '[' || c == '\x7b') ≤ 256

theorem configOfBytes_eq_error {b : Bytes} (hread : t.read p = .ok b)
    (h : configOfBytes p b = .error e) : (∃ c, Wrong p c ∧ e = .config c) ∨ Unforeseen t p e := by
  rw [configOfBytes] at h
  split at h
  · next htext =>
    cases h
    exact Or.inr (.notText hread htext)
  · next cs htext =>
    split at h
    · cases h
      exact Or.inl ⟨_, Or.inl rfl, rfl⟩
    · next n hn =>
      cases h
      obtain ⟨hmax, run, hrun, hdigits⟩ := Toml.digitRun_of_read hn
      exact Or.inr (.oversized hread htext hrun hdigits hmax)
    · next document _ =>
      rcases hshape : (Config.shape (.obj document)).toExcept "ResolverConfig" with report | c
      · rw [configOf, hshape] at h
        cases h
        exact Or.inl ⟨_, Or.inr ⟨report, rfl⟩, rfl⟩
      · rw [configOf, hshape] at h
        cases h

/-- Loading a configuration fails because the configuration is wrong, or in one of three ways that
are not foreseen. -/
theorem loadConfig_eq_error (h : loadConfig t root = .error e) :
    (∃ c, Wrong (root.child configFile) c ∧ e = .config c) ∨
      Unforeseen t (root.child configFile) e := by
  rcases hfile : t.isFile? (root.child configFile) with f | there
  · obtain ⟨rfl, name, hname, hlong⟩ := FileTree.isFile?_eq_error hfile
    rw [loadConfig, hfile] at h
    cases h
    exact Or.inr (.overlong hname hlong)
  · cases there with
    | false =>
      rw [loadConfig, hfile] at h
      cases h
    | true =>
      obtain ⟨b, hread⟩ := FileTree.isFile?_eq_true.mp hfile
      simp only [loadConfig, hfile, hread, bind, Except.bind, Except.mapError, if_true] at h
      exact configOfBytes_eq_error hread h

/-- A file that is no text is never told as a wrong configuration. -/
theorem loadConfig_of_not_text {b : Bytes} (hread : t.read (root.child configFile) = .ok b)
    (htext : Text.decode? b = none) : loadConfig t root = .error .notText := by
  have hfile := FileTree.isFile?_eq_true.mpr ⟨b, hread⟩
  simp [loadConfig, hfile, hread, configOfBytes, htext, bind, Except.bind, Except.mapError]

theorem placeOf_eq_error (h : placeOf p = .error e) :
    e = .file .embeddedNull ∧ p.isMalformed = true := by
  rw [placeOf, Path.resolve?] at h
  cases hm : p.isMalformed with
  | true =>
    rw [hm] at h
    cases h
    exact ⟨rfl, rfl⟩
  | false =>
    rw [hm] at h
    cases h

/-- A directory of artifacts is refused as a wrong configuration, or its path has no place. -/
theorem outputDir_eq_error {l : Location} (hup : ".." ∉ l) {dir : String}
    (h : outputDir (.ofLocation l) dir = .error e) :
    (∃ c, e = .config c) ∨
      e = .file .embeddedNull ∧ ((Path.ofLocation l).child dir).isMalformed = true := by
  rw [outputDir] at h
  split_ifs at h with hnamed hplain
  · cases h
    exact Or.inl ⟨_, rfl⟩
  · cases h
    exact Or.inl ⟨_, rfl⟩
  · rcases hroot : placeOf (.ofLocation l) with e' | k
    · rw [hroot] at h
      cases h
      obtain ⟨rfl, hm⟩ := placeOf_eq_error hroot
      refine Or.inr ⟨rfl, ?_⟩
      -- the path goes through the project, whose own path is malformed already
      rw [Path.child, Path.append, if_neg fun hrel => hplain (Or.inr hrel), Path.isMalformed,
        List.any_append, Bool.or_eq_true]
      exact Or.inl hm
    · obtain rfl : k = l := (placeOf_eq_ok.mp hroot).2.trans (Path.walk_of_notMem hup [])
      rcases hout : placeOf ((Path.ofLocation k).child dir) with e' | out
      · simp only [hroot, hout, bind, Except.bind] at h
        cases h
        exact Or.inr (placeOf_eq_error hout)
      · simp only [hroot, hout, bind, Except.bind] at h
        split_ifs at h
        · cases h
        · cases h
          exact Or.inl ⟨_, rfl⟩

end Project

namespace CommandLine

variable {env : Environment} {word : String} {root : Location} {t : FileTree} {e : ProjectError}

/-- Only the validation of a named directory does without a configuration. -/
def Task.ReadsConfig : Task → Prop
  | .validate (some _) => False
  | _ => True

/-- Without a configuration a command ends before anything else is read or written. -/
theorem run_of_loadConfig_error (hroot : env.place word = .ok root)
    (h : Project.loadConfig t (.ofLocation root) = .error e) {task : Task} (hc : task.ReadsConfig) :
    Invocation.run env ⟨word, task⟩ t = (replyToFailure (.project e), t) := by
  cases task with
  | resolve i outDir verbose => simp only [Invocation.run, hroot, runResolve, h]
  | verify i artifacts => simp only [Invocation.run, hroot, runVerify, h]
  | validate artifacts =>
    cases artifacts with
    | none => simp only [Invocation.run, hroot, runValidate, h]
    | some _ => cases hc

theorem replyToFailure_of_unforeseen {p : Path} (h : Project.Unforeseen t p e) :
    replyToFailure (.project e) = .error (.failure (.project e)) := by
  cases h <;> rfl

/-- Within the limits of the system, a command that needs a configuration refuses a wrong one with
status 2 and one line, and changes nothing. To the three failures that are not foreseen it has no
answer, and these are all; a file that is no text is always one of them. A directory of artifacts is
refused as a wrong configuration as well, unless its path is malformed. -/
theorem refused_or_unforeseen (henv : env.Direct) (hroot : env.place word = .ok root) :
    let p := (Path.ofLocation root).child Project.configFile
    Project.WithinLimits t p →
    (∀ e, Project.loadConfig t (.ofLocation root) = .error e →
        (∃ c, Project.Wrong p c ∧ e = .config c ∧ ∀ task : Task, task.ReadsConfig →
          Invocation.run env ⟨word, task⟩ t =
            (.ok ⟨2, [], [.line ("error: " ++ c.message)]⟩, t)) ∨
        Project.Unforeseen t p e ∧ ∀ task : Task, task.ReadsConfig →
          Invocation.run env ⟨word, task⟩ t = (.error (.failure (.project e)), t)) ∧
      (∀ b, t.read p = .ok b → Text.decode? b = none →
        Project.loadConfig t (.ofLocation root) = .error .notText) ∧
      ∀ dir e, Project.outputDir (.ofLocation root) dir = .error e →
        (∃ c, e = .config c) ∨
          e = .file .embeddedNull ∧ ((Path.ofLocation root).child dir).isMalformed = true := by
  intro p _
  refine ⟨fun e he => ?_, fun b hread htext => Project.loadConfig_of_not_text hread htext,
    fun dir e he => Project.outputDir_eq_error (henv.notMem_of_place hroot) he⟩
  have hrun (task : Task) (htask : task.ReadsConfig) := run_of_loadConfig_error hroot he htask
  rcases Project.loadConfig_eq_error he with ⟨c, hwrong, rfl⟩ | hunforeseen
  · exact Or.inl ⟨c, hwrong, rfl, hrun⟩
  · rw [replyToFailure_of_unforeseen hunforeseen] at hrun
    exact Or.inr ⟨hunforeseen, hrun⟩

/-- A document that ends in the middle of a definition. -/
theorem refused_or_unforeseen_unfinished :
    let env : Environment := ⟨some ["W"], none, [], ["scratch"]⟩
    let t : FileTree := ⟨[(["W"], .directory),
      (["W", "calltarget.toml"], .file (Text.encode "output_dir ="))], by decide⟩
    Project.WithinLimits t ⟨.root, ["W", "calltarget.toml"]⟩ ∧
      ∀ task : Task, task.ReadsConfig → Invocation.run env ⟨".", task⟩ t =
        (.ok ⟨2, [], [.line "error: Invalid TOML in /W/calltarget.toml"]⟩, t) := by
  intro env t
  have henv : env.Direct := Environment.direct_of_directory (by decide)
  have hlimits : Project.WithinLimits t ⟨.root, ["W", "calltarget.toml"]⟩ := by
    refine ⟨by decide +kernel, fun b cs hb hcs => ?_⟩
    cases hb
    rw [Text.decode?_encode] at hcs
    cases hcs
    decide
  have hload : (Project.loadConfig t (.ofLocation ["W"])).map Config.outputDir =
      .error (.config (.notToml ⟨.root, ["W", "calltarget.toml"]⟩)) := by decide +kernel
  refine ⟨hlimits, fun task htask => ?_⟩
  obtain ⟨hfailure, -, -⟩ :=
    refused_or_unforeseen (t := t) henv (show env.place "." = .ok ["W"] by decide +kernel) hlimits
  rcases hfailure _ (eq_error_of_map hload) with ⟨c, -, he, hrun⟩ | ⟨hunforeseen, -⟩
  · cases he
    exact hrun task htask
  · cases hunforeseen

/-- A single byte that begins no character. All three commands end without an answer. -/
theorem undecodable_unanswered :
    let env : Environment := ⟨some ["W"], none, [], ["scratch"]⟩
    let t : FileTree := ⟨[(["W"], .directory), (["W", "calltarget.toml"], .file [0xff])], by decide⟩
    let i : Inputs := ⟨some "d.json", some "c.json"⟩
    Project.loadConfig t (.ofLocation ["W"]) = .error .notText ∧
      ∀ task ∈ [Task.resolve i none false, .validate none, .verify i none],
        (Invocation.run env ⟨".", task⟩ t).1 = .error (.failure (.project .notText)) := by
  intro env t i
  have hload : (Project.loadConfig t (.ofLocation ["W"])).map Config.outputDir =
      .error .notText := by decide +kernel
  exact ⟨eq_error_of_map hload, by decide +kernel⟩

end CommandLine

end CallAttribution
