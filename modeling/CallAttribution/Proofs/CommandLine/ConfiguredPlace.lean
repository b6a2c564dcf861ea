import CallAttribution.Proofs.CommandLine.ResolveRun

/-!
# The configured directory of artifacts

Making artifacts goes to the configured directory only if this lies inside of the project. The
other two commands go to the place of the same path without asking. So all three agree on every
directory that is admitted, and a directory that is refused is looked at nevertheless.
-/

namespace CallAttribution

namespace Project

/-- What a directory of artifacts has to be that a project names: a path relative to the project
that leads to a place inside of it. -/
structure Admits (root : Location) (dir : String) (out : Location) : Prop where
  named : dir ≠ ""
  plain : dir.toList.head? ≠ some '~'
  relative : (Path.ofString dir).isAbsolute = false
  inside : root <+: out

variable {root out : Location} {dir : String}

/-- A place below a malformed path is malformed itself. -/
theorem placeOf_root (hup : ".." ∉ root) (hrel : (Path.ofString dir).isAbsolute = false)
    (h : placeOf ((Path.ofLocation root).child dir) = .ok out) :
    placeOf (.ofLocation root) = .ok root := by
  obtain ⟨hm, -⟩ := placeOf_eq_ok.mp h
  rw [Path.child, Path.append, hrel, if_neg Bool.false_ne_true, Path.isMalformed, List.any_append,
    Bool.or_eq_false_iff] at hm
  exact placeOf_eq_ok.mpr ⟨hm.1, (Path.walk_of_notMem hup []).symm⟩

theorem outputDir_of_admits (hup : ".." ∉ root)
    (h : placeOf ((Path.ofLocation root).child dir) = .ok out) (ha : Admits root dir out) :
    outputDir (.ofLocation root) dir = .ok out := by
  have hroot := placeOf_root hup ha.relative h
  have hin : Path.contains root out = true := List.isPrefixOf_iff_prefix.mpr ha.inside
  simp [outputDir, ha.named, ha.plain, ha.relative, hroot, h, hin, bind, Except.bind, pure,
    Except.pure]

/-- Whatever is not admitted is refused as a wrong configuration. -/
theorem outputDir_of_not_admits (hup : ".." ∉ root)
    (h : placeOf ((Path.ofLocation root).child dir) = .ok out) (ha : ¬ Admits root dir out) :
    ∃ e, outputDir (.ofLocation root) dir = .error (.config e) := by
  rw [outputDir]
  split_ifs with hnamed hplain
  · exact ⟨_, rfl⟩
  · exact ⟨_, rfl⟩
  · obtain ⟨hplain, hrel⟩ := not_or.mp hplain
    rw [Bool.not_eq_true] at hrel
    have hroot := placeOf_root hup hrel h
    have hout : ¬ Path.contains root out = true := fun hin =>
      ha ⟨hnamed, hplain, hrel, List.isPrefixOf_iff_prefix.mp hin⟩
    exact ⟨.escapingOutputDir dir, by simp [hroot, h, hout, bind, Except.bind]⟩

end Project

namespace CommandLine

theorem status_of_validateAt {dir : Location} {t : FileTree} {reply : Reply}
    (h : validateAt dir t = .ok reply) : reply.status ≤ 1 := by
  obtain ⟨v, -, h⟩ := bind_eq_ok.mp h
  cases h
  change (if v.ok then 0 else 1) ≤ 1
  split <;> decide

section Run

variable {env : Environment} {word : String} {root p : Location} {t : FileTree} {c : Config}
  {i : Inputs} {s b : Location}

/-- Validation looks at the place of the configured directory, wherever this is. -/
theorem run_validate_configured (hroot : env.place word = .ok root)
    (hload : Project.loadConfig t (.ofLocation root) = .ok c)
    (hp : artifactsPlace env root c none = .ok p) :
    Invocation.run env ⟨word, .validate none⟩ t = (validateAt p t, t) := by
  simp [Invocation.run, hroot, runValidate, hload, hp, bind, Except.bind, Except.mapError]

/-- So does verification. -/
theorem run_verify_configured (hroot : env.place word = .ok root)
    (hload : Project.loadConfig t (.ofLocation root) = .ok c)
    (hplaces : i.places env = .ok (s, b)) (hp : artifactsPlace env root c none = .ok p) :
    Invocation.run env ⟨word, .verify i none⟩ t =
      verifyAt env.scratch p ⟨.ofLocation root, .ofLocation s, .ofLocation b, none, some c⟩ t := by
  have hrequest := request_of_places hplaces root c
  simp only [Invocation.run, hroot, runVerify, hload, hp, hrequest]

/-- Making artifacts ends with a refusal if the configured directory is refused. -/
theorem run_resolve_refused (hroot : env.place word = .ok root)
    (hload : Project.loadConfig t (.ofLocation root) = .ok c)
    (hplaces : i.places env = .ok (s, b)) {e : ConfigError}
    (he : Project.outputDir (.ofLocation root) c.outputDir = .error (.config e)) (verbose : Bool) :
    Invocation.run env ⟨word, .resolve i none verbose⟩ t = (.ok (.refusal e.message), t) := by
  have hrequest := request_of_places hplaces root c
  have hprepare : Request.prepare ⟨.ofLocation root, .ofLocation s, .ofLocation b, none, some c⟩ t =
      .error (.project (.config e)) := by
    simp [Request.prepare, Request.loadConfig, Request.chooseDir, he, bind, Except.bind,
      Except.mapError, Except.map]
  simp [Invocation.run, hroot, runResolve, hload, hrequest, generate, hprepare, replyToFailure]

/-- Artifacts that have been made without naming a directory stand in the configured one. -/
theorem exists_file_of_resolve (henv : env.Direct) (hroot : env.place word = .ok root)
    (hload : Project.loadConfig t (.ofLocation root) = .ok c)
    (hp : artifactsPlace env root c none = .ok p) {verbose : Bool} {reply : Reply} {u : FileTree}
    (h : Invocation.run env ⟨word, .resolve i none verbose⟩ t = (.ok reply, u))
    (hs : reply.status = 0) :
    ∀ file ∈ [Artifact.recordsFile, Artifact.summaryFile],
      ∃ content, u.node? (p ++ [file]) = some (.file content) := by
  simp only [Invocation.run, hroot] at h
  obtain ⟨r⟩ := nonempty_resolveRun (henv.notMem_of_place hroot) h hs
  have hc : r.config = c := Except.ok.inj (r.loaded.symm.trans hload)
  have hout : r.out = p := by
    have hchosen := r.chosen
    rw [hc] at hchosen
    exact Except.ok.inj (hchosen.symm.trans hp)
  obtain ⟨content, hw⟩ := r.exists_written henv
  rw [hout] at hw
  simpa using And.intro ⟨_, hw.records⟩ ⟨_, hw.summary⟩

/-- Validation and verification look at the place of the configured directory wherever it is and
leave the tree as it is, and validation then ends with status 0 or 1. If the directory is admitted,
then its place lies inside of the project and artifacts are made there. If it is not, then making
artifacts, and only this, is refused with status 2. -/
theorem configured_place (henv : env.Direct) (hroot : env.place word = .ok root)
    (hload : Project.loadConfig t (.ofLocation root) = .ok c)
    (hplaces : i.places env = .ok (s, b)) (hp : artifactsPlace env root c none = .ok p) :
    Invocation.run env ⟨word, .validate none⟩ t = (validateAt p t, t) ∧
      Invocation.run env ⟨word, .verify i none⟩ t =
        verifyAt env.scratch p ⟨.ofLocation root, .ofLocation s, .ofLocation b, none, some c⟩ t ∧
      (t.Rooted → ".." ∉ env.scratch → (Invocation.run env ⟨word, .verify i none⟩ t).2 = t) ∧
      (∀ reply, validateAt p t = .ok reply → reply.status ≤ 1) ∧
      (Project.Admits root c.outputDir p →
        Project.outputDir (.ofLocation root) c.outputDir = .ok p ∧
          ∀ verbose reply u,
            Invocation.run env ⟨word, .resolve i none verbose⟩ t = (.ok reply, u) →
            reply.status = 0 → ∀ file ∈ [Artifact.recordsFile, Artifact.summaryFile],
              ∃ content, u.node? (p ++ [file]) = some (.file content)) ∧
      (¬ Project.Admits root c.outputDir p → ∃ e,
        Project.outputDir (.ofLocation root) c.outputDir = .error (.config e) ∧
          ∀ verbose, Invocation.run env ⟨word, .resolve i none verbose⟩ t =
            (.ok (.refusal e.message), t)) := by
  have hup := henv.notMem_of_place hroot
  have hplace : Project.placeOf ((Path.ofLocation root).child c.outputDir) = .ok p :=
    (Environment.locate_iff_placeOf (isAbsolute_child_ofLocation root c.outputDir)).mp hp
  have hverify := run_verify_configured hroot hload hplaces hp
  refine ⟨run_validate_configured hroot hload hp, hverify, fun ht hscratch => ?_,
    fun _ => status_of_validateAt, fun ha => ?_, fun ha => ?_⟩
  · rw [hverify]
    exact verifyAt_snd ht hscratch p _
  · exact ⟨Project.outputDir_of_admits hup hplace ha, fun _ _ _ h hs =>
      exists_file_of_resolve henv hroot hload hp h hs⟩
  · obtain ⟨e, he⟩ := Project.outputDir_of_not_admits hup hplace ha
    exact ⟨e, he, run_resolve_refused hroot hload hplaces he⟩

/-- A directory inside of the project is refused if it is named from the root on. -/
theorem configured_place_absolute :
    let env : Environment := ⟨some ["W"], none, [], ["scratch"]⟩
    let t : FileTree := ⟨[(["W"], .directory), (["W", "p"], .directory),
      (["W", "p", "calltarget.toml"], .file (Text.encode "output_dir = '/W/p/out'")),
      (["W", "p", "out"], .directory)], by decide⟩
    let i : Inputs := ⟨some "d.json", some "c.json"⟩
    Invocation.run env ⟨"p", .validate none⟩ t = (validateAt ["W", "p", "out"] t, t) ∧
      ∃ e, ∀ verbose, Invocation.run env ⟨"p", .resolve i none verbose⟩ t =
        (.ok (.refusal e), t) := by
  intro env t i
  have henv : env.Direct := Environment.direct_of_directory (by decide)
  obtain ⟨c, hload, hdir⟩ : ∃ c, Project.loadConfig t (.ofLocation ["W", "p"]) = .ok c ∧
      c.outputDir = "/W/p/out" := exists_of_map_eq_ok (by decide +kernel)
  have hp : artifactsPlace env ["W", "p"] c none = .ok ["W", "p", "out"] := by
    rw [artifactsPlace, hdir]
    decide +kernel
  have hroot : env.place "p" = .ok ["W", "p"] := by decide +kernel
  have hplaces : i.places env = .ok (["W", "d.json"], ["W", "c.json"]) := by decide +kernel
  obtain ⟨hvalidate, -, -, -, -, hrefused⟩ := configured_place henv hroot hload hplaces hp
  have hnot : ¬ Project.Admits ["W", "p"] c.outputDir ["W", "p", "out"] := by
    intro ha
    have hrel := ha.relative
    rw [hdir] at hrel
    exact absurd hrel (by decide +kernel)
  obtain ⟨e, -, he⟩ := hrefused hnot
  exact ⟨hvalidate, e.message, he⟩

/-- Artifacts that were made in a named directory are accepted for the project if its configuration
leads to the same directory, be it inside of the project or not. -/
theorem accepted_of_same_place (henv : env.Direct) (ht : t.Rooted)
    (hroot : env.place word = .ok root) (hload : Project.loadConfig t (.ofLocation root) = .ok c)
    (hshort : ∀ name ∈ root, name.utf8ByteSize ≤ FileTree.maxName)
    (hplaces : i.places env = .ok (s, b)) (hp : artifactsPlace env root c none = .ok p)
    {w : String} (hw : env.place w = .ok p) {verbose : Bool} {reply : Reply} {u : FileTree}
    (h : Invocation.run env ⟨word, .resolve i (some w) verbose⟩ t = (.ok reply, u))
    (hs : reply.status = 0)
    (hold : ∀ f ∈ t.filesUnder p, f.1 = [Artifact.recordsFile] ∨ f.1 = [Artifact.summaryFile])
    (hin : ∀ l ∈ [s, b], l ≠ p ++ [Artifact.recordsFile] ∧ l ≠ p ++ [Artifact.summaryFile])
    (hscratch : u.Spare env.scratch) (houtside : ¬ p <+: env.scratch) :
    Project.loadConfig u (.ofLocation root) = .ok c ∧
      Invocation.run env ⟨word, .validate none⟩ u = (.ok .silent, u) ∧
      Invocation.run env ⟨word, .verify i none⟩ u = (.ok .silent, u) := by
  simp only [Invocation.run, hroot] at h
  obtain ⟨r⟩ := nonempty_resolveRun (henv.notMem_of_place hroot) h hs
  obtain rfl : r.config = c := Except.ok.inj (r.loaded.symm.trans hload)
  obtain rfl : r.out = p := Except.ok.inj (r.chosen.symm.trans hw)
  obtain ⟨hsnapshot, hcalls⟩ := Prod.mk.inj (Except.ok.inj (r.places.symm.trans hplaces))
  obtain ⟨content, hwritten⟩ := r.exists_written henv
  have hloaded := r.loadConfig_of_written ht (henv.notMem_of_place hroot) hwritten hshort
  refine ⟨hloaded, ?_, ?_⟩
  · rw [run_validate_configured hroot hloaded hp, r.validateAt_of_written hwritten]
  · rw [run_verify_configured hroot hloaded r.places hp,
      r.verifyAt_of_written henv hwritten hold (by rwa [hsnapshot, hcalls]) hscratch houtside]

/-- A configured directory beside the project holds the artifacts of a run that was told to put them
there. Making artifacts there again is refused, while the other two commands accept them. -/
theorem escaping_place_accepted :
    let env : Environment := ⟨some ["W"], none, [], ["scratch"]⟩
    let t : FileTree := ⟨[(["W"], .directory), (["W", "p"], .directory),
      (["W", "p", "calltarget.toml"], .file (Text.encode "output_dir = '../out'")),
      (["W", "d.json"], .file (Text.encode "\x7b\x7d")),
      (["W", "c.json"], .file (Text.encode "\x7b\x7d"))], by decide⟩
    let i : Inputs := ⟨some "d.json", some "c.json"⟩
    ∃ reply u, Invocation.run env ⟨"p", .resolve i (some "out") false⟩ t = (.ok reply, u) ∧
      Invocation.run env ⟨"p", .resolve i none false⟩ u =
        (.ok ⟨2, [], [.line "error: output_dir '../out' escapes the project root"]⟩, u) ∧
      Invocation.run env ⟨"p", .validate none⟩ u = (.ok .silent, u) ∧
      Invocation.run env ⟨"p", .verify i none⟩ u = (.ok .silent, u) ∧
      (Task.validate none).artifactsPlace? env ["W", "p"] u = some ["W", "out"] ∧
      ¬ ["W", "p"] <+: ["W", "out"] := by
  intro env t i
  have henv : env.Direct := Environment.direct_of_directory (by decide)
  have ht : t.Rooted := FileTree.rooted_of_nodes (by decide)
  have hroot : env.place "p" = .ok ["W", "p"] := by decide +kernel
  have hplaces : i.places env = .ok (["W", "d.json"], ["W", "c.json"]) := by decide +kernel
  obtain ⟨c, hload, hdir⟩ : ∃ c, Project.loadConfig t (.ofLocation ["W", "p"]) = .ok c ∧
      c.outputDir = "../out" := exists_of_map_eq_ok (by decide +kernel)
  have hp : artifactsPlace env ["W", "p"] c none = .ok ["W", "out"] := by
    rw [artifactsPlace, hdir]
    decide +kernel
  have hrefused : Project.outputDir (.ofLocation ["W", "p"]) c.outputDir =
      .error (.config (.escapingOutputDir "../out")) := by
    rw [hdir]
    decide +kernel
  have h : (Invocation.run env ⟨"p", .resolve i (some "out") false⟩ t).1 =
      .ok ⟨0, ["resolved 0/0 call(s), 0 unresolved"], []⟩ := by decide +kernel
  have hup : ".." ∉ env.scratch := by decide
  have hrooted := rooted_run ht hup ⟨"p", .resolve i (some "out") false⟩
  have hscratch := hrooted.spare (l := ["scratch"]) (by decide +kernel) (by decide +kernel)
  obtain ⟨hloaded, hvalidate, hverify⟩ := accepted_of_same_place henv ht hroot hload (by decide)
    hplaces hp (by decide +kernel) (Prod.ext h rfl) rfl (by decide +kernel) (by decide) hscratch
    (by decide)
  refine ⟨_, _, Prod.ext h rfl, run_resolve_refused hroot hloaded hplaces hrefused false, hvalidate,
    hverify, ?_, by decide⟩
  simp [Task.artifactsPlace?, hloaded, hp, Except.toOption]

end Run

end CommandLine

end CallAttribution
