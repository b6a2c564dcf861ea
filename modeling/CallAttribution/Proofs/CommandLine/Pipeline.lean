import CallAttribution.Proofs.CommandLine.ResolveRun

/-!
# Checking what has just been made

A command that makes artifacts is followed by one that checks them. Validation finds the directory
by itself and accepts it. Verification agrees as well, if the directory held nothing else before,
the run did not overwrite its own inputs, the place of the project can be looked up and the scratch
directory is made outside of the directory.
-/

namespace CallAttribution.CommandLine

/-- After artifacts have been made, validation has nothing to tell, whatever stood in their
directory. Nor has verification, if nothing but the two files stood there, neither is an input and
the scratch directory is made elsewhere; where the directory is named on the command line, the names
that lead to the project must be of admissible length. -/
theorem silent_after_resolve {env : Environment} (henv : env.Direct) {t u : FileTree}
    (ht : t.Rooted) {root : String} {i : Inputs} {outDir : Option String} {verbose : Bool}
    {reply : Reply}
    (hrun : Invocation.run env ⟨root, .resolve i outDir verbose⟩ t = (.ok reply, u))
    (hs : reply.status = 0) :
    Invocation.run env ⟨root, .validate outDir⟩ u = (.ok .silent, u) ∧
      ∃ place out, env.place root = .ok place ∧
        (Task.resolve i outDir verbose).artifactsPlace? env place t = some out ∧
        ((t.node? out = none ∨ ∀ f ∈ t.filesUnder out,
            f.1 = [Artifact.recordsFile] ∨ f.1 = [Artifact.summaryFile]) →
          (∀ s ∈ (Task.resolve i outDir verbose).inputPlaces env,
            s ≠ out ++ [Artifact.recordsFile] ∧ s ≠ out ++ [Artifact.summaryFile]) →
          (outDir.isSome = true → ∀ name ∈ place, name.utf8ByteSize ≤ FileTree.maxName) →
          u.Spare env.scratch → ¬ out <+: env.scratch →
          Invocation.run env ⟨root, .verify i outDir⟩ u = (.ok .silent, u)) := by
  rcases hplace : env.place root with e | place
  · simp [Invocation.run, hplace] at hrun
  have hup : ".." ∉ place := henv.notMem_of_place hplace
  simp only [Invocation.run, hplace] at hrun
  obtain ⟨r⟩ := nonempty_resolveRun hup hrun hs
  constructor
  · simp only [Invocation.run, hplace, r.runValidate_eq henv ht hup]
  · refine ⟨place, r.out, rfl, r.artifactsPlace?_eq verbose, ?_⟩
    intro hempty hinputs hshort hscratch houtside
    have hold : ∀ f ∈ t.filesUnder r.out,
        f.1 = [Artifact.recordsFile] ∨ f.1 = [Artifact.summaryFile] := by
      rcases hempty with hnone | hold
      · simp [ht.filesUnder_of_absent hnone]
      · exact hold
    have hin := fun s hs => hinputs s (r.mem_inputPlaces verbose hs)
    simp only [Invocation.run, hplace,
      r.runVerify_eq henv ht hup hshort hold hin hscratch houtside]

/-- A project that configures its directory of artifacts, which holds stale records. -/
theorem silent_after_resolve_stale :
    let env : Environment := ⟨some ["W"], none, [], ["scratch"]⟩
    let t : FileTree := ⟨[(["W"], .directory),
      (["W", "calltarget.toml"], .file (Text.encode "output_dir = 'out'")),
      (["W", "d.json"], .file (Text.encode "{}")), (["W", "c.json"], .file (Text.encode "{}")),
      (["W", "out"], .directory), (["W", "out", "resolutions.jsonl"], .file (Text.encode "stale"))],
      by decide⟩
    let i : Inputs := ⟨some "d.json", some "c.json"⟩
    ∃ reply u, Invocation.run env ⟨".", .resolve i none true⟩ t = (.ok reply, u) ∧
      reply.status = 0 ∧ Invocation.run env ⟨".", .validate none⟩ u = (.ok .silent, u) ∧
      Invocation.run env ⟨".", .verify i none⟩ u = (.ok .silent, u) := by
  intro env t i
  have h : (Invocation.run env ⟨".", .resolve i none true⟩ t).1 = .ok ⟨0,
      ["resolved 0/0 call(s), 0 unresolved"],
      [.log .info "Resolved 0/0 call(s); 0 left unresolved"]⟩ := by
    decide +kernel
  have henv : env.Direct := Environment.direct_of_directory (by decide)
  have ht : t.Rooted := FileTree.rooted_of_nodes (by decide)
  have hall := silent_after_resolve henv ht (Prod.ext h rfl) rfl
  obtain ⟨hvalidate, place, out, hplace, hout, hverify⟩ := hall
  have hplace' : env.place "." = .ok ["W"] := by decide +kernel
  rw [hplace'] at hplace
  cases hplace
  have hout' : (Task.resolve i none true).artifactsPlace? env ["W"] t = some ["W", "out"] := by
    decide +kernel
  rw [hout'] at hout
  cases hout
  have hup : ".." ∉ env.scratch := by decide
  have hrooted := rooted_run ht hup ⟨".", .resolve i none true⟩
  have hscratch := hrooted.spare (l := ["scratch"]) (by decide +kernel) (by decide +kernel)
  exact ⟨_, _, Prod.ext h rfl, rfl, hvalidate,
    hverify (Or.inr (by decide)) (by decide +kernel) (by simp) hscratch (by decide)⟩

/-- Verification has no answer for a project right below its directory of artifacts whose own name
no directory holds. -/
theorem ResolveRun.runVerify_of_overlong {env : Environment} {root l : Location} {s : String}
    {i : Inputs} {outDir artifacts : Option String} {t u : FileTree}
    (r : ResolveRun env root i outDir t u) (henv : env.Direct) (hout : r.out = l)
    (hroot : root = l ++ [s])
    (hnull : ((Path.ofLocation root).child Project.configFile).isMalformed = false)
    (hup : s ≠ "..") (hlong : FileTree.maxName < s.utf8ByteSize) :
    runVerify env root i artifacts u = (.error (.failure (.project (.file (.fault .nameTooLong
      ((Path.ofLocation root).child Project.configFile))))), u) := by
  obtain ⟨b, hw⟩ := r.exists_written henv
  have hlocated := hw.located
  have hdir := hw.directory
  rw [hout] at hlocated hdir
  subst hroot
  have hl := (FileTree.locate_eq_ok.mp hlocated).2
  have hload := Project.loadConfig_of_overlong hnull hl hdir hup hlong
  rw [runVerify, hload]
  rfl

section Overlong

/-- Commands are given in a directory that holds two empty documents. -/
def workEnvironment : Environment :=
  ⟨some ["W"], none, [], ["scratch"]⟩

def workTree : FileTree :=
  ⟨[(["W"], .directory), (["W", "d.json"], .file (Text.encode "\x7b\x7d")),
    (["W", "c.json"], .file (Text.encode "\x7b\x7d"))], by decide⟩

def workInputs : Inputs :=
  ⟨some "d.json", some "c.json"⟩

theorem workEnvironment_direct : workEnvironment.Direct :=
  Environment.direct_of_directory (by decide)

theorem workTree_rooted : workTree.Rooted :=
  FileTree.rooted_of_nodes (by decide)

theorem ofString_below {cs : List Char} (hne : cs ≠ []) (hslash : '/' ∉ cs) (hdot : '.' ∉ cs) :
    Path.ofString ("new/" ++ String.ofList cs) = ⟨.relative, ["new", String.ofList cs]⟩ := by
  have h : ("new/" ++ String.ofList cs).toList = ['n', 'e', 'w'] ++ '/' :: cs := by
    simp
  have hpieces : Text.pieces '/' (['n', 'e', 'w'] ++ '/' :: cs) = [['n', 'e', 'w'], cs] := by
    rw [Text.pieces_append_sep (by decide), Text.pieces_of_notMem hslash]
  have hpoint : cs ≠ ['.'] := by
    rintro rfl
    simp at hdot
  rw [Path.ofString, h, Path.partsOf, hpieces]
  simp [Path.anchorOf, hne, hpoint]

variable {s : String}

theorem place_below (hword : Path.ofString ("new/" ++ s) = ⟨.relative, ["new", s]⟩)
    (hnull : Path.hasNull s = false) (hup : s ≠ "..") :
    workEnvironment.place ("new/" ++ s) = .ok ["W", "new", s] := by
  have hexpand : workEnvironment.expand ⟨.relative, ["new", s]⟩ = .ok ⟨.relative, ["new", s]⟩ :=
    rfl
  have hm : Path.isMalformed ⟨.relative, ["new", s]⟩ = false := by
    have hnew : Path.hasNull "new" = false := by decide
    simp [Path.isMalformed, hnull, hnew]
  have hwalk : Path.walk ["W"] ["new", s] = ["W", "new", s] :=
    Path.walk_of_notMem (by simp [hup.symm]) ["W"]
  rw [Environment.place, hword, hexpand]
  simp [bind, Except.bind, Environment.locate, hm, Path.isAbsolute, workEnvironment, hwalk]

theorem isMalformed_below (hnull : Path.hasNull s = false) :
    ((Path.ofLocation ["W", "new", s]).child Project.configFile).isMalformed = false := by
  have hparts : ∀ part ∈ ["W", "new", Project.configFile], Path.hasNull part = false := by
    decide
  rw [Project.configFile_isName.child]
  simp [Path.isMalformed, Path.ofLocation, hnull, hparts]

/-- Before the run nothing leads as far as the name of the project. -/
theorem loadConfig_below (hnull : Path.hasNull s = false) :
    Project.loadConfig workTree (.ofLocation ["W", "new", s]) = .ok .default := by
  have hm := isMalformed_below hnull
  have henter : workTree.enter [] ["W", "new", s, "calltarget.toml"] = .error .notFound := rfl
  have hlocate : workTree.locate ((Path.ofLocation ["W", "new", s]).child Project.configFile) =
      .error (.fault .notFound ((Path.ofLocation ["W", "new", s]).child Project.configFile)) := by
    rw [FileTree.locate, if_neg (by simpa using hm)]
    change (workTree.enter [] ["W", "new", s, "calltarget.toml"]).mapError _ = _
    rw [henter]
    rfl
  exact Project.loadConfig_of_notFound hlocate

theorem run_below (hplace : workEnvironment.place ("new/" ++ s) = .ok ["W", "new", s])
    (hload : Project.loadConfig workTree (.ofLocation ["W", "new", s]) = .ok .default) :
    ∃ u, Invocation.run workEnvironment
        ⟨"new/" ++ s, .resolve workInputs (some "new") false⟩ workTree =
      (.ok ⟨0, ["resolved 0/0 call(s), 0 unresolved"], []⟩, u) := by
  refine ⟨_, Prod.ext ?_ rfl⟩
  simp only [Invocation.run, hplace, runResolve, hload]
  rfl

theorem verify_below (hplace : workEnvironment.place ("new/" ++ s) = .ok ["W", "new", s])
    (hnull : Path.hasNull s = false) (hup : s ≠ "..")
    (hlong : FileTree.maxName < s.utf8ByteSize) :
    ∃ reply u e, Invocation.run workEnvironment
        ⟨"new/" ++ s, .resolve workInputs (some "new") false⟩ workTree = (.ok reply, u) ∧
      reply.status = 0 ∧
      Invocation.run workEnvironment
        ⟨"new/" ++ s, .verify workInputs (some "new")⟩ u = (.error e, u) := by
  obtain ⟨u, hrun⟩ := run_below hplace (loadConfig_below hnull)
  have hresolve := hrun
  simp only [Invocation.run, hplace] at hresolve
  obtain ⟨r⟩ := nonempty_resolveRun (by simp [hup.symm]) hresolve rfl
  have hout : r.out = ["W", "new"] := by
    have hnew : workEnvironment.place "new" = .ok ["W", "new"] := by decide +kernel
    exact Except.ok.inj (r.chosen.symm.trans hnew)
  have hverify :
      runVerify workEnvironment ["W", "new", s] workInputs (some "new") u = (.error _, u) :=
    r.runVerify_of_overlong workEnvironment_direct hout rfl (isMalformed_below hnull) hup hlong
  have hrunVerify : Invocation.run workEnvironment
      ⟨"new/" ++ s, .verify workInputs (some "new")⟩ u =
        runVerify workEnvironment ["W", "new", s] workInputs (some "new") u := by
    simp only [Invocation.run, hplace]
  exact ⟨_, u, _, hrun, rfl, hrunVerify.trans hverify⟩

/-- The whole directory of the project is missing before the run. As soon as the run has made the
directory above, the name of the project is found to be too long. -/
theorem verify_fails_after_resolve :
    let root := "new/" ++ String.ofList (List.replicate 256 'a')
    let task := Task.resolve workInputs (some "new") false
    workEnvironment.Direct ∧ workTree.Rooted ∧
      ∃ place reply u e, workEnvironment.place root = .ok place ∧
        Invocation.run workEnvironment ⟨root, task⟩ workTree = (.ok reply, u) ∧
        reply.status = 0 ∧
        task.artifactsPlace? workEnvironment place workTree = some ["W", "new"] ∧
        workTree.node? ["W", "new"] = none ∧
        (∀ s ∈ task.inputPlaces workEnvironment, s ≠ ["W", "new"] ++ [Artifact.recordsFile] ∧
          s ≠ ["W", "new"] ++ [Artifact.summaryFile]) ∧
        Invocation.run workEnvironment ⟨root, .verify workInputs (some "new")⟩ u =
          (.error e, u) := by
  intro root task
  have hlong : FileTree.maxName < (String.ofList (List.replicate 256 'a')).utf8ByteSize := by
    decide +kernel
  have hup : String.ofList (List.replicate 256 'a') ≠ ".." := by
    decide +kernel
  have hnull : Path.hasNull (String.ofList (List.replicate 256 'a')) = false :=
    Path.hasNull_ofList (by decide +kernel)
  have hword : Path.ofString root = ⟨.relative, ["new", String.ofList (List.replicate 256 'a')]⟩ :=
    ofString_below (by decide +kernel) (by decide +kernel) (by decide +kernel)
  have hplace := place_below hword hnull hup
  obtain ⟨reply, u, e, hresolve, hstatus, hverify⟩ := verify_below hplace hnull hup hlong
  exact ⟨workEnvironment_direct, workTree_rooted, _, reply, u, e, hplace, hresolve, hstatus,
    by decide +kernel, by decide, by decide +kernel, hverify⟩

end Overlong

end CallAttribution.CommandLine
