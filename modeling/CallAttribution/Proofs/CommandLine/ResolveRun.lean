import CallAttribution.CommandLine.Run
import CallAttribution.Proofs.Acceptance
import CallAttribution.Proofs.Generation
import CallAttribution.Proofs.Project
import CallAttribution.Proofs.Reproduction

/-!
# What a command has done that has made artifacts

A run that ends well is taken apart once: the configuration it loaded, the places it read, the
directory it chose and the tree it left. Validation and verification of that directory are then
read off, each on the tree that the run has left.
-/

namespace CallAttribution.CommandLine

namespace Environment

/-- The working directory is given without detours, as an operating system does. -/
def Direct (env : Environment) : Prop :=
  ∀ l ∈ env.workingDirectory, ".." ∉ l

theorem direct_of_directory {l : Location} (h : ".." ∉ l) {home : Option String}
    {accounts : Table String} {scratch : Location} : Direct ⟨some l, home, accounts, scratch⟩ := by
  rintro _ ⟨⟩
  exact h

variable {env : Environment}

/-- An absolute path has the same place from everywhere. -/
theorem locate_iff_placeOf {p : Path} {l : Location} (hp : p.isAbsolute = true) :
    env.locate p = .ok l ↔ Project.placeOf p = .ok l := by
  rw [Project.placeOf_eq_ok, locate, hp, if_pos rfl]
  cases p.isMalformed with
  | true => simp
  | false => simp [eq_comm (a := l)]

theorem Direct.notMem_of_locate (henv : env.Direct) {p : Path} {l : Location}
    (h : env.locate p = .ok l) : ".." ∉ l := by
  rw [locate] at h
  split_ifs at h with hm ha
  · cases h
    exact Path.notMem_walk (by simp) p.parts
  · split at h
    · cases h
    · next l hl =>
      cases h
      exact Path.notMem_walk (henv l hl) p.parts

theorem Direct.notMem_of_place (henv : env.Direct) {word : String} {l : Location}
    (h : env.place word = .ok l) : ".." ∉ l := by
  obtain ⟨p, -, h⟩ := bind_eq_ok.mp h
  exact henv.notMem_of_locate h

end Environment

theorem isAbsolute_child_ofLocation (l : Location) (s : String) :
    ((Path.ofLocation l).child s).isAbsolute = true := by
  rw [Path.child, Path.append]
  split_ifs with h
  · exact h
  · rfl

section Frame

variable {t : FileTree} (ht : t.Rooted)
include ht

theorem verifyAt_snd {scratch : Location} (hup : ".." ∉ scratch) (dir : Location) (r : Request) :
    (verifyAt scratch dir r t).2 = t := by
  have hsame := Verification.ofDirectory_snd ht hup r (.ofLocation dir)
  rw [verifyAt]
  split
  · next hv => rwa [hv] at hsame
  · next hv => rwa [hv] at hsame

/-- A verification leaves the tree as it is, whatever it answers. -/
theorem runVerify_snd {env : Environment} (hup : ".." ∉ env.scratch) (root : Location) (i : Inputs)
    (artifacts : Option String) : (runVerify env root i artifacts t).2 = t := by
  rw [runVerify]
  split
  · rfl
  · split
    · rfl
    · split
      · rfl
      · exact verifyAt_snd ht hup _ _

theorem rooted_generate (r : Request) (reporter : Option Reporter) :
    (generate r reporter t).2.Rooted := by
  rw [generate]
  split
  · exact ht
  · next p _ =>
    have hwrite := Artifact.rooted_write ht p.outputDir (p.run reporter).2
    dsimp only
    split
    · next hw => rwa [hw] at hwrite
    · next hw => rwa [hw] at hwrite

/-- Commands keep a tree rooted. -/
theorem rooted_run {env : Environment} (hup : ".." ∉ env.scratch) (v : Invocation) :
    (Invocation.run env v t).2.Rooted := by
  rw [Invocation.run]
  split
  · exact ht
  · split
    · rw [runResolve]
      split
      · exact ht
      · split
        · exact ht
        · next r _ =>
          have hgenerate := rooted_generate ht r
          dsimp only
          split
          · next hg => exact (congrArg (fun x => x.2.Rooted) hg).mp (hgenerate _)
          · next hg => exact (congrArg (fun x => x.2.Rooted) hg).mp (hgenerate _)
    · exact ht
    · rwa [runVerify_snd ht hup]

end Frame

/-- A failed run does not answer that all is well. -/
theorem status_of_replyToFailure {e : Failure} {reply : Reply}
    (h : replyToFailure e = .ok reply) : reply.status = 2 := by
  unfold replyToFailure at h
  split at h <;> cases h <;> rfl

/-- How a run is answered. -/
def answer (traced verbose : Bool) : Except Failure Generated → Except RunError Reply
  | .error e => replyToFailure e
  | .ok g => .ok (replyToRun traced verbose g)

theorem runResolve_eq_answer {env : Environment} {root : Location} {i : Inputs}
    {outDir : Option String} {t : FileTree} {c : Config} {r : Request}
    (hc : Project.loadConfig t (.ofLocation root) = .ok c)
    (hr : i.request env root c outDir = .ok r) (verbose : Bool) :
    let traced := verbose || c.trace.enabled
    let generated := generate r (if traced then some (.fresh c.trace.throttle) else none) t
    runResolve env root i outDir verbose t = (answer traced verbose generated.1, generated.2) := by
  simp only [runResolve, hc, hr]
  split
  · next hg => simp only [hg, answer]
  · next hg => simp only [hg, answer]

/-- What a command has read and written that has made artifacts. -/
structure ResolveRun (env : Environment) (root : Location) (i : Inputs) (outDir : Option String)
    (t u : FileTree) where
  config : Config
  snapshotPlace : Location
  callsPlace : Location
  out : Location
  snapshot : Snapshot
  calls : CallBatch
  reporter : Option Reporter
  files : List Path
  loaded : Project.loadConfig t (.ofLocation root) = .ok config
  places : i.places env = .ok (snapshotPlace, callsPlace)
  chosen : artifactsPlace env root config outDir = .ok out
  inside : outDir = none → root <+: out
  readSnapshot : Input.readSnapshot t (.ofLocation snapshotPlace) = .ok snapshot
  readCalls : Input.readBatch t (.ofLocation callsPlace) = .ok calls
  wrote : Artifact.write t (.ofLocation out)
    (config.engine.outcome snapshot calls none reporter) = (.ok files, u)

theorem placeOf?_eq_ok {env : Environment} {word : Option String} {l : Location} :
    env.placeOf? word = .ok l ↔ ∃ w, word = some w ∧ env.place w = .ok l := by
  cases word <;> simp [Environment.placeOf?]

theorem places_eq_ok {env : Environment} {i : Inputs} {s b : Location}
    (h : i.places env = .ok (s, b)) :
    (∃ w, i.snapshot = some w ∧ env.place w = .ok s) ∧
      ∃ w, i.calls = some w ∧ env.place w = .ok b := by
  obtain ⟨s', hs, h⟩ := bind_eq_ok.mp h
  obtain ⟨b', hb, h⟩ := bind_eq_ok.mp h
  cases h
  exact ⟨placeOf?_eq_ok.mp hs, placeOf?_eq_ok.mp hb⟩

theorem request_eq_ok {env : Environment} {i : Inputs} {root : Location} {c : Config}
    {outDir : Option String} {r : Request} (h : i.request env root c outDir = .ok r) :
    ∃ s b o, i.places env = .ok (s, b) ∧ outDir.mapM env.place = .ok o ∧
      r = ⟨.ofLocation root, .ofLocation s, .ofLocation b, o.map .ofLocation, some c⟩ := by
  obtain ⟨⟨s, b⟩, hp, h⟩ := bind_eq_ok.mp h
  obtain ⟨o, ho, h⟩ := bind_eq_ok.mp h
  cases h
  exact ⟨s, b, o, hp, ho, rfl⟩

theorem request_of_places {env : Environment} {i : Inputs} {s b : Location}
    (h : i.places env = .ok (s, b)) (root : Location) (c : Config) :
    i.request env root c none =
      .ok ⟨.ofLocation root, .ofLocation s, .ofLocation b, none, some c⟩ := by
  rw [Inputs.request, h]
  rfl

/-- The directory that a run writes to is the one that the other commands look at. -/
theorem artifactsPlace_of_chooseDir {env : Environment} {root : Location} {c : Config}
    {outDir : Option String} {o : Option Location} {s b : Path} {dir : Path} (hroot : ".." ∉ root)
    (ho : outDir.mapM env.place = .ok o)
    (h : Request.chooseDir ⟨.ofLocation root, s, b, o.map .ofLocation, some c⟩ c = .ok dir) :
    ∃ out, dir = .ofLocation out ∧ artifactsPlace env root c outDir = .ok out ∧
      (outDir = none → root <+: out) := by
  cases outDir with
  | none =>
    cases ho
    simp only [Request.chooseDir, Option.map_none] at h
    rcases hout : Project.outputDir (.ofLocation root) c.outputDir with e | out
    · rw [hout] at h
      cases h
    · rw [hout] at h
      cases h
      obtain ⟨hplace, hin⟩ := Project.outputDir_eq_ok hroot hout
      have habs := isAbsolute_child_ofLocation root c.outputDir
      exact ⟨out, rfl, (Environment.locate_iff_placeOf habs).mpr hplace, fun _ => hin⟩
  | some word =>
    obtain ⟨out, hout, ho⟩ := bind_eq_ok.mp ho
    cases ho
    cases h
    exact ⟨out, rfl, hout, by simp⟩

theorem artifactsPlace?_of_loaded {env : Environment} {root out : Location} {c : Config}
    {i : Inputs} {outDir : Option String} {verbose : Bool} {t : FileTree}
    (hc : Project.loadConfig t (.ofLocation root) = .ok c)
    (h : artifactsPlace env root c outDir = .ok out) :
    (Task.resolve i outDir verbose).artifactsPlace? env root t = some out := by
  cases outDir with
  | some word =>
    have hplace : env.place word = .ok out := h
    simp [Task.artifactsPlace?, hplace, Except.toOption]
  | none => simp [Task.artifactsPlace?, hc, h, Except.toOption]

theorem inputPlaces_of_places {env : Environment} {i : Inputs} {s b : Location}
    (h : i.places env = .ok (s, b)) (outDir : Option String) (verbose : Bool) :
    (Task.resolve i outDir verbose).inputPlaces env = [s, b] := by
  obtain ⟨⟨w, hw, hs⟩, ⟨w', hw', hb⟩⟩ := places_eq_ok h
  simp [Task.inputPlaces, hw, hw', hs, hb, Except.toOption]

theorem notMem_of_artifactsPlace {env : Environment} (henv : env.Direct) {root out : Location}
    {c : Config} {outDir : Option String} (h : artifactsPlace env root c outDir = .ok out) :
    ".." ∉ out := by
  cases outDir with
  | none => exact henv.notMem_of_locate h
  | some word => exact henv.notMem_of_place h

theorem nonempty_resolveRun {env : Environment} {root : Location} {i : Inputs}
    {outDir : Option String} {verbose : Bool} {t u : FileTree} {reply : Reply}
    (hroot : ".." ∉ root) (h : runResolve env root i outDir verbose t = (.ok reply, u))
    (hs : reply.status = 0) : Nonempty (ResolveRun env root i outDir t u) := by
  have hfail {e : Failure} (he : replyToFailure e = .ok reply) : False := by
    rw [status_of_replyToFailure he] at hs
    cases hs
  rw [runResolve] at h
  split at h
  · exact (hfail (Prod.mk.inj h).1).elim
  · next c hc =>
    split at h
    · cases h
    · next r hr =>
      dsimp only at h
      split at h
      · exact (hfail (Prod.mk.inj h).1).elim
      · next g v hg =>
        obtain ⟨-, rfl⟩ := Prod.mk.inj h
        obtain ⟨s, b, o, hp, ho, rfl⟩ := request_eq_ok hr
        obtain ⟨p, hprepare, hw⟩ := generate_eq_ok hg
        obtain ⟨hdir, hsnap, hcalls, he⟩ := prepare_eq_ok rfl hprepare
        obtain ⟨out, hout, hplace, hin⟩ := artifactsPlace_of_chooseDir hroot ho hdir
        rw [hout, he] at hw
        exact ⟨⟨c, s, b, out, p.snapshot, p.batch, _, g.files, hc, hp, hplace, hin, hsnap, hcalls,
          hw⟩⟩

namespace ResolveRun

variable {env : Environment} {root : Location} {i : Inputs} {outDir : Option String}
  {t u : FileTree}

/-- What the run came to, whether it was narrated or not. -/
def outcome (r : ResolveRun env root i outDir t u) : Outcome :=
  r.config.engine.outcome r.snapshot r.calls none r.reporter

/-- The artifacts stand at the very place that the command names. -/
theorem exists_written (r : ResolveRun env root i outDir t u) (henv : env.Direct) :
    ∃ b, Artifact.Written t (.ofLocation r.out) r.outcome r.out b u := by
  obtain ⟨d, b, hw⟩ := Artifact.exists_written r.wrote
  have hd : d = r.out := FileTree.eq_of_locate (notMem_of_artifactsPlace henv r.chosen) hw.located
  exact ⟨b, hd ▸ hw⟩

variable {b : Bytes} (r : ResolveRun env root i outDir t u)

/-- A directory inside of the project could only be reached through names of admissible length. -/
theorem short_of_written (hroot : ".." ∉ root)
    (hw : Artifact.Written t (.ofLocation r.out) r.outcome r.out b u) (hnone : outDir = none) :
    ∀ name ∈ root, name.utf8ByteSize ≤ FileTree.maxName := by
  have hshort := FileTree.le_maxName_of_enter (FileTree.locate_eq_ok.mp hw.located).2
  intro name hname
  rcases hshort name ((r.inside hnone).subset hname) with rfl | h
  · exact absurd hname hroot
  · exact h

/-- The configuration is found again after the run. -/
theorem loadConfig_of_written (ht : t.Rooted) (hroot : ".." ∉ root)
    (hw : Artifact.Written t (.ofLocation r.out) r.outcome r.out b u)
    (hshort : ∀ name ∈ root, name.utf8ByteSize ≤ FileTree.maxName) :
    Project.loadConfig u (.ofLocation root) = .ok r.config := by
  -- the run has changed two files, neither of which has the name of the configuration
  have hne {file : String} (h : Project.configFile ≠ file) :
      root ++ [Project.configFile] ≠ r.out ++ [file] := by
    intro heq
    obtain ⟨-, hfile⟩ := List.append_inj' heq rfl
    exact h (List.singleton_inj.mp hfile)
  have hplace := hw.elsewhere (root ++ [Project.configFile]) (hne (by decide)) (hne (by decide))
  rw [Project.loadConfig_congr ht (hw.rooted ht) hroot hshort hplace, r.loaded]

theorem validateAt_of_written
    (hw : Artifact.Written t (.ofLocation r.out) r.outcome r.out b u) :
    validateAt r.out u = .ok .silent := by
  have hv := Validation.ofDirectory_of_written hw fun _ => Engine.consistent_of_mem_outcome
  rw [validateAt, hv]
  rfl

/-- Validation finds the directory of the run and has nothing to tell. -/
theorem runValidate_eq (r : ResolveRun env root i outDir t u) (henv : env.Direct) (ht : t.Rooted)
    (hroot : ".." ∉ root) :
    runValidate env root outDir u = .ok .silent := by
  obtain ⟨b, hw⟩ := r.exists_written henv
  have hvalid := r.validateAt_of_written hw
  have hchosen := r.chosen
  have hload (hnone : outDir = none) :=
    r.loadConfig_of_written ht hroot hw (r.short_of_written hroot hw hnone)
  cases outDir with
  | some word =>
    have hplace : env.place word = .ok r.out := hchosen
    simp [runValidate, hplace, hvalid, bind, Except.bind, Except.mapError]
  | none =>
    simp [runValidate, hload rfl, hchosen, hvalid, bind, Except.bind, Except.mapError]

theorem verifyAt_of_written (henv : env.Direct)
    (hw : Artifact.Written t (.ofLocation r.out) r.outcome r.out b u)
    (hold : ∀ f ∈ t.filesUnder r.out,
      f.1 = [Artifact.recordsFile] ∨ f.1 = [Artifact.summaryFile])
    (hin : ∀ s ∈ [r.snapshotPlace, r.callsPlace],
      s ≠ r.out ++ [Artifact.recordsFile] ∧ s ≠ r.out ++ [Artifact.summaryFile])
    {scratch : Location} (hscratch : u.Spare scratch) (houtside : ¬ r.out <+: scratch) :
    verifyAt scratch r.out ⟨.ofLocation root, .ofLocation r.snapshotPlace,
      .ofLocation r.callsPlace, none, some r.config⟩ u = (.ok .silent, u) := by
  obtain ⟨⟨w, -, hw₁⟩, ⟨w', -, hw₂⟩⟩ := places_eq_ok r.places
  have hread {s : Location} (hs : s ∈ [r.snapshotPlace, r.callsPlace]) (hup : ".." ∉ s)
      (c : Bytes) (hc : t.read (.ofLocation s) = .ok c) : u.read (.ofLocation s) = .ok c := by
    refine hw.read_of_read hc fun l hl => ?_
    rw [FileTree.eq_of_locate hup hl]
    exact hin s hs
  have hsnapshot := Input.readSnapshot_of_read r.readSnapshot
    (hread (by simp) (henv.notMem_of_place hw₁))
  have hcalls := Input.readBatch_of_read r.readCalls (hread (by simp) (henv.notMem_of_place hw₂))
  have hv := Verification.ofDirectory_of_written
    (r := ⟨.ofLocation root, .ofLocation r.snapshotPlace, .ofLocation r.callsPlace, none,
      some r.config⟩) hscratch rfl hsnapshot hcalls (by simp [Request.Avoids]) houtside hw hold
  rw [verifyAt, hv]
  rfl

/-- Verification agrees with the run. -/
theorem runVerify_eq (r : ResolveRun env root i outDir t u) (henv : env.Direct) (ht : t.Rooted)
    (hroot : ".." ∉ root)
    (hshort : outDir.isSome = true → ∀ name ∈ root, name.utf8ByteSize ≤ FileTree.maxName)
    (hold : ∀ f ∈ t.filesUnder r.out,
      f.1 = [Artifact.recordsFile] ∨ f.1 = [Artifact.summaryFile])
    (hin : ∀ s ∈ [r.snapshotPlace, r.callsPlace],
      s ≠ r.out ++ [Artifact.recordsFile] ∧ s ≠ r.out ++ [Artifact.summaryFile])
    (hscratch : u.Spare env.scratch) (houtside : ¬ r.out <+: env.scratch) :
    runVerify env root i outDir u = (.ok .silent, u) := by
  obtain ⟨b, hw⟩ := r.exists_written henv
  have hnames : ∀ name ∈ root, name.utf8ByteSize ≤ FileTree.maxName := by
    cases outDir with
    | some word => exact hshort rfl
    -- the run itself went through the project to the directory below it
    | none => exact r.short_of_written hroot hw rfl
  have hload := r.loadConfig_of_written ht hroot hw hnames
  have hrequest := request_of_places r.places root r.config
  have hverify := r.verifyAt_of_written henv hw hold hin hscratch houtside
  simp only [runVerify, hload, r.chosen, hrequest, hverify]

theorem artifactsPlace?_eq (r : ResolveRun env root i outDir t u) (verbose : Bool) :
    (Task.resolve i outDir verbose).artifactsPlace? env root t = some r.out :=
  artifactsPlace?_of_loaded r.loaded r.chosen

theorem mem_inputPlaces (r : ResolveRun env root i outDir t u) (verbose : Bool) {s : Location}
    (hs : s ∈ [r.snapshotPlace, r.callsPlace]) :
    s ∈ (Task.resolve i outDir verbose).inputPlaces env := by
  rwa [inputPlaces_of_places r.places]

end ResolveRun

end CallAttribution.CommandLine
