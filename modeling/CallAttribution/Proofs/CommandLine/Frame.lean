import CallAttribution.Proofs.CommandLine.ResolveRun
import CallAttribution.Proofs.Likeness

/-!
# The files that commands leave alone

Of the three commands only the one that makes artifacts leaves something behind, and it does so only
once it is ready: the configuration, the places of its inputs, the inputs and the directory have all
been accepted. Then it changes no file but two of this directory, even if writing fails on the way,
and what these two held before does not matter. What a verification writes is gone when it ends. The
files that no command of a sequence has for its own are left as they are by the whole sequence.
-/

namespace CallAttribution

namespace FileTree

variable {t u : FileTree}

/-- What the file at a place holds, if there is a file. -/
def content? (t : FileTree) (l : Location) : Option Bytes :=
  match t.node? l with
  | some (.file b) => some b
  | _ => none

theorem content?_eq_some_iff {l : Location} {b : Bytes} :
    t.content? l = some b ↔ t.node? l = some (.file b) := by
  rw [content?]
  rcases t.node? l with _ | _ | _ <;> simp

theorem Grown.content?_eq (h : Grown t u) (l : Location) : u.content? l = t.content? l := by
  rcases h l with hl | ⟨ht, hu⟩
  · rw [content?, content?, hl]
  · rw [content?, content?, ht, hu]

theorem content?_of_write {p : Path} {b : Bytes} (h : t.write p b = .ok u) {l : Location}
    (hl : l ≠ Path.walk [] p.parts) : u.content? l = t.content? l := by
  obtain ⟨k, hk, hn, rfl⟩ := write_eq_ok.mp h
  rw [← eq_walk_of_enter (locate_eq_ok.mp hk).2] at hl
  rw [content?, content?, node?_set _ _ _ _ (ne_nil_of_node? hn), if_neg hl.symm]

end FileTree

theorem Path.IsName.walk_child {s : String} (h : IsName s) (l : Location) (p : Path) :
    walk l (p.child s).parts = walk l p.parts ++ [s] := by
  rw [h.child, walk_append]
  exact follow_of_ne h.ne_up _

namespace Artifact

/-- The places of the two files in a directory. -/
def places (d : Location) : List Location :=
  [d ++ [recordsFile], d ++ [summaryFile]]

theorem mem_places {d l : Location} :
    l ∈ places d ↔ l = d ++ [recordsFile] ∨ l = d ++ [summaryFile] :=
  List.mem_pair

/-- Writing artifacts changes no other file, however far it gets. -/
theorem content?_write (t : FileTree) (dir : Path) (o : Outcome) {l : Location}
    (hl : l ∉ places (Path.walk [] dir.parts)) : (write t dir o).2.content? l = t.content? l := by
  rw [mem_places, not_or] at hl
  rw [← recordsFile_isName.walk_child, ← summaryFile_isName.walk_child] at hl
  have hmade := (t.grown_makeDirectories dir).content?_eq l
  generalize hw : write t dir o = x
  obtain ⟨r, u⟩ := x
  cases writes_of_write hw with
  | unmade hmake | unopened hmake _ => rwa [hmake] at hmade
  | cut hmake hrecords _ | uncounted hmake hrecords _ | unsummarized hmake hrecords _ =>
    rw [hmake] at hmade
    exact (FileTree.content?_of_write hrecords hl.1).trans hmade
  | done hmake hrecords _ hdone =>
    rw [hmake] at hmade
    exact (FileTree.content?_of_write hdone hl.2).trans
      ((FileTree.content?_of_write hrecords hl.1).trans hmade)

/-- Files are not written over directories. -/
theorem ne_directory_of_write {t u : FileTree} {dir : Path} {o : Outcome} {files : List Path}
    (h : write t dir o = (.ok files, u)) {l : Location}
    (hl : l ∈ places (Path.walk [] dir.parts)) : t.node? l ≠ some .directory := by
  obtain ⟨d, b, hw⟩ := exists_written h
  have hd := FileTree.eq_walk_of_enter (FileTree.locate_eq_ok.mp hw.located).2
  subst hd
  intro hdir
  have hu := hw.keeps l hdir
  rcases mem_places.mp hl with rfl | rfl
  · rw [hw.records] at hu
    cases hu
  · rw [hw.summary] at hu
    cases hu

/-- Once both files have been written, they hold what the outcome says and not what they held
before. -/
theorem node?_eq_of_write {t t' u u' : FileTree} {dir : Path} {o : Outcome}
    {files files' : List Path} (h : write t dir o = (.ok files, u))
    (h' : write t' dir o = (.ok files', u')) {l : Location}
    (hl : l ∈ places (Path.walk [] dir.parts)) : u.node? l = u'.node? l := by
  obtain ⟨d, b, hw⟩ := exists_written h
  obtain ⟨d', b', hw'⟩ := exists_written h'
  have hd := FileTree.eq_walk_of_enter (FileTree.locate_eq_ok.mp hw.located).2
  have hd' := FileTree.eq_walk_of_enter (FileTree.locate_eq_ok.mp hw'.located).2
  have hb : b = b' := Option.some.inj (hw.encoded.symm.trans hw'.encoded)
  subst hd hd' hb
  rcases mem_places.mp hl with rfl | rfl
  · rw [hw.records, hw'.records]
  · rw [hw.summary, hw'.summary]

end Artifact

namespace Likeness

/-- Files at some places may differ, or be there in one tree only. -/
def filesAt (ps : List Location) : Likeness where
  rel l n m := n = m ∨ l ∈ ps ∧ n ≠ some .directory ∧ m ≠ some .directory
  refl _ _ := Or.inl rfl
  directory := by
    rintro l n m (rfl | ⟨-, hn, hm⟩)
    · rfl
    · simp [hn, hm]

variable {ps : List Location}

theorem firm_filesAt {l : Location} (h : l ∉ ps) : (filesAt ps).Firm l := by
  rintro n m (rfl | ⟨hl, -⟩)
  · rfl
  · exact absurd hl h

variable {t u : FileTree} (h : (filesAt ps).Holds t u)
include h

theorem Holds.node?_eq {l : Location} (hl : l ∉ ps) : t.node? l = u.node? l :=
  (h l).resolve_right fun hp => hl hp.1

theorem Holds.read_of_read {p : Path} {b : Bytes} (hr : t.read p = .ok b)
    (hp : Path.walk [] p.parts ∉ ps) : u.read p = .ok b := by
  obtain ⟨l, hl, hb⟩ := FileTree.read_eq_ok.mp hr
  have hwalk := FileTree.eq_walk_of_enter (FileTree.locate_eq_ok.mp hl).2
  rw [← hwalk] at hp
  exact FileTree.read_eq_ok.mpr ⟨l, h.keepsDirectories.locate hl, h.node?_eq hp ▸ hb⟩

theorem Holds.loadConfig_eq {root : Path}
    (hp : Path.walk [] (root.child Project.configFile).parts ∉ ps) :
    Project.loadConfig t root = Project.loadConfig u root := by
  rw [Project.loadConfig_eq_of_stat?, Project.loadConfig_eq_of_stat?,
    h.stat?_eq_of_node? (h.node?_eq hp)]

end Likeness

theorem exists_read_of_readJson {t : FileTree} {p : Path} {v : Value}
    (h : Input.readJson t p = .ok v) : ∃ b, t.read p = .ok b := by
  rw [Input.readJson] at h
  split at h
  · cases h
  · cases h
  · next b hb => exact ⟨b, hb⟩

theorem exists_reads_of_prepare {r : Request} {t : FileTree} {p : Prepared}
    (h : r.prepare t = .ok p) :
    (∃ b, t.read r.snapshot = .ok b) ∧ ∃ b, t.read r.calls = .ok b := by
  obtain ⟨c, -, h⟩ := bind_eq_ok.mp h
  obtain ⟨dir, -, h⟩ := bind_eq_ok.mp h
  obtain ⟨s, hs, h⟩ := bind_eq_ok.mp h
  obtain ⟨b, hb, -⟩ := bind_eq_ok.mp h
  obtain ⟨v, hv, -⟩ := bind_eq_ok.mp (mapError_eq_ok.mp hs)
  obtain ⟨w, hw, -⟩ := bind_eq_ok.mp (mapError_eq_ok.mp hb)
  exact ⟨exists_read_of_readJson hv, exists_read_of_readJson hw⟩

namespace CommandLine

/-- Everything that is checked before artifacts are written has been accepted. -/
structure Ready (env : Environment) (root : Location) (i : Inputs) (outDir : Option String)
    (t : FileTree) where
  config : Config
  request : Request
  prepared : Prepared
  loaded : Project.loadConfig t (.ofLocation root) = .ok config
  requested : i.request env root config outDir = .ok request
  accepted : request.prepare t = .ok prepared

variable {env : Environment} {root : Location} {i : Inputs} {outDir : Option String}
  {t : FileTree}

/-- Unless everything is accepted nothing is written, and an answer is a refusal. -/
theorem runResolve_of_not_ready (h : IsEmpty (Ready env root i outDir t)) (verbose : Bool) :
    (runResolve env root i outDir verbose t).2 = t ∧
      ∀ reply, (runResolve env root i outDir verbose t).1 = .ok reply → reply.status = 2 := by
  rw [runResolve]
  split
  · exact ⟨rfl, fun reply => status_of_replyToFailure⟩
  · next c hc =>
    split
    · exact ⟨rfl, fun reply hr => by cases hr⟩
    · next r hr =>
      rcases hp : r.prepare t with e | p
      · simp only [generate, hp]
        exact ⟨trivial, fun reply => status_of_replyToFailure⟩
      · exact (h.false ⟨c, r, p, hc, hr, hp⟩).elim

namespace Ready

variable (r : Ready env root i outDir t) (verbose : Bool)

def traced : Bool :=
  verbose || r.config.trace.enabled

/-- What is handed out on the way, and the outcome that is written. -/
def narrated : List Event × Outcome :=
  r.prepared.run (if r.traced verbose then some (.fresh r.config.trace.throttle) else none)

def written : Except WriteError (List Path) × FileTree :=
  Artifact.write t r.prepared.outputDir (r.narrated verbose).2

def reply (written : Except WriteError (List Path)) : Except RunError Reply :=
  answer (r.traced verbose) verbose <| (written.mapError .write).map fun files =>
    ⟨(r.narrated verbose).2.summary, files, (r.narrated verbose).1⟩

theorem runResolve_eq : runResolve env root i outDir verbose t =
    (r.reply verbose (r.written verbose).1, (r.written verbose).2) := by
  rw [runResolve_eq_answer r.loaded r.requested]
  simp only [generate_of_prepare r.accepted]
  rfl

theorem status_of_reply {x : Except WriteError (List Path)} {reply : Reply}
    (h : r.reply verbose x = .ok reply) : reply.status = 0 := by
  cases x with
  | error e => cases h
  | ok files =>
    cases h
    rfl

/-- The place of the directory that is written to. -/
def out : Location :=
  r.prepared.outputDir.parts

theorem chosen (hroot : ".." ∉ root) : artifactsPlace env root r.config outDir = .ok r.out := by
  obtain ⟨s, b, o, -, ho, hr⟩ := request_eq_ok r.requested
  have haccepted := r.accepted
  rw [hr] at haccepted
  obtain ⟨hdir, -⟩ := prepare_eq_ok rfl haccepted
  obtain ⟨out, hout, hplace, -⟩ := artifactsPlace_of_chooseDir hroot ho hdir
  rw [hplace, Ready.out, hout]
  rfl

theorem artifactsPlace?_eq (hroot : ".." ∉ root) :
    (Task.resolve i outDir verbose).artifactsPlace? env root t = some r.out :=
  artifactsPlace?_of_loaded r.loaded (r.chosen hroot)

theorem walk_out (henv : env.Direct) (hroot : ".." ∉ root) :
    Path.walk [] r.prepared.outputDir.parts = r.out :=
  Path.walk_of_notMem (notMem_of_artifactsPlace henv (r.chosen hroot)) []

theorem mem_inputPlaces (henv : env.Direct) {p : Path}
    (hp : p ∈ [r.request.snapshot, r.request.calls]) :
    Path.walk [] p.parts ∈ (Task.resolve i outDir verbose).inputPlaces env := by
  obtain ⟨s, b, o, hplaces, -, hr⟩ := request_eq_ok r.requested
  obtain ⟨⟨_, -, hs⟩, ⟨_, -, hb⟩⟩ := places_eq_ok hplaces
  have hws : Path.walk [] s = s := Path.walk_of_notMem (henv.notMem_of_place hs) []
  have hwb : Path.walk [] b = b := Path.walk_of_notMem (henv.notMem_of_place hb) []
  rw [hr] at hp
  rw [inputPlaces_of_places hplaces]
  rcases List.mem_pair.mp hp with rfl | rfl
  · simp [Path.ofLocation, hws]
  · simp [Path.ofLocation, hwb]

variable {ps : List Location} {t' : FileTree}

/-- A run is as ready in another tree if neither its configuration nor its inputs differ. -/
theorem exists_ready (h : (Likeness.filesAt ps).Holds t t')
    (hconfig : Path.walk [] ((Path.ofLocation root).child Project.configFile).parts ∉ ps)
    (hinputs : ∀ p ∈ [r.request.snapshot, r.request.calls], Path.walk [] p.parts ∉ ps) :
    ∃ r' : Ready env root i outDir t', r'.config = r.config ∧ r'.prepared = r.prepared := by
  obtain ⟨⟨s, hs⟩, ⟨b, hb⟩⟩ := exists_reads_of_prepare r.accepted
  obtain ⟨_, _, _, -, -, hr⟩ := request_eq_ok r.requested
  have hs' := h.read_of_read hs (hinputs _ (by simp))
  have hb' := h.read_of_read hb (hinputs _ (by simp))
  have hprepare : r.request.prepare t = r.request.prepare t' :=
    prepare_congr (c := r.config) (by rw [hr]) (hs.trans hs'.symm) (hb.trans hb'.symm)
  have hload := h.loadConfig_eq hconfig
  exact ⟨⟨r.config, r.request, r.prepared, hload ▸ r.loaded, r.requested, hprepare ▸ r.accepted⟩,
    rfl, rfl⟩

theorem notMem_places_of_configFile (d : Location) : Path.walk []
    ((Path.ofLocation root).child Project.configFile).parts ∉ Artifact.places d := by
  rw [Project.configFile_isName.walk_child]
  intro hl
  rcases Artifact.mem_places.mp hl with hl | hl
  all_goals
    obtain ⟨-, hname⟩ := List.append_inj' hl rfl
    exact absurd (List.singleton_inj.mp hname) (by decide)

/-- The way to the directory does not lead through the files in it. -/
theorem firmAlong_out (henv : env.Direct) (hroot : ".." ∉ root) :
    (Likeness.filesAt (Artifact.places r.out)).FirmAlong r.prepared.outputDir.parts := by
  intro parts hparts
  refine Likeness.firm_filesAt fun hl => ?_
  have hup : ".." ∉ r.out := notMem_of_artifactsPlace henv (r.chosen hroot)
  rw [Path.walk_of_notMem (fun hm => hup (hparts.subset hm)), List.nil_append] at hl
  have hlength : parts.length ≤ r.out.length := hparts.length_le
  rcases Artifact.mem_places.mp hl with rfl | rfl
  all_goals
    rw [List.length_append, List.length_singleton] at hlength
    omega

/-- In a tree that differs in the two files only, the run has the same to write. -/
theorem runResolve_of_holds (henv : env.Direct)
    (h : (Likeness.filesAt (Artifact.places r.out)).Holds t t')
    (hin : ∀ l ∈ Artifact.places r.out, l ∉ (Task.resolve i outDir verbose).inputPlaces env) :
    let written := Artifact.write t' r.prepared.outputDir (r.narrated verbose).2
    runResolve env root i outDir verbose t' = (r.reply verbose written.1, written.2) := by
  obtain ⟨r', hc, hp⟩ := r.exists_ready h (notMem_places_of_configFile r.out)
    fun p hp hl => hin _ hl (r.mem_inputPlaces verbose henv hp)
  have htraced : r'.traced verbose = r.traced verbose := by
    rw [traced, traced, hc]
  have hnarrated : r'.narrated verbose = r.narrated verbose := by
    rw [narrated, narrated, htraced, hc, hp]
  have hreply : r'.reply verbose = r.reply verbose := by
    funext x
    simp only [reply, hnarrated, htraced]
  rw [r'.runResolve_eq, hreply, written, hnarrated, hp]

/-- A run that ends well has written both files. -/
theorem exists_files_of_reply {reply : Reply}
    (h : (runResolve env root i outDir verbose t).1 = .ok reply) :
    ∃ files, r.written verbose = (.ok files, (r.written verbose).2) := by
  rw [r.runResolve_eq] at h
  rcases hw : r.written verbose with ⟨e | files, u⟩
  · rw [hw] at h
    cases h
  · exact ⟨files, rfl⟩

/-- After a run that ends well, nothing is left of what the two files held before. -/
theorem runResolve_congr (henv : env.Direct) (hroot : ".." ∉ root) {reply : Reply}
    (hr : (runResolve env root i outDir verbose t).1 = .ok reply)
    (hin : ∀ l ∈ Artifact.places r.out, l ∉ (Task.resolve i outDir verbose).inputPlaces env)
    (hrest : ∀ l ∉ Artifact.places r.out, t'.node? l = t.node? l)
    (hdir : ∀ l ∈ Artifact.places r.out, t'.node? l ≠ some .directory) :
    (runResolve env root i outDir verbose t').1 = .ok reply ∧
      ∀ l, (runResolve env root i outDir verbose t').2.node? l =
        (runResolve env root i outDir verbose t).2.node? l := by
  obtain ⟨files, hw⟩ := r.exists_files_of_reply verbose hr
  have hwalk := r.walk_out henv hroot
  have hholds : (Likeness.filesAt (Artifact.places r.out)).Holds t t' := by
    intro l
    by_cases hl : l ∈ Artifact.places r.out
    · exact Or.inr ⟨hl, Artifact.ne_directory_of_write hw (hwalk.symm ▸ hl), hdir l hl⟩
    · exact Or.inl (hrest l hl).symm
  obtain ⟨hanswer, htree⟩ :=
    hholds.writeArtifacts (r.firmAlong_out henv hroot) (r.narrated verbose).2
  rw [r.runResolve_eq] at hr ⊢
  rw [r.runResolve_of_holds verbose henv hholds hin]
  refine ⟨(congrArg (r.reply verbose) hanswer.symm).trans hr, fun l => ?_⟩
  by_cases hl : l ∈ Artifact.places r.out
  · have hw' := Artifact.write_eq_of_fst (hanswer.symm.trans (congrArg Prod.fst hw))
    exact (Artifact.node?_eq_of_write hw hw' (hwalk.symm ▸ hl)).symm
  · exact (htree.node?_eq hl).symm

end Ready

theorem toOption_eq_some {ε α : Type} {x : Except ε α} {a : α} :
    x.toOption = some a ↔ x = .ok a := by
  cases x <;> simp [Except.toOption]

/-- The directory that a command writes to. Only making artifacts writes, and only when everything
has been accepted. -/
def Invocation.target? (env : Environment) (v : Invocation) (t : FileTree) : Option Location :=
  match v.task with
  | .resolve i outDir _ => do
    let root ← (env.place v.root).toOption
    let c ← (Project.loadConfig t (.ofLocation root)).toOption
    let r ← (i.request env root c outDir).toOption
    let p ← (r.prepare t).toOption
    return p.outputDir.parts
  | .validate _ | .verify _ _ => none

theorem target?_eq_some_iff {word : String} {verbose : Bool} {out : Location} :
    Invocation.target? env ⟨word, .resolve i outDir verbose⟩ t = some out ↔
      ∃ root, env.place word = .ok root ∧ ∃ r : Ready env root i outDir t, r.out = out := by
  simp only [Invocation.target?, Option.bind_eq_bind, Option.bind_eq_some_iff, toOption_eq_some,
    Option.pure_def, Option.some.injEq]
  constructor
  · rintro ⟨root, hroot, c, hc, r, hr, p, hp, rfl⟩
    exact ⟨root, hroot, ⟨c, r, p, hc, hr, hp⟩, rfl⟩
  · rintro ⟨root, hroot, ⟨c, r, p, hc, hr, hp⟩, rfl⟩
    exact ⟨root, hroot, c, hc, r, hr, p, hp, rfl⟩

section Frame

variable (ht : t.Rooted) (hscratch : ".." ∉ env.scratch)
include ht hscratch

/-- A command without such a directory leaves the tree as it is. -/
theorem run_of_target?_eq_none {v : Invocation} (h : v.target? env t = none) :
    (v.run env t).2 = t := by
  obtain ⟨word, task⟩ := v
  rw [Invocation.run]
  split
  · rfl
  · next root hroot =>
    cases task with
    | validate artifacts => rfl
    | verify i artifacts => exact runVerify_snd ht hscratch root i artifacts
    | resolve i outDir verbose =>
      have hnot : IsEmpty (Ready env root i outDir t) := ⟨fun r => by
        rw [target?_eq_some_iff.mpr ⟨root, hroot, r, rfl⟩] at h
        cases h⟩
      exact (runResolve_of_not_ready hnot verbose).1

/-- A command with such a directory changes no file but the two in it. -/
theorem content?_run (henv : env.Direct) (v : Invocation) {l : Location}
    (hl : ∀ out ∈ v.target? env t, l ∉ Artifact.places out) :
    (v.run env t).2.content? l = t.content? l := by
  rcases htarget : v.target? env t with _ | out
  · rw [run_of_target?_eq_none ht hscratch htarget]
  · obtain ⟨word, task⟩ := v
    have hlout := hl out htarget
    cases task with
    | validate artifacts => cases htarget
    | verify i artifacts => cases htarget
    | resolve i outDir verbose =>
      obtain ⟨root, hroot, r, rfl⟩ := target?_eq_some_iff.mp htarget
      rw [← r.walk_out henv (henv.notMem_of_place hroot)] at hlout
      simp only [Invocation.run, hroot, r.runResolve_eq]
      exact Artifact.content?_write t r.prepared.outputDir _ hlout

end Frame

/-- Artifacts are written to the place that the command names or that is configured. -/
theorem artifactsPlace?_of_target? (henv : env.Direct) {v : Invocation} {out : Location}
    (h : v.target? env t = some out) : ∃ root, env.place v.root = .ok root ∧
      v.task.artifactsPlace? env root t = some out := by
  obtain ⟨word, task⟩ := v
  cases task with
  | validate artifacts => cases h
  | verify i artifacts => cases h
  | resolve i outDir verbose =>
    obtain ⟨root, hroot, r, rfl⟩ := target?_eq_some_iff.mp h
    exact ⟨root, hroot, r.artifactsPlace?_eq verbose (henv.notMem_of_place hroot)⟩

/-- A command that has come to write does not end with a refusal. -/
theorem target?_eq_none_of_refused {v : Invocation} {reply : Reply}
    (h : (v.run env t).1 = .ok reply) (hs : reply.status = 2) : v.target? env t = none := by
  refine Option.eq_none_iff_forall_ne_some.mpr fun out htarget => ?_
  obtain ⟨word, task⟩ := v
  cases task with
  | validate artifacts => cases htarget
  | verify i artifacts => cases htarget
  | resolve i outDir verbose =>
    obtain ⟨root, hroot, r, -⟩ := target?_eq_some_iff.mp htarget
    simp only [Invocation.run, hroot, r.runResolve_eq] at h
    rw [r.status_of_reply verbose h] at hs
    cases hs

/-- Making artifacts ends well only if everything has been accepted. -/
theorem exists_ready_of_status {word : String} {verbose : Bool} {reply : Reply}
    (h : (Invocation.run env ⟨word, .resolve i outDir verbose⟩ t).1 = .ok reply)
    (hs : reply.status = 0) :
    ∃ root, env.place word = .ok root ∧ Nonempty (Ready env root i outDir t) := by
  rw [Invocation.run] at h
  split at h
  · cases h
  · next root hroot =>
    refine ⟨root, hroot, not_isEmpty_iff.mp fun hnot => ?_⟩
    rw [(runResolve_of_not_ready hnot verbose).2 reply h] at hs
    cases hs

/-- What a sequence of commands leaves, each given in an environment of its own. -/
def runAll : List (Environment × Invocation) → FileTree → FileTree
  | [], t => t
  | (env, v) :: cs, t => runAll cs (v.run env t).2

/-- The directories that the commands of a sequence write to. -/
def targets : List (Environment × Invocation) → FileTree → List Location
  | [], _ => []
  | (env, v) :: cs, t => (v.target? env t).toList ++ targets cs (v.run env t).2

/-- By induction along the sequence: each command leaves the file alone and the tree rooted, and
what it leaves is where the next one starts. -/
theorem content?_runAll {cs : List (Environment × Invocation)}
    (hcs : ∀ c ∈ cs, c.1.Direct ∧ ".." ∉ c.1.scratch) (ht : t.Rooted) {l : Location}
    (hl : ∀ out ∈ targets cs t, l ∉ Artifact.places out) :
    (runAll cs t).content? l = t.content? l := by
  induction cs generalizing t with
  | nil => rfl
  | cons c cs ih =>
    obtain ⟨env, v⟩ := c
    obtain ⟨⟨henv, hscratch⟩, hrest⟩ := List.forall_mem_cons.mp hcs
    simp only [targets, List.mem_append, Option.mem_toList] at hl
    rw [runAll, ih hrest (rooted_run ht hscratch v) fun out hout => hl out (Or.inr hout)]
    exact content?_run ht hscratch henv v fun out hout => hl out (Or.inl hout)

/-- Checking leaves the tree as it was, whatever comes out, and so does a command that ends with
status 2. Artifacts are made at the place that the command names or that is configured; a command
that ends well changes no file but the two there, and unless it reads one of them, it gives the same
answer and leaves the same tree whatever they held before, if anything. So after any sequence of
commands a file is as it was, unless it is one of these two in a directory that some command has
written to. -/
theorem commands_keep_files (henv : env.Direct) (hscratch : ".." ∉ env.scratch) (v : Invocation)
    (ht : t.Rooted) :
    ((∀ i outDir verbose, v.task ≠ .resolve i outDir verbose) → (v.run env t).2 = t) ∧
      (∀ reply, (v.run env t).1 = .ok reply → reply.status = 2 → (v.run env t).2 = t) ∧
      (∀ out, v.target? env t = some out → ∃ root, env.place v.root = .ok root ∧
        v.task.artifactsPlace? env root t = some out) ∧
      (∀ i outDir verbose reply, v.task = .resolve i outDir verbose →
        (v.run env t).1 = .ok reply → reply.status = 0 → ∃ out, v.target? env t = some out ∧
          (∀ l ∉ Artifact.places out, (v.run env t).2.content? l = t.content? l) ∧
          ((∀ l ∈ Artifact.places out, l ∉ v.task.inputPlaces env) → ∀ t' : FileTree,
            (∀ l ∉ Artifact.places out, t'.node? l = t.node? l) →
            (∀ l ∈ Artifact.places out, t'.node? l ≠ some .directory) →
            (v.run env t').1 = .ok reply ∧
              ∀ l, (v.run env t').2.node? l = (v.run env t).2.node? l)) ∧
      ∀ cs : List (Environment × Invocation), (∀ c ∈ cs, c.1.Direct ∧ ".." ∉ c.1.scratch) → ∀ l,
        (∀ out ∈ targets cs t, l ∉ Artifact.places out) →
          (runAll cs t).content? l = t.content? l := by
  refine ⟨fun hcheck => run_of_target?_eq_none ht hscratch ?_, fun reply hr hs =>
    run_of_target?_eq_none ht hscratch (target?_eq_none_of_refused hr hs), fun out =>
    artifactsPlace?_of_target? henv, ?_, fun cs hcs l => content?_runAll hcs ht⟩
  · unfold Invocation.target?
    split
    · next i outDir verbose htask => exact absurd htask (hcheck i outDir verbose)
    · rfl
    · rfl
  · intro i outDir verbose reply htask hr hs
    obtain ⟨word, task⟩ := v
    obtain rfl : task = .resolve i outDir verbose := htask
    obtain ⟨root, hroot, ⟨r⟩⟩ := exists_ready_of_status hr hs
    have htarget : Invocation.target? env ⟨word, .resolve i outDir verbose⟩ t = some r.out :=
      target?_eq_some_iff.mpr ⟨root, hroot, r, rfl⟩
    refine ⟨r.out, htarget, fun l hl => content?_run ht hscratch henv _ fun out hout => ?_,
      fun hin t' hrest hdir => ?_⟩
    · rw [htarget] at hout
      cases hout
      exact hl
    · simp only [Invocation.run, hroot] at hr ⊢
      exact r.runResolve_congr verbose henv (henv.notMem_of_place hroot) hr hin hrest hdir

/-- Old records are overwritten as if they had not been there, and notes beside them outlive both
the run and its checks. -/
theorem commands_keep_files_beside :
    let env : Environment := ⟨some ["W"], none, [], ["scratch"]⟩
    let t : FileTree := ⟨[(["W"], .directory), (["W", "d.json"], .file (Text.encode "\x7b\x7d")),
      (["W", "c.json"], .file (Text.encode "\x7b\x7d")), (["W", "out"], .directory),
      (["W", "out", "notes"], .file [0x21])], by decide⟩
    let old : FileTree := t.set ["W", "out", "resolutions.jsonl"] (.file [0x3f])
    let i : Inputs := ⟨some "d.json", some "c.json"⟩
    let v : Invocation := ⟨".", .resolve i (some "out") true⟩
    let cs := [(env, v), (env, ⟨".", .validate (some "out")⟩),
      (env, ⟨".", .verify i (some "out")⟩)]
    env.Direct ∧ t.Rooted ∧ (∀ c ∈ cs, c.1.Direct ∧ ".." ∉ c.1.scratch) ∧
      ∃ reply, (v.run env t).1 = .ok reply ∧ reply.status = 0 ∧
      v.target? env t = some ["W", "out"] ∧
      targets cs t = [["W", "out"]] ∧
      (v.run env old).1 = .ok reply ∧
      (∀ l, (v.run env old).2.node? l = (v.run env t).2.node? l) ∧
      (runAll cs t).content? ["W", "out", "notes"] = some [0x21] := by
  intro env t old i v cs
  have henv : env.Direct := Environment.direct_of_directory (by decide)
  have ht : t.Rooted := FileTree.rooted_of_nodes (by decide)
  have hscratch : ".." ∉ env.scratch := by decide
  have hcs : ∀ c ∈ cs, c.1.Direct ∧ ".." ∉ c.1.scratch := by simp [cs, henv, hscratch]
  have hreply : (v.run env t).1.map Reply.status = .ok 0 := by decide +kernel
  obtain ⟨reply, hr, hs⟩ := exists_of_map_eq_ok hreply
  have htarget : v.target? env t = some ["W", "out"] := by decide +kernel
  have htargets : targets cs t = [["W", "out"]] := by decide +kernel
  obtain ⟨-, -, -, hresolve, hall⟩ := commands_keep_files henv hscratch v ht
  obtain ⟨out, hout, -, hold⟩ := hresolve i (some "out") true reply rfl hr hs
  obtain rfl : out = ["W", "out"] := Option.some.inj (hout.symm.trans htarget)
  have hrest : ∀ l ∉ Artifact.places ["W", "out"], old.node? l = t.node? l := by
    intro l hl
    rw [FileTree.node?_set _ _ _ _ (by decide), if_neg]
    rintro rfl
    exact hl (by decide)
  obtain ⟨hanswer, htree⟩ := hold (by decide +kernel) old hrest (by decide)
  refine ⟨henv, ht, hcs, reply, hr, hs, htarget, htargets, hanswer, htree, ?_⟩
  rw [hall cs hcs _ (by rw [htargets]; decide)]
  rfl

end CommandLine

end CallAttribution
