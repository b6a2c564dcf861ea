import CallAttribution.Proofs.CommandLine.ResolveRun
import CallAttribution.Proofs.Likeness
import CallAttribution.Proofs.Opening
import CallAttribution.Proofs.Selection
import CallAttribution.Proofs.Table

/-!
# The trace changes nothing

Whether the trace is shown, and after how many lines showing it gives way, is settled by a switch
and by the configuration. Two runs that differ in this alone are compared, on trees whose
configurations differ in the settings of the trace. They go through the same checks, and end in the
same way with the same output and the same files. An input that is the configuration itself is
refused in both runs, since no text is both a configuration and an input.
-/

namespace CallAttribution

open Schema

namespace Config

/-- Two documents with the same members other than the settings of the trace, which are right
where they are given. -/
structure SameButTrace (d d' : Table Value) : Prop where
  others : ∀ key, key ≠ "trace" → d.get? key = d'.get? key
  accepted : ∀ v, d.get? "trace" = some v → ∃ s, TraceSettings.shape v = .accepted s
  accepted' : ∀ v, d'.get? "trace" = some v → ∃ s, TraceSettings.shape v = .accepted s

variable {d d' : Table Value} {c : Config}

theorem SameButTrace.symm (h : SameButTrace d d') : SameButTrace d' d :=
  ⟨fun key hk => (h.others key hk).symm, h.accepted', h.accepted⟩

theorem defaulted_congr {α : Type} {key : String} (h : d.get? key = d'.get? key) (a : α)
    (f : Value → Checked α) : defaulted key a f d = defaulted key a f d' := by
  rw [defaulted, defaulted, h]

theorem SameButTrace.unexpected_eq_nil (h : SameButTrace d d')
    (hd : unexpected known d = []) : unexpected known d' = [] := by
  rw [unexpected_eq_nil_iff] at hd ⊢
  intro key hkey
  by_cases hk : key = "trace"
  · subst hk
    decide
  · rw [Table.mem_keys_iff, ← h.others key hk, ← Table.mem_keys_iff] at hkey
    exact hd key hkey

theorem SameButTrace.exists_trace (h : SameButTrace d d') :
    ∃ s, defaulted "trace" default.trace TraceSettings.shape d' = .accepted s := by
  rcases hv : d'.get? "trace" with _ | v
  · exact ⟨default.trace, by simp [defaulted, hv]⟩
  · obtain ⟨s, hs⟩ := h.accepted' v hv
    exact ⟨s, by simp [defaulted, hv, hs]⟩

/-- If one of the documents is accepted then so is the other, as the same configuration apart from
the trace. -/
theorem SameButTrace.shape_eq (h : SameButTrace d d') (hc : shape (.obj d) = .accepted c) :
    ∃ s, shape (.obj d') = .accepted { c with trace := s } := by
  obtain ⟨hd, ho, hh, hp, -⟩ := shape_eq_accepted_iff.mp hc
  obtain ⟨s, hs⟩ := h.exists_trace
  refine ⟨s, shape_eq_accepted_iff.mpr ⟨h.unexpected_eq_nil hd, ?_, ?_, ?_, hs⟩⟩
  · rw [← ho, defaulted_congr (h.others _ (by decide))]
  · rw [← hh, defaulted_congr (h.others _ (by decide))]
  · rw [← hp, defaulted_congr (h.others _ (by decide))]

end Config

namespace Project

/-- Two configuration files that differ in the settings of the trace at most. Either may be written
in its own way; if they cannot be read, then for the same reason. -/
inductive Retraced : Bytes → Bytes → Prop
  | same (b : Bytes) : Retraced b b
  | unread {b b' : Bytes} {cs cs' : List Char} {e : Toml.Error} (hb : Text.decode? b = some cs)
    (hb' : Text.decode? b' = some cs') (h : Toml.read cs = .error e)
    (h' : Toml.read cs' = .error e) : Retraced b b'
  | settings {b b' : Bytes} {cs cs' : List Char} {d d' : Table Value}
    (hb : Text.decode? b = some cs) (hb' : Text.decode? b' = some cs') (h : Toml.read cs = .ok d)
    (h' : Toml.read cs' = .ok d') (hd : Config.SameButTrace d d') : Retraced b b'

/-- Two configurations that differ in the trace at most, two wrong configurations, or the same
failure. -/
inductive LoadedAlike : Except ProjectError Config → Except ProjectError Config → Prop
  | accepted (c : Config) (s : TraceSettings) : LoadedAlike (.ok c) (.ok { c with trace := s })
  | wrong (e e' : ConfigError) : LoadedAlike (.error (.config e)) (.error (.config e'))
  | failed (e : ProjectError) : LoadedAlike (.error e) (.error e)

theorem LoadedAlike.refl : (x : Except ProjectError Config) → LoadedAlike x x
  | .ok c => .accepted c c.trace
  | .error e => .failed e

theorem loadedAlike_configOf {d d' : Table Value} (h : Config.SameButTrace d d') (p : Path) :
    LoadedAlike ((configOf p d).mapError .config) ((configOf p d').mapError .config) := by
  rw [configOf, configOf]
  rcases hc : Config.shape (.obj d) with c | is
  · obtain ⟨s, hs⟩ := h.shape_eq hc
    rw [hs]
    exact .accepted c s
  · rcases hc' : Config.shape (.obj d') with c' | is'
    · obtain ⟨s, hs⟩ := h.symm.shape_eq hc'
      rw [hs] at hc
      cases hc
    · exact .wrong _ _

theorem loadedAlike_configOfBytes {b b' : Bytes} (h : Retraced b b') (p : Path) :
    LoadedAlike (configOfBytes p b) (configOfBytes p b') := by
  cases h with
  | same => exact .refl _
  | unread hb hb' h h' =>
    simp only [configOfBytes, hb, hb', h, h']
    exact .refl _
  | settings hb hb' h h' hd =>
    simp only [configOfBytes, hb, hb', h, h']
    exact loadedAlike_configOf hd p

end Project

namespace Likeness

/-- The configuration at a place may differ in the settings of the trace. -/
def retraced (place : Option Location) : Likeness where
  rel l n m := n = m ∨ place = some l ∧
    ∃ b b', n = some (.file b) ∧ m = some (.file b') ∧ Project.Retraced b b'
  refl _ _ := Or.inl rfl
  directory := by
    rintro l n m (rfl | ⟨-, b, b', rfl, rfl, -⟩)
    · rfl
    · simp

variable {place : Option Location}

theorem firm_retraced (l : Location) : (retraced place).Firm l := by
  rintro n m (rfl | ⟨-, b, b', rfl, rfl, -⟩)
  · rfl
  · rfl

theorem firmAlong_retraced (parts : List String) : (retraced place).FirmAlong parts :=
  fun _ _ => firm_retraced _

variable {t t' : FileTree} (h : (retraced place).Holds t t')
include h

theorem Holds.node?_eq_elsewhere {l : Location} (hl : place ≠ some l) :
    t.node? l = t'.node? l :=
  (h l).resolve_right fun hp => hl hp.1

theorem Holds.loadedAlike (root : Path) :
    Project.LoadedAlike (Project.loadConfig t root) (Project.loadConfig t' root) := by
  rw [Project.loadConfig_eq_of_stat?, Project.loadConfig_eq_of_stat?, FileTree.stat?_eq,
    FileTree.stat?_eq, h.enter_eq fun _ _ _ => firm_retraced _]
  split_ifs
  · exact .refl _
  · rcases t'.enter [] (root.child Project.configFile).parts with f | l
    · cases f <;> exact .refl _
    · rcases h l with heq | ⟨-, b, b', hb, hb', hr⟩
      · simp only [heq]
        exact .refl _
      · simp only [hb, hb']
        exact Project.loadedAlike_configOfBytes hr _

/-- A file is read with the same result unless it is the configuration. -/
theorem Holds.read_eq_or (p : Path) : t.read p = t'.read p ∨
    place = some (Path.walk [] p.parts) ∧ (∃ b, t.read p = .ok b) ∧ ∃ b', t'.read p = .ok b' := by
  have hlocate : t.locate p = t'.locate p := h.locate_eq (firmAlong_retraced _)
  rcases hl : t.locate p with e | l
  · rw [hl] at hlocate
    exact Or.inl (by simp [FileTree.read, FileTree.stat, hl, ← hlocate, bind, Except.bind])
  · have hwalk := FileTree.eq_walk_of_enter (FileTree.locate_eq_ok.mp hl).2
    rw [hl] at hlocate
    rcases h l with heq | ⟨hp, b, b', hb, hb', -⟩
    · exact Or.inl (by simp [FileTree.read, FileTree.stat, hl, ← hlocate, heq, bind, Except.bind])
    · exact Or.inr ⟨hwalk ▸ hp, ⟨b, FileTree.read_eq_ok.mpr ⟨l, hl, hb⟩⟩,
        ⟨b', FileTree.read_eq_ok.mpr ⟨l, hlocate.symm, hb'⟩⟩⟩

end Likeness

namespace Input

/-- Everything but objects is refused. -/
def TakesObjects {α : Type} (f : Value → Except InputError α) : Prop :=
  ∀ v, ¬ Json.IsObject v → ∃ e, f v = .error e ∧ e ≠ .badPath

theorem takesObjects_snapshotOf (p : Path) : TakesObjects (snapshotOf p) := by
  intro v hv
  cases v with
  | obj ms => exact absurd trivial hv
  | _ => exact ⟨_, rfl, by simp⟩

theorem takesObjects_batch (p : Path) : TakesObjects fun v =>
    ((CallBatch.shape v).toExcept "CallBatch").mapError (.badBatch p) := by
  intro v hv
  cases v with
  | obj ms => exact absurd trivial hv
  | _ => exact ⟨_, rfl, by simp⟩

theorem readJson_bind_of_toml {α : Type} {f : Value → Except InputError α} (hf : TakesObjects f)
    {t : FileTree} {p : Path} {b : Bytes} {cs : List Char} {d : Table Value}
    (hread : t.read p = .ok b) (hb : Text.decode? b = some cs) (h : Toml.read cs = .ok d) :
    ∃ e, readJson t p >>= f = .error e ∧ e ≠ .badPath := by
  rw [readJson, hread]
  rcases hv : Json.read? b with _ | v
  · exact ⟨.notJson p, by simp [hv, bind, Except.bind], by simp⟩
  · have hnot : ¬ Json.IsObject v := by
      cases v with
      | obj ms => exact absurd hv (read?_ne_obj_of_toml hb h)
      | _ => exact id
    obtain ⟨e, he, hne⟩ := hf v hnot
    exact ⟨e, by simp [hv, he, bind, Except.bind], hne⟩

end Input

theorem Project.exists_toml_of_loadConfig {t : FileTree} {root : Path} {b : Bytes} {c : Config}
    (hread : t.read (root.child configFile) = .ok b) (hc : loadConfig t root = .ok c) :
    ∃ cs d, Text.decode? b = some cs ∧ Toml.read cs = .ok d := by
  rw [loadConfig_eq_of_stat?, FileTree.stat?_of_read hread] at hc
  change configOfBytes _ b = .ok c at hc
  rw [configOfBytes] at hc
  split at hc
  · cases hc
  · next cs hcs =>
    split at hc
    · cases hc
    · cases hc
    · next d hd => exact ⟨cs, d, hcs, hd⟩

namespace CommandLine

/-- What an answer tells without its notices: the status and the output. -/
def told (x : Except RunError Reply) : Except RunError (Nat × List String) :=
  x.map fun r => (r.status, r.output)

/-- Two results that are the same, or two failures of which the same is told. -/
inductive ToldAlike {α : Type} : Except Failure α → Except Failure α → Prop
  | ok (a : α) : ToldAlike (.ok a) (.ok a)
  | error {e e' : Failure} (h : told (replyToFailure e) = told (replyToFailure e')) :
    ToldAlike (.error e) (.error e')

namespace ToldAlike

variable {α β : Type} {x y : Except Failure α}

theorem refl : (x : Except Failure α) → ToldAlike x x
  | .ok a => .ok a
  | .error _ => .error rfl

theorem bind {f g : α → Except Failure β} (h : ToldAlike x y) (hf : ∀ a, ToldAlike (f a) (g a)) :
    ToldAlike (x >>= f) (y >>= g) := by
  cases h with
  | ok a => exact hf a
  | error h => exact .error h

end ToldAlike

theorem told_of_wrong (e : ConfigError) :
    told (replyToFailure (.project (.config e))) = .ok (2, []) :=
  rfl

theorem told_of_refused {e : InputError} (h : e ≠ .badPath) :
    told (replyToFailure (.input e)) = .ok (2, []) := by
  cases e with
  | badPath => exact absurd rfl h
  | _ => rfl

variable {env : Environment} {root : Location} {t t' : FileTree} {c c' : Config}

section Inputs

variable (h : (Likeness.retraced (some (root ++ [Project.configFile]))).Holds t t')
  (hc : Project.loadConfig t (.ofLocation root) = .ok c)
  (hc' : Project.loadConfig t' (.ofLocation root) = .ok c')
include h hc hc'

/-- An input is read alike, and refused if it is the configuration itself. -/
theorem toldAlike_input {α : Type} {f : Value → Except InputError α} (hf : Input.TakesObjects f)
    {s : Location} (hs : ".." ∉ s) :
    ToldAlike ((Input.readJson t (.ofLocation s) >>= f).mapError .input)
      ((Input.readJson t' (.ofLocation s) >>= f).mapError .input) := by
  rcases h.read_eq_or (.ofLocation s) with heq | ⟨hplace, ⟨b, hb⟩, ⟨b', hb'⟩⟩
  · rw [Input.readJson, Input.readJson, heq]
    exact .refl _
  · have hwalk : Path.walk [] s = s := Path.walk_of_notMem hs []
    obtain rfl : root ++ [Project.configFile] = s := (Option.some.inj hplace).trans hwalk
    have hpath : Path.ofLocation (root ++ [Project.configFile]) =
        (Path.ofLocation root).child Project.configFile :=
      (Project.configFile_isName.child (.ofLocation root)).symm
    rw [hpath] at hb hb' ⊢
    obtain ⟨cs, d, hcs, hd⟩ := Project.exists_toml_of_loadConfig hb hc
    obtain ⟨cs', d', hcs', hd'⟩ := Project.exists_toml_of_loadConfig hb' hc'
    obtain ⟨e, he, hne⟩ := Input.readJson_bind_of_toml hf hb hcs hd
    obtain ⟨e', he', hne'⟩ := Input.readJson_bind_of_toml hf hb' hcs' hd'
    rw [he, he']
    exact .error ((told_of_refused hne).trans (told_of_refused hne').symm)

theorem toldAlike_prepare {s b : Location} (hs : ".." ∉ s) (hb : ".." ∉ b) (out : Option Path)
    (trace : TraceSettings) :
    ToldAlike
      (Request.prepare ⟨.ofLocation root, .ofLocation s, .ofLocation b, out, some c⟩ t)
      (Request.prepare ⟨.ofLocation root, .ofLocation s, .ofLocation b, out,
        some { c with trace := trace }⟩ t') := by
  rw [prepare_of_config rfl, prepare_of_config rfl]
  refine .bind (.refl (Request.chooseDir ⟨.ofLocation root, .ofLocation s, .ofLocation b, out,
    some c⟩ c)) fun dir => ?_
  refine .bind (toldAlike_input h hc hc' (Input.takesObjects_snapshotOf _) hs) fun snapshot => ?_
  exact .bind (toldAlike_input h hc hc' (Input.takesObjects_batch _) hb) fun batch => .ok _

end Inputs

/-- Two runs that have been prepared alike end alike, however they are narrated. -/
theorem told_generate {place : Option Location} (h : (Likeness.retraced place).Holds t t')
    {r r' : Request} (hp : ToldAlike (r.prepare t) (r'.prepare t'))
    (reporter reporter' : Option Reporter) (traced traced' verbose verbose' : Bool) :
    told (answer traced verbose (generate r reporter t).1) =
        told (answer traced' verbose' (generate r' reporter' t').1) ∧
      (Likeness.retraced place).Holds (generate r reporter t).2 (generate r' reporter' t').2 := by
  generalize hx : r.prepare t = x, hy : r'.prepare t' = y at hp
  cases hp with
  | error he =>
    simp only [generate, hx, hy]
    exact ⟨he, h⟩
  | ok p =>
    have hout : (p.run reporter).2 = (p.run reporter').2 := by
      rw [run_eq_outcome, run_eq_outcome, Engine.outcome_eq, Engine.outcome_eq]
    obtain ⟨hanswer, htree⟩ :=
      h.writeArtifacts (Likeness.firmAlong_retraced p.outputDir.parts) (p.run reporter').2
    simp only [generate_of_prepare hx, generate_of_prepare hy, hout, hanswer]
    refine ⟨?_, htree⟩
    rcases (Artifact.write t' p.outputDir (p.run reporter').2).1 with e | files <;> rfl

theorem request_of_config (env : Environment) (i : Inputs) (root : Location) (c c' : Config)
    (outDir : Option String) : i.request env root c' outDir =
      (i.request env root c outDir).map fun r => { r with config := some c' } := by
  rw [Inputs.request, Inputs.request]
  rcases i.places env with e | ⟨s, b⟩
  · rfl
  · rcases outDir.mapM env.place with e | o <;>
      simp [bind, Except.bind, pure, Except.pure, Except.map]

theorem runResolve_told_alike (henv : env.Direct)
    (h : (Likeness.retraced (some (root ++ [Project.configFile]))).Holds t t') (i : Inputs)
    (outDir : Option String) (verbose verbose' : Bool) :
    let x := runResolve env root i outDir verbose t
    let y := runResolve env root i outDir verbose' t'
    told x.1 = told y.1 ∧
      (Likeness.retraced (some (root ++ [Project.configFile]))).Holds x.2 y.2 := by
  have hload := h.loadedAlike (.ofLocation root)
  generalize hx : Project.loadConfig t (.ofLocation root) = x,
    hy : Project.loadConfig t' (.ofLocation root) = y at hload
  cases hload with
  | wrong e e' =>
    simp only [runResolve, hx, hy]
    exact ⟨(told_of_wrong e).trans (told_of_wrong e').symm, h⟩
  | failed e =>
    simp only [runResolve, hx, hy]
    exact ⟨trivial, h⟩
  | accepted c s =>
    have hrequest := request_of_config env i root c { c with trace := s } outDir
    rcases hr : i.request env root c outDir with e | r
    · rw [hr] at hrequest
      change _ = Except.error e at hrequest
      simp only [runResolve, hx, hy, hr, hrequest]
      exact ⟨trivial, h⟩
    · obtain ⟨p, b, o, hplaces, -, rfl⟩ := request_eq_ok hr
      obtain ⟨⟨_, -, hp⟩, ⟨_, -, hb⟩⟩ := places_eq_ok hplaces
      rw [hr] at hrequest
      have hprepare := toldAlike_prepare h hx hy (henv.notMem_of_place hp)
        (henv.notMem_of_place hb) (o.map .ofLocation) s
      rw [runResolve_eq_answer hx hr, runResolve_eq_answer hy hrequest]
      exact told_generate h hprepare _ _ _ _ _ _

/-- The place of the configuration of the project that a command names. -/
def Environment.configPlace? (env : Environment) (word : String) : Option Location :=
  (env.place word).toOption.map (· ++ [Project.configFile])

/-- Artifacts are made twice, with or without the trace being asked for, from trees that are the
same but for the settings of the trace in the configuration of the project. Then both runs end with
the same status and output or with the same failure, and leave the same at every other place. -/
theorem resolve_ignores_trace (henv : env.Direct) {word : String}
    (h : ∀ l, t.node? l = t'.node? l ∨ env.configPlace? word = some l ∧ ∃ b b',
      t.node? l = some (.file b) ∧ t'.node? l = some (.file b') ∧ Project.Retraced b b')
    (i : Inputs) (outDir : Option String) (verbose verbose' : Bool) :
    let x := Invocation.run env ⟨word, .resolve i outDir verbose⟩ t
    let y := Invocation.run env ⟨word, .resolve i outDir verbose'⟩ t'
    told x.1 = told y.1 ∧
      ∀ l, env.configPlace? word ≠ some l → x.2.node? l = y.2.node? l := by
  have hholds : (Likeness.retraced (env.configPlace? word)).Holds t t' := h
  rcases hroot : env.place word with e | root
  · simp only [Invocation.run, hroot]
    exact ⟨trivial, fun l hl => hholds.node?_eq_elsewhere hl⟩
  · have hplace : env.configPlace? word = some (root ++ [Project.configFile]) := by
      rw [Environment.configPlace?, hroot]
      rfl
    rw [hplace] at hholds ⊢
    simp only [Invocation.run, hroot]
    obtain ⟨htold, htree⟩ := runResolve_told_alike henv hholds i outDir verbose verbose'
    exact ⟨htold, fun l hl => htree.node?_eq_elsewhere hl⟩

/-- A document that holds nothing but right settings of the trace says as much as an empty one. -/
theorem sameButTrace_nil {d : Table Value} {s : TraceSettings} (hkeys : d.keys = ["trace"])
    (hs : (d.get? "trace").map TraceSettings.shape = some (.accepted s)) :
    Config.SameButTrace d [] where
  others key hkey := by
    have hnot : key ∉ d.keys := by simpa [hkeys] using hkey
    rw [Table.mem_keys_iff, Option.not_isSome_iff_eq_none] at hnot
    rw [hnot]
    rfl
  accepted v hv := by
    rw [hv, Option.map_some, Option.some.injEq] at hs
    exact ⟨s, hs⟩
  accepted' v hv := by cases hv

/-- One run shows every line of a call site and gives way after each third, the other shows
nothing and has an empty configuration. -/
theorem resolve_ignores_trace_enabled :
    let env : Environment := ⟨some ["W"], none, [], ["scratch"]⟩
    let place := ["W", "calltarget.toml"]
    let settings := "[trace]\nenabled = true\nthrottle_every = 3"
    let calls := "\x7b\"callers\":[\x7b\"address\":\"a\",\"calls\":[\x7b" ++
      "\"storageVariable\":\"v\",\"interfaceType\":\"I\",\"calledFunction\":\"f\"\x7d]\x7d]\x7d"
    let t : FileTree := ⟨[(["W"], .directory), (place, .file (Text.encode settings)),
      (["W", "d.json"], .file (Text.encode "\x7b\x7d")),
      (["W", "c.json"], .file (Text.encode calls))], by decide⟩
    let t' : FileTree := t.set place (.file [])
    let i : Inputs := ⟨some "d.json", some "c.json"⟩
    let v : Invocation := ⟨".", .resolve i none true⟩
    let v' : Invocation := ⟨".", .resolve i none false⟩
    env.Direct ∧ env.configPlace? "." = some place ∧
      Project.Retraced (Text.encode settings) [] ∧
      ∃ reply, (v.run env t).1 = .ok reply ∧ reply.status = 0 ∧
        reply.output = ["resolved 0/1 call(s), 1 unresolved"] ∧ reply.notices.isEmpty = false ∧
        told (v'.run env t').1 = .ok (reply.status, reply.output) ∧
        ∀ l, l ≠ place → (v.run env t).2.node? l = (v'.run env t').2.node? l := by
  intro env place settings calls t t' i v v'
  have henv : env.Direct := Environment.direct_of_directory (by decide)
  have hplace : env.configPlace? "." = some place := by decide +kernel
  have hretraced : Project.Retraced (Text.encode settings) [] := by
    have hview : (Toml.read settings.toList).map (fun d => (d.keys, d.get? "trace" |>.map fun v =>
        (TraceSettings.shape v).toExcept "" |>.toBool)) = .ok (["trace"], some true) := by
      decide +kernel
    obtain ⟨d, hd, hview⟩ := exists_of_map_eq_ok hview
    obtain ⟨hkeys, htrace⟩ := Prod.mk.inj hview
    obtain ⟨v, hv, hshape⟩ := Option.map_eq_some_iff.mp htrace
    obtain ⟨s, hs⟩ := exists_of_toBool hshape
    have haccepted := Schema.Checked.toExcept_eq_ok_iff.mp hs
    have hempty : Text.decode? [] = some [] := rfl
    have hread : Toml.read [] = .ok [] := rfl
    exact .settings (Text.decode?_encode settings) hempty hd hread
      (sameButTrace_nil hkeys (by rw [hv, Option.map_some, haccepted]))
  have h : ∀ l, t.node? l = t'.node? l ∨ env.configPlace? "." = some l ∧ ∃ b b',
      t.node? l = some (.file b) ∧ t'.node? l = some (.file b') ∧ Project.Retraced b b' := by
    intro l
    by_cases hl : place = l
    · subst hl
      exact Or.inr ⟨hplace, _, [], rfl, rfl, hretraced⟩
    · rw [FileTree.node?_set _ _ _ _ (by decide), if_neg hl]
      exact Or.inl rfl
  have hx : ((v.run env t).1.map fun r => (r.status, r.output, r.notices.isEmpty)) =
      .ok (0, ["resolved 0/1 call(s), 1 unresolved"], false) := by decide +kernel
  obtain ⟨reply, hreply, hview⟩ := exists_of_map_eq_ok hx
  obtain ⟨hstatus, houtput⟩ := Prod.mk.inj hview
  obtain ⟨houtput, hnotices⟩ := Prod.mk.inj houtput
  obtain ⟨htold, htree⟩ := resolve_ignores_trace henv h i none true false
  refine ⟨henv, hplace, hretraced, reply, hreply, hstatus, houtput, hnotices, ?_, fun l hl =>
    htree l ?_⟩
  · exact htold.symm.trans (congrArg told hreply)
  · rw [hplace]
    exact fun heq => hl (Option.some.inj heq).symm

end CommandLine

end CallAttribution
