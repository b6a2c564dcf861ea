import CallAttribution.Proofs.CommandLine.Frame
import CallAttribution.Proofs.Tally

/-!
# The counts agree

The numbers of a run are told four times: by the flags of its records, by the summary that is
written, by what the run returns and by the line that is printed. Each of them is derived in a way
of its own, and all of them agree, whether the batch came to its end or was cancelled.
-/

namespace CallAttribution

/-- A run returns the summary of its outcome and the two files that it has written. -/
theorem summary_of_generate {r : Request} {reporter : Option Reporter} {t u : FileTree}
    {g : Generated} (h : generate r reporter t = (.ok g, u)) :
    ∃ p, r.prepare t = .ok p ∧
      g.summary = (p.engine.outcome p.snapshot p.batch none reporter).summary ∧
      g.files = [p.outputDir.child "resolutions.jsonl",
        p.outputDir.child "resolution_summary.json"] ∧
      Artifact.SummaryIn u p.outputDir g.summary := by
  obtain ⟨p, hp, hw⟩ := generate_eq_ok h
  have hsummary : g.summary = (p.engine.outcome p.snapshot p.batch none reporter).summary := by
    rw [generate_of_prepare hp] at h
    dsimp only at h
    rw [run_eq_outcome, hw] at h
    exact congrArg (·.summary) (Except.ok.inj (Prod.mk.inj h).1).symm
  refine ⟨p, hp, hsummary, Artifact.files_of_write hw, ?_⟩
  rw [hsummary]
  exact Artifact.summaryIn_of_write hw

namespace CommandLine

variable {env : Environment} {root : Location} {i : Inputs} {outDir : Option String}
  {t u : FileTree}

theorem Ready.outputDir_eq (r : Ready env root i outDir t) (hroot : ".." ∉ root) :
    r.prepared.outputDir = .ofLocation r.out := by
  obtain ⟨s, b, o, -, ho, hr⟩ := request_eq_ok r.requested
  have haccepted := r.accepted
  rw [hr] at haccepted
  obtain ⟨hdir, -⟩ := prepare_eq_ok rfl haccepted
  obtain ⟨out, hout, -, -⟩ := artifactsPlace_of_chooseDir hroot ho hdir
  unfold Ready.out
  rw [hout]
  rfl

/-- What is printed for a summary. -/
def totalsLine (s : Summary) : String :=
  "resolved " ++ Text.showInt s.resolved ++ "/" ++ Text.showInt s.total ++ " call(s), " ++
    Text.showInt s.unresolved ++ " unresolved"

/-- A command that makes artifacts and ends well has printed the numbers of the summary that it has
written. -/
theorem output_of_resolve (henv : env.Direct) {word : String} {verbose : Bool} {reply : Reply}
    (h : Invocation.run env ⟨word, .resolve i outDir verbose⟩ t = (.ok reply, u))
    (hs : reply.status = 0) :
    ∃ place out s, env.place word = .ok place ∧
      (Task.resolve i outDir verbose).artifactsPlace? env place t = some out ∧
      Artifact.SummaryIn u (.ofLocation out) s ∧ reply.output = [totalsLine s] := by
  obtain ⟨place, hplace, ⟨r⟩⟩ := exists_ready_of_status (congrArg Prod.fst h) hs
  have hup : ".." ∉ place := henv.notMem_of_place hplace
  simp only [Invocation.run, hplace] at h
  obtain ⟨files, hw⟩ := r.exists_files_of_reply verbose (congrArg Prod.fst h)
  rw [r.runResolve_eq, hw] at h
  obtain ⟨hreply, rfl⟩ := Prod.mk.inj h
  have hwritten := Artifact.summaryIn_of_write hw
  rw [r.outputDir_eq hup] at hwritten
  cases hreply
  exact ⟨place, r.out, _, hplace, r.artifactsPlace?_eq verbose hup, hwritten, rfl⟩

/-- The counts agree. In every record of a batch, cancelled or not, the flag tells whether there is
a decision. The summary has the number of the records; under every name it has the number of the
records that this heuristic has won, and it names registered heuristics only, each with a positive
number; the sum of these numbers and the number of the flags that are set are the number of
resolved call sites, and the others are the unresolved ones. A run returns, and the command that
makes artifacts prints, the numbers of the summary that has been written. -/
theorem counts_agree :
    (∀ (e : Engine) (s : Snapshot) (b : CallBatch) (cancel : Option CancelRule)
        (reporter : Option Reporter),
      let o := e.outcome s b cancel reporter
      (∀ r ∈ o.records, r.resolved = r.decision.isSome) ∧
        o.summary.total = o.records.length ∧
        o.summary.byHeuristic.keys.Nodup ∧
        (∀ name, (o.summary.byHeuristic.get? name).getD 0 =
          o.records.countP (Record.wonBy name)) ∧
        (∀ name n, o.summary.byHeuristic.get? name = some n → 0 < n ∧ name ∈ e.names) ∧
        o.summary.resolved = (o.summary.byHeuristic.map Prod.snd).sum ∧
        o.summary.resolved = o.records.countP (·.resolved) ∧
        o.summary.unresolved = o.summary.total - o.summary.resolved) ∧
      (∀ (r : Request) (reporter : Option Reporter) (t u : FileTree) (g : Generated),
        generate r reporter t = (.ok g, u) →
          ∃ p, r.prepare t = .ok p ∧
            g.summary = (p.engine.outcome p.snapshot p.batch none reporter).summary ∧
            g.files = [p.outputDir.child "resolutions.jsonl",
              p.outputDir.child "resolution_summary.json"] ∧
            Artifact.SummaryIn u p.outputDir g.summary) ∧
      ∀ (env : Environment) (word : String) (i : Inputs) (outDir : Option String) (verbose : Bool)
        (t u : FileTree) (reply : Reply), env.Direct →
        Invocation.run env ⟨word, .resolve i outDir verbose⟩ t = (.ok reply, u) →
        reply.status = 0 →
          ∃ place out s, env.place word = .ok place ∧
            (Task.resolve i outDir verbose).artifactsPlace? env place t = some out ∧
            Artifact.SummaryIn u (.ofLocation out) s ∧ reply.output = [totalsLine s] := by
  refine ⟨?_, fun r reporter t u g => summary_of_generate,
    fun env word i outDir verbose t u reply henv => output_of_resolve henv⟩
  intro e s b cancel reporter o
  have hflag : ∀ r ∈ o.records, r.resolved = r.decision.isSome := fun r hr =>
    (Engine.consistent_of_mem_outcome hr).resolved
  have hdescribed : o.summary.Describes o.records :=
    Summary.describes_ofRecords o.records o.cancelled
  have hflags : o.records.countP (·.resolved) = o.records.countP fun r => r.decision.isSome :=
    List.countP_congr fun r hr => by rw [hflag r hr]
  refine ⟨hflag, hdescribed.total, hdescribed.byHeuristic.distinct, ?_, ?_, ?_, ?_, rfl⟩
  · intro name
    rw [hdescribed.byHeuristic.counted]
    by_cases hzero : o.records.countP (Record.wonBy name) = 0
    · simp [hzero]
    · simp [hzero]
  · intro name n hn
    exact Engine.mem_names_of_tally hn
  · exact Summary.sumCounts_eq_sum _
  · rw [hflags]
    exact hdescribed.resolved

/-- A call site is resolved by its interface, and a run that is narrated finds nothing to
resolve. -/
theorem counts_agree_resolved :
    let snapshot :=
      "\x7b\"entries\":[\x7b\"address\":\"A\",\"name\":\"T\",\"type\":\"Contract\"\x7d]\x7d"
    let calls := "\x7b\"callers\":[\x7b\"address\":\"a\",\"calls\":[\x7b" ++
      "\"storageVariable\":\"v\",\"interfaceType\":\"IT\",\"calledFunction\":\"f\"\x7d]\x7d]\x7d"
    let env : Environment := ⟨some ["W"], none, [], ["scratch"]⟩
    let t : FileTree := ⟨[(["W"], .directory), (["W", "d.json"], .file (Text.encode snapshot)),
      (["W", "c.json"], .file (Text.encode calls)),
      (["W", "e.json"], .file (Text.encode "\x7b\x7d"))], by decide⟩
    let r : Request := ⟨.ofLocation ["W"], .ofLocation ["W", "e.json"],
      .ofLocation ["W", "e.json"], none, none⟩
    let i : Inputs := ⟨some "d.json", some "c.json"⟩
    (∃ g u p, generate r (some (.fresh .one)) t = (.ok g, u) ∧ g.summary.total = 0 ∧
      Artifact.SummaryIn u p g.summary) ∧
    ∃ reply u s, Invocation.run env ⟨".", .resolve i (some "out") false⟩ t = (.ok reply, u) ∧
      reply.output = ["resolved 1/1 call(s), 0 unresolved"] ∧
      Artifact.SummaryIn u (.ofLocation ["W", "out"]) s ∧ reply.output = [totalsLine s] := by
  intro snapshot calls env t r i
  obtain ⟨-, hgenerate, hresolve⟩ := counts_agree
  constructor
  · have h : ((generate r (some (.fresh .one)) t).1.map fun g => g.summary.total) = .ok 0 := by
      decide +kernel
    obtain ⟨g, hg, htotal⟩ := exists_of_map_eq_ok h
    obtain ⟨p, -, -, -, hwritten⟩ := hgenerate r _ t _ g (Prod.ext hg rfl)
    exact ⟨g, _, p.outputDir, Prod.ext hg rfl, htotal, hwritten⟩
  · have h : ((Invocation.run env ⟨".", .resolve i (some "out") false⟩ t).1.map fun reply =>
        (reply.status, reply.output)) = .ok (0, ["resolved 1/1 call(s), 0 unresolved"]) := by
      decide +kernel
    obtain ⟨reply, hreply, hview⟩ := exists_of_map_eq_ok h
    obtain ⟨hstatus, houtput⟩ := Prod.mk.inj hview
    obtain ⟨place, out, s, hplace, hout, hwritten, hline⟩ := hresolve env "." i (some "out") false t
      _ reply (Environment.direct_of_directory (by decide)) (Prod.ext hreply rfl) hstatus
    have hplace' : env.place "." = .ok ["W"] := by decide +kernel
    rw [hplace'] at hplace
    cases hplace
    have hout' : (Task.resolve i (some "out") false).artifactsPlace? env ["W"] t =
        some ["W", "out"] := by
      decide +kernel
    rw [hout'] at hout
    cases hout
    exact ⟨reply, _, s, Prod.ext hreply rfl, houtput, hwritten, hline⟩

end CommandLine

end CallAttribution
