import CallAttribution.Generation
import CallAttribution.Proofs.Delivery
import CallAttribution.Proofs.FileTree

/-!
# What a run reads and writes

A run that ends well has loaded a configuration, chosen a directory and read both inputs, and it has
written the outcome of the configured engine on these inputs, in whichever mode it was carried out.
-/

namespace CallAttribution

theorem run_eq_outcome (p : Prepared) (reporter : Option Reporter) :
    (p.run reporter).2 = p.engine.outcome p.snapshot p.batch none reporter := by
  cases reporter <;> rfl

theorem generate_eq_ok {r : Request} {reporter : Option Reporter} {t u : FileTree}
    {g : Generated} (h : generate r reporter t = (.ok g, u)) :
    ∃ p, r.prepare t = .ok p ∧ Artifact.write t p.outputDir
      (p.engine.outcome p.snapshot p.batch none reporter) = (.ok g.files, u) := by
  rw [generate] at h
  split at h
  · cases h
  · next p hp =>
    refine ⟨p, hp, ?_⟩
    rw [← run_eq_outcome]
    dsimp only at h
    split at h
    · cases h
    · next files v hw =>
      cases h
      exact hw

variable {r : Request} {t : FileTree} {c : Config}

/-- A run that has been prepared ends as writing its artifacts does. -/
theorem generate_of_prepare {p : Prepared} (h : r.prepare t = .ok p)
    (reporter : Option Reporter) :
    generate r reporter t =
      let run := p.run reporter
      let written := Artifact.write t p.outputDir run.2
      ((written.1.mapError .write).map fun files => ⟨run.2.summary, files, run.1⟩, written.2) := by
  rw [generate, h]
  dsimp only
  rcases Artifact.write t p.outputDir (p.run reporter).2 with ⟨e | files, u⟩ <;> rfl

theorem generate_of_write {p : Prepared} {reporter : Option Reporter} {files : List Path}
    {u : FileTree} (h : r.prepare t = .ok p) (hw : Artifact.write t p.outputDir
      (p.engine.outcome p.snapshot p.batch none reporter) = (.ok files, u)) :
    generate r reporter t =
      (.ok ⟨(p.run reporter).2.summary, files, (p.run reporter).1⟩, u) := by
  rw [generate_of_prepare h]
  dsimp only
  rw [run_eq_outcome, hw]
  rfl

theorem prepare_eq_ok {p : Prepared} (hc : r.loadConfig t = .ok c) (h : r.prepare t = .ok p) :
    r.chooseDir c = .ok p.outputDir ∧ Input.readSnapshot t r.snapshot = .ok p.snapshot ∧
      Input.readBatch t r.calls = .ok p.batch ∧ p.engine = c.engine := by
  rw [Request.prepare] at h
  obtain ⟨c', hc', h⟩ := bind_eq_ok.mp h
  rw [hc] at hc'
  cases hc'
  obtain ⟨dir, hdir, h⟩ := bind_eq_ok.mp h
  obtain ⟨s, hs, h⟩ := bind_eq_ok.mp h
  obtain ⟨b, hb, h⟩ := bind_eq_ok.mp h
  cases h
  exact ⟨hdir, mapError_eq_ok.mp hs, mapError_eq_ok.mp hb, rfl⟩

theorem prepare_of_config (hc : r.config = some c) : r.prepare t = (do
    let dir ← r.chooseDir c
    let s ← (Input.readSnapshot t r.snapshot).mapError .input
    let b ← (Input.readBatch t r.calls).mapError .input
    return ⟨dir, s, b, c.engine⟩) := by
  simp only [Request.prepare, Request.loadConfig, hc]
  rfl

/-- The preparation of a run with a given configuration depends on the tree through its two input
files. -/
theorem prepare_congr {u : FileTree} (hc : r.config = some c)
    (hs : t.read r.snapshot = u.read r.snapshot) (hb : t.read r.calls = u.read r.calls) :
    r.prepare t = r.prepare u := by
  simp only [prepare_of_config hc, Input.readSnapshot, Input.readBatch, Input.readJson, hs, hb]

/-- With a configuration and both inputs a run is prepared for any directory that it is given. -/
theorem prepare_of_loaded {s : Snapshot} {calls : CallBatch} (dir : Path)
    (hc : r.loadConfig t = .ok c) (hs : Input.readSnapshot t r.snapshot = .ok s)
    (hcalls : Input.readBatch t r.calls = .ok calls) :
    { r with outputDir := some dir }.prepare t = .ok ⟨dir, s, calls, c.engine⟩ := by
  have hc' : { r with outputDir := some dir }.loadConfig t = .ok c := hc
  simp [Request.prepare, Request.chooseDir, hc', hs, hcalls, bind, Except.bind, pure, Except.pure,
    Except.mapError]

end CallAttribution
