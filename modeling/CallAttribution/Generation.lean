import CallAttribution.Artifact
import CallAttribution.Input
import CallAttribution.Project

/-!
# Generating artifacts

A run reads the configuration of the project, a snapshot and a batch of call sites, resolves the
batch and writes the artifacts. Everything is read before anything is written, so a run whose
inputs are refused changes nothing.
-/

namespace CallAttribution

/-- What a run needs: the project, the two input files, and a directory and a configuration if
they are not the project's own. -/
structure Request where
  root : Path
  snapshot : Path
  calls : Path
  outputDir : Option Path
  config : Option Config

inductive Failure where
  | project (error : ProjectError)
  | input (error : InputError)
  | write (error : WriteError)
  | interval (error : IntervalError)
  deriving DecidableEq

def Failure.message : Failure → String
  | project e => e.message
  | input e => e.message
  | write e => e.message
  | interval e => e.message

structure Prepared where
  outputDir : Path
  snapshot : Snapshot
  batch : CallBatch
  engine : Engine

/-- What a run has done: the counts, the files written and what was handed out on the way. -/
structure Generated where
  summary : Summary
  files : List Path
  events : List Event

namespace Request

def loadConfig (r : Request) (t : FileTree) : Except Failure Config :=
  match r.config with
  | some c => .ok c
  | none => (Project.loadConfig t r.root).mapError .project

def chooseDir (r : Request) (c : Config) : Except Failure Path :=
  match r.outputDir with
  | some p => .ok p
  | none => ((Project.outputDir r.root c.outputDir).mapError .project).map .ofLocation

def prepare (r : Request) (t : FileTree) : Except Failure Prepared := do
  let c ← r.loadConfig t
  let dir ← r.chooseDir c
  let s ← (Input.readSnapshot t r.snapshot).mapError .input
  let b ← (Input.readBatch t r.calls).mapError .input
  return ⟨dir, s, b, c.engine⟩

end Request

namespace Prepared

def runPlain (p : Prepared) : List Event × Outcome :=
  p.engine.resolveBatch p.snapshot p.batch none

/-- What the suspending mode hands out when nothing else runs, and its outcome. -/
def runSuspending (p : Prepared) (r : Reporter) : List Event × Outcome :=
  let q := p.engine.suspendBatch p.snapshot p.batch none r
  (q.events, q.result.1)

def run (p : Prepared) (reporter : Option Reporter) : List Event × Outcome :=
  match reporter with
  | none => p.runPlain
  | some r => p.runSuspending r

end Prepared

/-- Carry out a run on a file tree. With a reporter the lines are delivered in the suspending
mode. -/
def generate (r : Request) (reporter : Option Reporter) (t : FileTree) :
    Except Failure Generated × FileTree :=
  match r.prepare t with
  | .error e => (.error e, t)
  | .ok p =>
    let (events, o) := p.run reporter
    match Artifact.write t p.outputDir o with
    | (.error e, t) => (.error (.write e), t)
    | (.ok files, t) => (.ok ⟨o.summary, files, events⟩, t)

end CallAttribution
