import CallAttribution.CommandLine.Run

/-!
# The program

The outer layer of the command line. It fetches from disk the files that a command looks at,
carries the command out on them, writes back what has changed and prints the answer.
-/

namespace CallAttribution.CommandLine

def diskName (l : Location) : String :=
  (Path.ofLocation l).toString

def fetchOne (t : FileTree) (l : Location) : IO FileTree := do
  let p := System.mkFilePath [diskName l]
  if ← p.isDir then return t.set l .directory
  else if ← p.pathExists then return t.set l (.file (← IO.FS.readBinFile p).toList)
  else return t

/-- Fetch what stands at a place and on the way to it. -/
def fetch (t : FileTree) (l : Location) : IO FileTree :=
  ((List.range l.length).map fun n => l.take (n + 1)).foldlM fetchOne t

/-- How many directories below each other are looked into. -/
def maxDepth : Nat := 2048

/-- Fetch everything below a place, down to a depth. -/
def fetchBelow : Nat → FileTree → Location → IO FileTree
  | 0, t, _ => return t
  | depth + 1, t, l => do
    let p := System.mkFilePath [diskName l]
    if ← p.isDir then
      (← p.readDir).foldlM (fun t e => fetchBelow depth t (l ++ [e.fileName])) (t.set l .directory)
    else fetch t l

/-- Fetch what a command looks at: first what is known without the configuration, then the rest. -/
def fetchAll (env : Environment) (v : Invocation) : IO FileTree := do
  let t ← (v.places env .empty).foldlM fetch .empty
  let t ← (v.places env t).foldlM fetch t
  match v.wholePlace? env t with
  | none => return t
  | some l => fetchBelow maxDepth t l

def storeOne (old : FileTree) (e : Location × Node) : IO Unit := do
  if old.node? e.1 ≠ some e.2 then
    match e.2 with
    | .directory => IO.FS.createDirAll (diskName e.1)
    | .file b => IO.FS.writeBinFile (diskName e.1) b.toByteArray

/-- A place for a temporary directory where nothing stands. A command makes the directory on its
own tree and removes it again, so nothing of it comes to disk. -/
def scratchPlace : IO Location := do
  let p ← IO.FS.createTempDir
  IO.FS.removeDir p
  return (Path.ofString p.toString).parts

def currentEnvironment : IO Environment := do
  let cwd ← try pure (some (← IO.currentDir).toString) catch _ => pure none
  let list ← try IO.FS.readFile "/etc/passwd" catch _ => pure ""
  return ⟨cwd.map fun s => (Path.ofString s).parts, ← IO.getEnv "HOME", accountsOf list,
    ← scratchPlace⟩

def showNotice : Notice → IO Unit
  | .line s => IO.eprintln s
  | .log level message => IO.eprintln (level.name ++ "|" ++ message)

def showReply (r : Reply) : IO UInt32 := do
  r.notices.forM showNotice
  r.output.forM fun s => IO.println s
  return r.status.toUInt32

/-- Carry out a command on the files on disk. -/
def carryOut (v : Invocation) : IO UInt32 := do
  let env ← currentEnvironment
  let old ← fetchAll env v
  let (answer, new) := v.run env old
  new.nodes.forM (storeOne old)
  match answer with
  | .ok r => showReply r
  | .error e =>
    IO.eprintln e.message
    return 1

end CallAttribution.CommandLine

open CallAttribution.CommandLine in
def main (words : List String) : IO UInt32 := do
  match Invocation.ofWords words with
  | .ok v => carryOut v
  | .error .help =>
    IO.println usage
    return 0
  | .error .misuse =>
    IO.eprintln usage
    return 2
