import Std.Time.DateTime.Timestamp
import SuiteBench.CommandLine.Application
import SuiteBench.Shell.Host
import SuiteBench.Store.Difference

/-!
# Main — the program

The files below the working directory become a tree, the command line is answered in that tree, and
what changed is written back.  Tools are scripts below the working directory; reading files, the time
and the variables is all that happens outside the answer.
-/

namespace SuiteBench.Program

/-- The variables that the program and its tools may see. -/
def variableNames : List String :=
  ["PATH", "HOME", "RUST_LOG"] ++
    ["CATALOG", "RESULTS_DIR", "RUNS", "SEARCH_BUDGET", "SKIP_EXISTING", "TOOL_PROGRAM",
      "DEADLINE_MULTIPLIER", "POLL_INTERVAL", "MONITOR_ENABLED", "LOG_LEVEL", "LOG_FORMAT"].map
      fun n => "GENBENCH_" ++ n

/-- The variables that are set. -/
def readVariables : IO (List (String × String)) :=
  variableNames.filterMapM fun name => do
    return (← IO.getEnv name).map fun value => (name, value)

/-- The present moment. -/
def readClock : IO Moment := do
  let now ← Std.Time.Timestamp.now
  let nanos := now.toNanosecondsSinceUnixEpoch.val
  return ⟨nanos / 1000000000, (nanos % 1000000000).toNat⟩

/-- Whether a file can be started: it names its interpreter. -/
def isScript (content : ByteArray) : Bool := content.toList.take 2 == [35, 33]

/-- The files below the working directory, with the programs of the system beside them. -/
def readTree (cwd : Location) : IO Tree := do
  let mut tree := Shell.Host.install (((Tree.empty.makeDirs cwd).toOption).getD .empty)
  for path in ← (← IO.currentDir).walkDir do
    let l := (Path.mk path.toString).locate cwd
    if ← path.isDir then
      tree := ((tree.makeDirs l).toOption).getD tree
    else
      let content ← IO.FS.readBinFile path
      tree := tree.plant l (.file content (isScript content))
  return tree

/-- Writes what a tree has that an older one has not, and removes the files that are gone. -/
def writeChanges (cwd : Location) (old new : Tree) : IO Unit := do
  let root ← IO.currentDir
  let kept := new.listing cwd
  for (path, content) in old.listing cwd do
    if content.isSome && (kept.lookup path).isNone then IO.FS.removeFile (root / path)
  for (path, content) in Tree.changes old new cwd do
    match content with
    | none => IO.FS.createDirAll (root / path)
    | some bytes =>
      let target := root / path
      if let some parent := target.parent then IO.FS.createDirAll parent
      IO.FS.writeBinFile target bytes

end SuiteBench.Program

open SuiteBench in
/-- Answers the command line in the working directory. -/
def main (words : List String) : IO UInt32 := do
  let cwd := (SuiteBench.Path.mk (← IO.currentDir).toString).locate []
  let vars ← Program.readVariables
  let tree ← Program.readTree cwd
  let host : Shell.Host := ⟨cwd, vars⟩
  let site : CommandLine.Site := ⟨cwd, vars, host.tool, .absent, fun _ => some ⟨0.0, 0.0⟩⟩
  let (answer, world) := site.answer words (.start tree (← Program.readClock))
  Program.writeChanges cwd tree world.tree
  IO.print answer.output
  if let some e := answer.error then IO.eprintln ("error: " ++ e)
  return answer.exitCode.toUInt32
