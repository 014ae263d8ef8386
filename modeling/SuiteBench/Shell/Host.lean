import SuiteBench.Shell.Evaluator

/-!
# Shell.Host — scripted programs as tools

A host has a working directory and variables.  It starts the programs of the system and executable
files that name their interpreter in their first line; anything else cannot be started.
-/

namespace SuiteBench.Shell

/-- Where commands are started. -/
structure Host where
  cwd : Location
  vars : List (String × String)
  deriving DecidableEq, Repr

namespace Host

/-- The search path of a host that sets none. -/
def standardPath : String := "/bin:/usr/bin"

/-- The names of the programs that every system has. -/
def installed : List String := interpreters ++ Utilities.programs ++ Utilities.callers

/-- The tree with the programs of the system in it. -/
def install (t : Tree) : Tree :=
  let dirs : List Location := [["bin"], ["usr"], ["usr", "bin"], ["tmp"], ["dev"]]
  let t := dirs.foldl (fun t d => ((t.makeDirs d).toOption).getD t) t
  ⟨installed.flatMap (fun n =>
    [(["bin", n], .file .empty true), (["usr", "bin", n], .file .empty true)]) ++ t.entries⟩

/-- The variables that a command sees. -/
def environment (h : Host) (i : Invocation) : List (String × String) :=
  i.env.foldl (fun vs (k, v) => Arithmetic.set vs k v) h.vars

/-- The directory that a command is started in. -/
def directory (h : Host) (t : Tree) (i : Invocation) : Except LaunchError Location :=
  match i.workingDir with
  | none => .ok h.cwd
  | some d => match Programs.reach t h.cwd ⟨d⟩ with
    | .ok (l, .directory) => .ok l
    | .ok (_, .file ..) => .error (.file .notADirectory)
    | .error e => .error (.file e)

/-- The path of the program of a command.  A name that only stands for files that cannot be run is found
but not permitted. -/
def programPath (t : Tree) (dir : Location) (searchPath : String) (program : String) :
    Except LaunchError String :=
  if program.toList.contains '/' then .ok program
  else if program.isEmpty then .error (.file .notFound)
  else match Programs.find? t dir (some searchPath) program with
    | some p => .ok p.text
    | none =>
      let there := (Programs.directories searchPath).any fun d =>
        (Programs.reach t dir (Programs.candidate d program)).toOption.isSome
      .error (.file (if there then .permissionDenied else .notFound))

/-- What a path runs, and the arguments that stand in front of those of the command. -/
def runnable (t : Tree) (dir : Location) (path : String) : Except LaunchError (String × List String) :=
  match Programs.reach t dir ⟨path⟩ with
  | .error e => .error (.file e)
  | .ok (l, .file content true) =>
    if (systemProgram? l).isSome then .ok (path, [])
    else match interpreter? content.toList with
      | none => .error .notAProgram
      | some (program, argument) => match Programs.reach t dir ⟨program⟩ with
        | .error e => .error (.file e)
        | .ok (_, .file _ true) => .ok (program, argument.toList ++ [path])
        | .ok _ => .error (.file .permissionDenied)
  | .ok _ => .error (.file .permissionDenied)

/-- A process that is about to become a program. -/
def fresh (t : Tree) (dir : Location) (vars : List (String × String)) (name : String)
    (args : List String) : Process where
  id := 1
  script := 1
  tree := t
  cwd := dir
  name := name
  args := args
  vars := Arithmetic.set vars "PPID" (Process.jobName 0)
  exported := vars.map (·.1)
  fixed := []
  locals := none
  functions := []
  traps := []
  sinks := [(1, .stream .out), (2, .stream .err)]
  input := []
  captured := []
  status := 0
  answer := 0
  options := .none
  tested := false
  loops := 0
  halted := none
  line := 0
  context := none
  actions := []
  jobs := []
  lastJob := none
  births := 1
  clock := 0
  waits := 0
  stop := none
  pending := none
  replaced := true

/-- How a process ended. -/
def endingOf (p : Process) : ToolEnding :=
  match p.halted with
  | some (.exited n) => .exited n
  | some (.killed s) => .killedBy s
  | some .stuck => .never
  | _ => .exited p.status

/-- Actions at their times as a list in which time passes from some moment on. -/
def spread : Nat → List (Nat × ToolAction) → List ToolAction
  | _, [] => []
  | now, (t, a) :: rest =>
    if now < t then .wait (t - now) :: a :: spread t rest else a :: spread now rest

/-- What a process has done from some wait on, how it ended and what its background commands still do. -/
def courseOf (actions : List ToolAction) (p : Process) : ToolCourse where
  actions := actions
  ending := endingOf p
  rest := spread p.clock ((p.jobs.flatMap (·.events)).mergeSort fun a b => a.1 ≤ b.1)
  holds := fun s =>
    ((p.jobs.filter fun j => j.holds.contains s).map fun j => j.ends - p.clock).foldl max 0

/-- The actions behind the first `n` waits. -/
def behindWaits : Nat → List ToolAction → List ToolAction
  | 0, actions => actions
  | _, [] => []
  | n + 1, .wait _ :: rest => behindWaits n rest
  | n + 1, _ :: rest => behindWaits (n + 1) rest

/-- Whether a text holds a NUL. -/
def hasNul (s : String) : Bool := s.toList.contains '\x00'

/-- Starts a command.  An executable text that names no interpreter is a script if the command was sought
along a search path of its own. -/
def start (h : Host) (i : Invocation) (t : Tree) : Except LaunchError Performance := do
  if ([i.program] ++ i.args ++ i.workingDir.toList ++ i.env.flatMap fun (k, v) => [k, v]).any hasNul then
    throw .nulByte
  let dir ← h.directory t i
  let vars := h.environment i
  let path ← programPath t dir ((vars.lookup "PATH").getD standardPath) i.program
  let sought := !i.program.toList.contains '/' && i.env.any fun (k, _) => k == "PATH"
  let (program, front) ← match runnable t dir path with
    | .error .notAProgram => if sought then .ok ("/bin/sh", [path]) else .error .notAProgram
    | r => r
  let p := fresh t dir vars path i.args
  let go (stop : Option (Nat × Nat)) : Process :=
    runPath 4000 program (front ++ i.args) { p with stop }
  let whole := go none
  return {
    course := courseOf whole.actions.reverse whole
    stopped := fun wait ms =>
      let cut := go (some (wait, ms))
      courseOf (behindWaits (wait + 1) cut.actions.reverse) cut }

/-- The programs of a host as a tool. -/
def tool (h : Host) : Tool := ⟨h.start⟩

end Host

end SuiteBench.Shell
