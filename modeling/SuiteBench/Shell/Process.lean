import SuiteBench.Execution.Programs
import SuiteBench.Execution.Tool
import SuiteBench.Shell.Arithmetic
import SuiteBench.Shell.Command
import SuiteBench.Decimal.Natural

/-!
# Shell.Process — the state of a running script

A process has its own variables, arguments and descriptors; what it does to the outside is put down
as tool actions, the last first.  Background commands run on the clock of the script: what they do is
known when they start, and it takes effect when the script lets time pass.
-/

namespace SuiteBench.Shell

/-- Where a descriptor leads. -/
inductive Sink where
  | stream (s : OutputStream)
  | file (l : Location)
  /-- The output is kept for whoever asked for it. -/
  | capture
  | discard
  deriving DecidableEq, Repr

/-- Why a script does not go on to its next command. -/
inductive Halt where
  | exited (code : Nat)
  | killed (signal : Nat)
  /-- A part of the script has killed the script. -/
  | slain (signal : Nat)
  /-- The script goes on for ever. -/
  | stuck
  | left (loops : Nat)
  | resumed (loops : Nat)
  | returned
  deriving DecidableEq, Repr

/-- A background command. -/
structure Job where
  id : Nat
  /-- The process that started it. -/
  parent : Nat
  /-- What it does and when, in milliseconds since the start of the tool. -/
  events : List (Nat × ToolAction)
  ends : Nat
  status : Nat
  /-- The signal that ended it before its time. -/
  signal : Option Nat
  /-- The streams that it keeps open. -/
  holds : List OutputStream

/-- The options that a script may set. -/
structure Options where
  /-- A failing command ends the script. -/
  strict : Bool
  /-- A missing variable is an error. -/
  demanding : Bool
  /-- Commands are written out before they run. -/
  traced : Bool
  /-- Wildcards stand for themselves. -/
  literal : Bool
  deriving DecidableEq, Repr

/-- No option set. -/
def Options.none : Options := ⟨false, false, false, false⟩

/-- A running script. -/
structure Process where
  id : Nat
  /-- The number by which the script calls itself; a part of it has that of the whole. -/
  script : Nat
  tree : Tree
  cwd : Location
  name : String
  args : List String
  vars : List (String × String)
  /-- The variables that programs see. -/
  exported : List String
  /-- The variables that keep their values. -/
  fixed : List String
  /-- The variables of the function that runs, with what they were outside of it. -/
  locals : Option (List (String × Option String))
  functions : List (String × Command)
  traps : List (String × String)
  sinks : List (Nat × Sink)
  input : List UInt8
  captured : List UInt8
  status : Nat
  /-- The status of the last substitution of the command that runs. -/
  answer : Nat
  options : Options
  /-- The status of the command that runs is being tested, so that a failure ends nothing. -/
  tested : Bool
  /-- How many loops are open. -/
  loops : Nat
  halted : Option Halt
  /-- The line of the command that runs. -/
  line : Nat
  /-- The command on whose behalf the script complains. -/
  context : Option String
  actions : List ToolAction
  jobs : List Job
  /-- The last background command. -/
  lastJob : Option Nat
  /-- How many processes have been started. -/
  births : Nat
  /-- Milliseconds since the start of the tool. -/
  clock : Nat
  /-- How often time was allowed to pass. -/
  waits : Nat
  /-- The wait in which the tool is asked to end, and how far into it. -/
  stop : Option (Nat × Nat)
  /-- A signal that has come and for which a command is kept. -/
  pending : Option Nat
  /-- The next program takes the place of this one. -/
  replaced : Bool

namespace Process

variable (p : Process)

/-- The number of the harness, and of the first process that it starts. -/
def harnessId : Nat := 4241

/-- The process with a status. -/
def withStatus (n : Nat) : Process := { p with status := n }

/-- The process, halted. -/
def halt (h : Halt) : Process := { p with halted := some h }

/-- Does one thing to the outside. -/
def act (a : ToolAction) : Process :=
  { p with tree := a.apply p.tree, actions := a :: p.actions }

/-! ### Variables -/

/-- The value of a variable. -/
def value? (name : String) : Option String := p.vars.lookup name

/-- The process with a variable set. -/
def setVariable (name value : String) : Process :=
  { p with vars := Arithmetic.set p.vars name value }

/-- The process without a variable. -/
def unsetVariable (name : String) : Process :=
  { p with
    vars := p.vars.filter fun v => v.1 != name
    exported := p.exported.filter (· != name) }

/-- The process with a variable that programs see. -/
def exportVariable (name : String) : Process :=
  if p.exported.contains name then p else { p with exported := name :: p.exported }

/-- The variables that a program sees. -/
def environment : List (String × String) := p.vars.filter fun v => p.exported.contains v.1

/-! ### Files -/

/-- Where a path leads, and what stands there. -/
def reach (path : String) : Except FileError (Location × Entry) :=
  Programs.reach p.tree p.cwd ⟨path⟩

/-- What stands at a path. -/
def entry? (path : String) : Option Entry := (p.reach path).toOption.map (·.2)

/-- The location that a path would have, if the directory above it is there. -/
def target (path : String) : Except FileError Location := do
  if path.isEmpty then throw .notFound
  let q : Path := ⟨path⟩
  let above ← Programs.enter p.tree (if q.isAbsolute then [] else p.cwd) q.components.dropLast
  match ← p.tree.get above with
  | .file .. => throw .notADirectory
  | .directory => match q.components.getLast? with
    | none => return above
    | some name => return Path.follow above [name]

/-- The device that swallows everything. -/
def nothing : String := "/dev/null"

/-- The device that gives zeros without end. -/
def zeros : String := "/dev/zero"

/-- The bytes of a file. -/
def contentOf (path : String) : Except FileError (List UInt8) :=
  if path == nothing then .ok []
  else if path == zeros then .ok (List.replicate 65536 0)
  else if path == "/dev/stdin" then .ok p.input
  else match p.reach path with
    | .ok (_, .file c _) => .ok c.toList
    | .ok (_, .directory) => .error .isADirectory
    | .error e => .error e

/-! ### Output -/

/-- Writes bytes to a descriptor. -/
def write (fd : Nat) (bytes : List UInt8) : Process :=
  if bytes.isEmpty then p else
  match p.sinks.lookup fd with
  | some (.stream s) => p.act (.output s bytes)
  | some (.file l) =>
    match p.tree.find? l with
    | some (.file content x) => p.act (.put l (.file (content ++ ⟨bytes.toArray⟩) x))
    | _ => p
  | some .capture => { p with captured := bytes.reverse ++ p.captured }
  | some .discard => p
  | none => p

/-- Writes a text to a descriptor. -/
def say (fd : Nat) (text : String) : Process := p.write fd text.toUTF8.toList

/-- A program complains and fails. -/
def complain (command message : String) : Process :=
  (p.say 2 (command ++ ": " ++ message ++ "\n")).withStatus 1

/-- A program complains about the way it was called. -/
def misused (command message : String) : Process :=
  (p.say 2 (command ++ ": " ++ message ++ "\nTry '" ++ command ++
    " --help' for more information.\n")).withStatus 1

/-- The script complains: its name, the line and the command at fault stand in front. -/
def warn (message : String) : Process :=
  p.say 2 (p.name ++ ": " ++ Decimal.ofNat p.line ++ ": " ++
    (match p.context with
      | some c => c ++ ": "
      | none => "") ++ message ++ "\n")

/-- The script complains and ends. -/
def fail (message : String) : Process := (p.warn message).halt (.exited 2)

/-- The words of a file error. -/
def reason : FileError → String
  | .notFound => "No such file or directory"
  | .notADirectory => "Not a directory"
  | .isADirectory => "Is a directory"
  | .alreadyThere => "File exists"
  | .permissionDenied => "Permission denied"

/-- Sets where a descriptor leads. -/
def setSink (fd : Nat) (s : Option Sink) : Process :=
  let others := p.sinks.filter fun x => x.1 != fd
  { p with sinks := match s with
    | some s => (fd, s) :: others
    | none => others }

/-- Opens a file for writing and points a descriptor at it. -/
def openForWriting (fd : Nat) (append : Bool) (path : String) : Except FileError Process :=
  if path == nothing then .ok (p.setSink fd (some .discard))
  else if path == "/dev/stdout" then .ok (p.setSink fd (p.sinks.lookup 1))
  else if path == "/dev/stderr" then .ok (p.setSink fd (p.sinks.lookup 2))
  else do
    let l ← p.target path
    match p.tree.find? l with
    | some .directory => throw .isADirectory
    | some (.file _ x) =>
      let q := if append then p else p.act (.put l (.file .empty x))
      return q.setSink fd (some (.file l))
    | none =>
      if (Path.mk path).endsInDirectory then throw .isADirectory
      return (p.act (.put l (.file .empty false))).setSink fd (some (.file l))

/-! ### Signals -/

end Process

/-- Signals by name. -/
def signalNames : List (String × Nat) :=
  [("HUP", 1), ("INT", 2), ("QUIT", 3), ("ILL", 4), ("TRAP", 5), ("ABRT", 6), ("BUS", 7),
    ("FPE", 8), ("KILL", 9), ("USR1", 10), ("SEGV", 11), ("USR2", 12), ("PIPE", 13), ("ALRM", 14),
    ("TERM", 15), ("STKFLT", 16), ("CHLD", 17), ("CONT", 18), ("STOP", 19), ("TSTP", 20),
    ("TTIN", 21), ("TTOU", 22), ("URG", 23), ("XCPU", 24), ("XFSZ", 25), ("VTALRM", 26),
    ("PROF", 27), ("WINCH", 28), ("IO", 29), ("PWR", 30), ("SYS", 31)]

/-- The signal that a name or number names; zero is none of them. -/
def signal? (s : String) : Option Nat :=
  match signalNames.lookup s.toUpper with
  | some n => some n
  | none => match Decimal.readNat 64 s.toList with
    | .ok n => some n
    | .error _ => if s.toUpper == "EXIT" then some 0 else none

/-- What is written about a command that a signal ended; some signals go unmentioned. -/
def signalText? : Nat → Option String
  | 1 => some "Hangup"
  | 3 => some "Quit"
  | 4 => some "Illegal instruction"
  | 5 => some "Trace/breakpoint trap"
  | 6 => some "Aborted"
  | 7 => some "Bus error"
  | 8 => some "Floating point exception"
  | 9 => some "Killed"
  | 10 => some "User defined signal 1"
  | 11 => some "Segmentation fault"
  | 12 => some "User defined signal 2"
  | 14 => some "Alarm clock"
  | 15 => some "Terminated"
  | _ => none

namespace Process

variable (p : Process)

/-- A signal reaches the script: it dies, takes no notice, or has a command for it. -/
def receive (signal : Nat) : Process :=
  match (if signal = 9 then none else p.traps.lookup (Decimal.ofNat signal)) with
  | none => { p with halted := some (.killed signal) }
  | some text => if text.isEmpty then p else { p with pending := some signal }

/-- Ends a background command with a signal. -/
def endJob (signal : Nat) (j : Job) : Process :=
  { p with jobs := p.jobs.map fun k =>
    if k.id == j.id && p.clock < k.ends then
      { k with
        events := [], ends := p.clock, status := 128 + signal, signal := some signal, holds := [] }
    else k }

/-- The request to end reaches the script and everything that it has started. -/
def asksToEnd : Process :=
  let q := p.receive 15
  if q.halted.isSome || q.pending.isSome
  then { q.jobs.foldl (fun q j => q.endJob 15 j) q with status := 143 }
  else q

/-! ### Time -/

/-- Lets time pass; tells whether the request to end came meanwhile. -/
def pass (ms : Nat) : Process × Bool :=
  let cut := match p.stop with
    | some (k, m) => if k = p.waits then some m else none
    | none => none
  match cut with
  | some m =>
    ({ p with
      actions := .wait m :: p.actions, clock := p.clock + m, waits := p.waits + 1, stop := none },
      true)
  | none =>
    if ms = 0 then (p, false)
    else ({ p with
      actions := .wait ms :: p.actions, clock := p.clock + ms, waits := p.waits + 1 }, false)

/-- Lets time pass up to a moment, with what background commands do until then. -/
def passUntil (time : Nat) : Process × Bool :=
  let due := ((p.jobs.flatMap (·.events)).filter (·.1 ≤ time)).mergeSort fun a b => a.1 ≤ b.1
  let q := { p with jobs := p.jobs.map fun j =>
    { j with events := j.events.filter fun e => time < e.1 } }
  let (q, cut) := due.foldl (fun (q, cut) (t, a) =>
    if cut then (q, cut)
    else
      let (q, cut) := if q.clock < t then q.pass (t - q.clock) else (q, false)
      (if cut then q else q.act a, cut)) (q, false)
  if cut then (q, cut) else if q.clock < time then q.pass (time - q.clock) else (q, false)

/-- Lets time pass up to a moment; the request to end may cut it short. -/
def sleepUntil (time : Nat) : Process :=
  match p.passUntil time with
  | (q, false) => q
  | (q, true) =>
    let r := q.asksToEnd
    if r.halted.isSome || r.pending.isSome then r else (r.passUntil time).1

/-- Lets some milliseconds pass. -/
def sleep (ms : Nat) : Process := p.sleepUntil (p.clock + ms)

/-- Longer than any tool is given. -/
def ages : Nat := 1000000000000000000

/-- Waits for ever, which only the request to end can change. -/
def hang : Process :=
  let q := p.sleep ages
  if q.halted.isSome || q.pending.isSome then q else q.halt .stuck

/-! ### Parts of a script -/

/-- A process of its own that starts where this one stands; it takes no notice of the signals that this
one takes no notice of, and has no commands for others. -/
def fork : Process :=
  { p with
    id := p.births + 1, births := p.births + 1, captured := [], replaced := false
    traps := p.traps.filter fun t => t.2.isEmpty }

/-- The process that gives its place to another program: it keeps its number and the signals of which it
takes no notice. -/
def giveWay : Process :=
  { p with traps := p.traps.filter (fun t => t.2.isEmpty), replaced := true }

/-- The process with what a part of it has done to the outside. -/
def overtake (inner : Process) : Process :=
  { p with
    tree := inner.tree, actions := inner.actions, input := inner.input, jobs := inner.jobs
    births := inner.births, clock := inner.clock, waits := inner.waits, stop := inner.stop }

/-- The process after a program that took its place: it ends as that one ended. -/
def giveUp (inner : Process) : Process :=
  { p.overtake inner with
    pending := none
    halted := some (match inner.halted with
      | some (.exited n) => .exited (n % 256)
      | some (.killed s) => .killed s
      | some (.slain s) => .killed s
      | some .stuck => .stuck
      | _ => .exited inner.status) }

/-- The process after a part that ran on its own: files, time and output stay, the rest is as before.
A request to end that came to the part has come to this process too. -/
def resume (inner : Process) : Process :=
  if p.replaced then p.giveUp inner else
  let asked := p.stop.isSome && inner.stop.isNone
  let q := { p.overtake inner with
    status := match inner.halted with
      | some (.exited n) => n % 256
      | some (.killed s) => 128 + s
      | _ => inner.status
    halted := match inner.halted with
      | some .stuck => some .stuck
      | some (.slain s) =>
        if inner.script = p.script && p.id != p.script then some (.slain s) else p.halted
      | _ => p.halted }
  let q := match inner.halted with
    | some (.slain s) => if p.id = p.script && inner.script = p.script then q.receive s else q
    | _ => q
  let q := match inner.halted with
    | some (.killed s) => match signalText? s with
      | some text =>
        if asked && (p.traps.lookup "15").isNone then q else q.say 2 (text ++ "\n")
      | none => q
    | _ => q
  if asked && q.halted.isNone then { q.asksToEnd with status := q.status } else q

end Process

end SuiteBench.Shell
