import SuiteBench.Decimal.Arithmetic
import SuiteBench.Execution.Tool
import SuiteBench.Execution.World
import SuiteBench.Store.Repository

/-!
# Execution.Executor — one run of the tool within its deadline

The tool is started in the directory of its run and watched until it ends, the deadline passes or an
operator stops the harness.  A tool that fails or cannot be started still gives an execution; only an
interrupt or a broken run directory is an error.
-/

namespace SuiteBench

/-- Why a run gives no execution. -/
inductive ExecutionError where
  | file (cause : FileError)
  | missingDependency (program : String)
  | cancelled (by_ : Signal)
  deriving DecidableEq, Repr

/-- The wording of an `ExecutionError`. -/
def ExecutionError.message : ExecutionError → String
  | .file e => "I/O error: " ++ e.message
  | .missingDependency p => "Required binary not found on PATH: " ++ p
  | .cancelled s => "Run cancelled by " ++ s.name

/-- What was seen of one run, before it is classified. -/
structure Execution where
  key : RunKey
  startedAt : Moment
  finishedAt : Moment
  durationSeconds : Float
  searchBudget : Nat
  exitCode : Int
  timedOut : Bool
  runDir : Location
  logPath : Path
  /-- The deadline in seconds. -/
  deadline : Nat

/-- How a run of the tool ended. -/
inductive RunEnding where
  | ended (e : ToolEnding)
  | deadline
  | interrupted (by_ : Signal)
  deriving DecidableEq, Repr

/-- What the harness has seen of a running tool. -/
structure Observation where
  world : World
  /-- Milliseconds since the start. -/
  elapsed : Nat
  /-- What arrived, the last first. -/
  arrivals : List Arrival

namespace Operator

/-- The world with a signal put down if the operator calls. -/
def listen (operator : Operator) (w : World) : World :=
  match operator.calls w.tree with
  | some s => { w with shutdown := w.shutdown.trigger s }
  | none => w

/-- The world some milliseconds later; the operator may have called by then. -/
def wait (operator : Operator) (ms : Nat) (w : World) : World :=
  operator.listen { w with now := w.now.after ms }

end Operator

namespace Observation

/-- The observation with a signal put down if the operator calls. -/
def listen (operator : Operator) (o : Observation) : Observation :=
  { o with world := operator.listen o.world }

/-- The observation after one action that takes no time. -/
def after (o : Observation) : ToolAction → Observation
  | .output s bytes => { o with arrivals := .piece s bytes :: o.arrivals }
  | .raise s => { o with world := { o.world with shutdown := o.world.shutdown.trigger s } }
  | a => { o with world := { o.world with tree := a.apply o.world.tree } }

/-- The observation some milliseconds later. -/
def wait (o : Observation) (ms : Nat) : Observation :=
  { o with elapsed := o.elapsed + ms, world := { o.world with now := o.world.now.after ms } }

/-- Follows a tool until it ends, the deadline passes or a signal comes; signals and the deadline take
effect while time passes.  The numbers tell in which wait, and how far into it, the tool was left. -/
def follow (operator : Operator) (deadline : Nat) (ending : ToolEnding) :
    Nat → List ToolAction → Observation → Observation × RunEnding × Nat × Nat
  | waits, [], o =>
    match ending with
    | .never => (o.wait (deadline - o.elapsed), .deadline, waits, deadline - o.elapsed)
    | e => (o, .ended e, waits, 0)
  | waits, .wait ms :: rest, o =>
    let o := o.listen operator
    match o.world.shutdown.fired with
    | some s => (o, .interrupted s, waits, 0)
    | none =>
      if deadline ≤ o.elapsed + ms
      then (o.wait (deadline - o.elapsed), .deadline, waits, deadline - o.elapsed)
      else follow operator deadline ending (waits + 1) rest (o.wait ms)
  | waits, a :: rest, o => follow operator deadline ending waits rest (o.after a)

/-- Follows what a tool does for some time, or to its end. -/
def followFor (time : Nat) : List ToolAction → Observation → Observation
  | [], o => o
  | .wait ms :: rest, o =>
    if time ≤ ms then o.wait time else followFor (time - ms) rest (o.wait ms)
  | a :: rest, o => if time = 0 then o else followFor time rest (o.after a)

/-- The observation after one action, of which writing to one stream goes unseen. -/
def without (s : OutputStream) (o : Observation) : ToolAction → Observation
  | .output s' bytes => if s' = s then o else o.after (.output s' bytes)
  | a => o.after a

/-- What background commands still do for some time; what they write to a stream that nobody reads any
more is lost. -/
def followRest (unread : Option OutputStream) : Nat → List ToolAction → Observation →
    Observation × List ToolAction
  | _, [], o => (o, [])
  | time, .wait ms :: rest, o =>
    if time < ms then (o.wait time, .wait (ms - time) :: rest)
    else followRest unread (time - ms) rest (o.wait ms)
  | time, a :: rest, o =>
    followRest unread time rest (match unread with
      | some s => o.without s a
      | none => o.after a)

/-- Reads both streams of a tool that has ended until they are closed, each for no longer than the
grace; an unfinished line of a stream that is given up is lost. -/
def drain (grace : Nat) (c : ToolCourse) (o : Observation) : Observation :=
  let first := min (c.holds .out) grace
  let closed := c.holds .out < grace || c.holds .out = 0
  let (o, rest) := followRest none first c.rest o
  let o := if closed then { o with arrivals := .closed .out :: o.arrivals } else o
  let left := c.holds .err - first
  let (o, _) := followRest (if closed then none else some .out) (min left grace) rest o
  if left < grace || left = 0 then { o with arrivals := .closed .err :: o.arrivals } else o

/-- Both streams closed: nobody is left who could write. -/
def close (o : Observation) : Observation :=
  { o with arrivals := .closed .err :: .closed .out :: o.arrivals }

/-- What is seen of a tool after it is asked to end: it has the grace for it, and then nothing of it is
left. -/
def terminate (grace : Nat) (c : ToolCourse) (o : Observation) : Observation :=
  (followFor grace c.actions o).close

/-- Watches a tool from its start; a signal that came before and a deadline that passes at once leave
it no time to do anything. -/
def watch (operator : Operator) (deadline grace : Nat) (p : Performance) (w : World) :
    Observation × RunEnding :=
  let o := listen operator ⟨w, 0, []⟩
  match o.world.shutdown.fired with
  | some s => (o, .interrupted s)
  | none =>
    if deadline = 0 then (o, .deadline)
    else
      match follow operator deadline p.course.ending 0 p.course.actions o with
      | (o, .ended e, _, _) => (o.drain grace p.course, .ended e)
      | (o, ending, wait, ms) => (o.terminate grace (p.stopped wait ms), ending)

end Observation

/-- Runs the tool within its bounds. -/
structure Executor where
  settings : ExecutionSettings
  tool : Tool
  operator : Operator
  /-- Milliseconds that a cleanup may take. -/
  grace : Nat

namespace Executor

/-- The executor of some settings. -/
def ofSettings (s : ExecutionSettings) (tool : Tool) (operator : Operator) : Executor :=
  ⟨s, tool, operator, s.killGracePeriod * 1000⟩

/-- The exit code of a tool that could not be started. -/
def launchFailureCode : Int := 127

/-- What stands in front of the harness's own lines in a log. -/
def mark : String := "[genbench] "

/-- The line about a command that could not be started. -/
def launchFailureLine (program : String) (e : LaunchError) : String :=
  mark ++ "failed to spawn '" ++ program ++ "': " ++ e.message

/-- The line about a deadline that passed. -/
def deadlineLine (deadline budget multiplier : Nat) : String :=
  mark ++ "deadline of " ++ Decimal.ofNat deadline ++ "s exceeded (search budget " ++
    Decimal.ofNat budget ++ "s x " ++ Decimal.ofNat multiplier ++ "); process terminated"

/-- The exit code of a tool that ended by itself; a signal counts from 128 on. -/
def exitCodeOf : ToolEnding → Int
  | .exited n => n
  | .killedBy s => 128 + s
  | .never => -1

/-- The bytes of a log. -/
def logBytes (lines : List (List Char)) : ByteArray :=
  (String.join (lines.map fun l => String.ofList l ++ "\n")).toUTF8

/-- The lines that a tool left. -/
def outputLines (arrivals : List Arrival) : List (List Char) :=
  (Capture.of arrivals).lines.map (·.2)

/-- The steps that prepare the directory of a run and its empty log. -/
def prepareSteps (x : Executor) (dir : Location) : List Step :=
  [.makeDirs dir, .makeDirs (dir ++ [Layout.generatedTests]),
    .makeDirs (dir ++ [Layout.toolReport]),
    .write ((dir.path.join x.settings.logFileName).locate []) .empty]

/-- The tree with the log written, unless the file is gone. -/
def writeLog (t : Tree) (l : Location) (lines : List (List Char)) : Tree :=
  if t.isFile l then
    match (Step.write l (logBytes lines)).apply t with
    | .ok t => t
    | .error _ => t
  else t

/-- The world after the cleanup, which has its own deadline and may leave anything in the tree. -/
def cleanUp (x : Executor) (c : RunContext) (w : World) : World :=
  match c.cleanup? x.settings.tool with
  | none => w
  | some command =>
    match x.tool.start command w.tree with
    | .error _ => w
    | .ok p =>
      let quiet : World := { w with shutdown := .quiet }
      let seen := (Observation.watch .absent x.grace 0 p quiet).1.world
      { seen with shutdown := w.shutdown }

/-- Runs the tool once in the directory of its run. -/
def execute (x : Executor) (endpoint : Endpoint) (run budget : Nat) (dir : Location) (w : World) :
    Except ExecutionError Execution × World :=
  let c : RunContext := ⟨endpoint, run, budget, dir.path⟩
  let logPath := dir.path.join x.settings.logFileName
  let logAt := logPath.locate []
  let deadline := x.settings.deadlineFor budget
  match Step.run w.tree (x.prepareSteps dir) with
  | (t, some e) => (.error (.file e), { w with tree := t })
  | (t, none) =>
    let started := { w with tree := t }
    let finish (exitCode : Int) (timedOut : Bool) (elapsed : Nat) (lines : List (List Char))
        (w' : World) : Except ExecutionError Execution × World :=
      (.ok {
        key := c.key
        startedAt := w.now
        finishedAt := w'.now
        durationSeconds := Decimal.roundTo (Float.ofNat elapsed / 1000.0) 3
        searchBudget := budget
        exitCode, timedOut, logPath, deadline
        runDir := dir }, { w' with tree := writeLog w'.tree logAt lines })
    let command := c.invocation x.settings.tool
    match x.tool.start command t with
    | .error e =>
      finish launchFailureCode false 0 [(launchFailureLine command.program e).toList]
        (started.warn ("Failed to start " ++ command.program ++ ": " ++ e.message))
    | .ok p =>
      let (o, ending) := Observation.watch x.operator (deadline * 1000) x.grace p started
      let lines := outputLines o.arrivals.reverse
      match ending with
      | .ended e => finish (exitCodeOf e) false o.elapsed lines o.world
      | .deadline =>
        let line := deadlineLine deadline budget x.settings.deadlineMultiplier
        finish x.settings.timeoutExitCode true o.elapsed (lines ++ [line.toList])
          (x.cleanUp c (o.world.warn
            ("Deadline of " ++ Decimal.ofNat deadline ++ "s exceeded, terminating tool")))
      | .interrupted s =>
        let w' := x.cleanUp c
          (o.world.warn ("Run interrupted by " ++ s.name ++ ", terminating tool"))
        (.error (.cancelled s), { w' with tree := writeLog w'.tree logAt lines })

end Executor

end SuiteBench
