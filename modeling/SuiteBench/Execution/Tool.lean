import SuiteBench.Execution.Capture
import SuiteBench.Execution.Invocation
import SuiteBench.Execution.World
import SuiteBench.Store.Tree

/-!
# Execution.Tool — what a tool does once it is started

A tool is known only by what it does: it answers a command with a performance, a list of actions in
their order and the way it ends if nobody stops it.  Nothing else about it matters to the harness.
-/

namespace SuiteBench

/-- One thing that a running tool does. -/
inductive ToolAction where
  /-- Writes bytes to one of its streams. -/
  | output (stream : OutputStream) (bytes : List UInt8)
  /-- Makes a location a directory or a file with this content. -/
  | put (l : Location) (e : Entry)
  /-- Removes what stands at a location and below it. -/
  | clear (l : Location)
  /-- Lets time pass, in milliseconds. -/
  | wait (ms : Nat)
  /-- Sends a signal to the harness. -/
  | raise (s : Signal)

namespace ToolAction

/-- The tree after an action. -/
def apply (t : Tree) : ToolAction → Tree
  | put l e => t.set l e
  | clear l => t.cut l
  | output .. | wait _ | raise _ => t

end ToolAction

/-- How a tool ends. -/
inductive ToolEnding where
  | exited (code : Nat)
  | killedBy (signal : Nat)
  | never
  deriving DecidableEq, Repr

/-- What a tool does from some moment on. -/
structure ToolCourse where
  actions : List ToolAction
  ending : ToolEnding
  /-- What its background commands still do after its end. -/
  rest : List ToolAction
  /-- How long after its end, in milliseconds, they hold a stream open. -/
  holds : OutputStream → Nat

/-- Everything that a tool does in one run. -/
structure Performance where
  course : ToolCourse
  /-- What it still does when it is asked to end in the middle of one of its waits: they are counted
  from zero, and the second number is that of the milliseconds that it has waited. -/
  stopped : Nat → Nat → ToolCourse

/-- Why a command cannot be started. -/
inductive LaunchError where
  | file (cause : FileError)
  /-- An executable file that is no program. -/
  | notAProgram
  /-- A part of the command holds a NUL. -/
  | nulByte
  deriving DecidableEq, Repr

/-- The wording of a `LaunchError`. -/
def LaunchError.message : LaunchError → String
  | .file e => e.message
  | .notAProgram => "Exec format error (os error 8)"
  | .nulByte => "nul byte found in provided data"

/-- A tool, known by what it does. -/
structure Tool where
  start : Invocation → Tree → Except LaunchError Performance

/-- Whoever may stop the harness, by what is seen in the tree. -/
structure Operator where
  calls : Tree → Option Signal

/-- Nobody stops the harness. -/
def Operator.absent : Operator := ⟨fun _ => none⟩

end SuiteBench
