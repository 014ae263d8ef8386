import SuiteBench.Moment
import SuiteBench.Settings.Logging
import SuiteBench.Store.Tree

/-!
# Execution.World — what the harness works in

The harness sees the files, the time and the signals that came, and it leaves lines in its own log.  The first
signal counts and is remembered; whoever waits, before or after it came, receives it.
-/

namespace SuiteBench

/-! ### Stopping on request -/

/-- Why a benchmark is to stop. -/
inductive Signal where
  | interrupt
  | terminate
  deriving DecidableEq, Repr

/-- The name of a signal. -/
def Signal.name : Signal → String
  | .interrupt => "interrupt"
  | .terminate => "terminate"

/-- The shutdown of a benchmark and the listeners that may wait for it. -/
structure Shutdown where
  fired : Option Signal
  listeners : List String
  deriving DecidableEq, Repr

namespace Shutdown

/-- No signal has come. -/
def quiet : Shutdown := ⟨none, []⟩

/-- A signal comes; only the first counts. -/
def trigger (s : Shutdown) (x : Signal) : Shutdown := { s with fired := s.fired.or (some x) }

/-- A listener is added. -/
def subscribe (s : Shutdown) (name : String) : Shutdown :=
  { s with listeners := if s.listeners.contains name then s.listeners else name :: s.listeners }

/-- What a listener that waits receives; nothing as long as no signal has come. -/
def received (s : Shutdown) (_listener : String) : Option Signal := s.fired

/-- Whether a signal has come. -/
def isShuttingDown (s : Shutdown) : Bool := s.fired.isSome

end Shutdown

/-! ### The world -/

/-- A line of the harness's own log. -/
structure LogLine where
  level : LogLevel
  text : String
  deriving DecidableEq, Repr

/-- What the harness works in: the files, the time, the signals that came, and what it logged. -/
structure World where
  tree : Tree
  now : Moment
  shutdown : Shutdown
  log : List LogLine

namespace Moment

/-- A moment some milliseconds later. -/
def after (m : Moment) (ms : Nat) : Moment :=
  let nanos := m.nanos + ms % 1000 * 1000000
  ⟨m.seconds + ms / 1000 + nanos / 1000000000, nanos % 1000000000⟩

/-- The whole milliseconds from one moment to a later one. -/
def millisecondsTo (m n : Moment) : Nat :=
  ((n.seconds - m.seconds) * 1000 + ((n.nanos : Int) - m.nanos) / 1000000).toNat

end Moment

namespace World

/-- A world at a moment in which nothing has happened yet. -/
def start (tree : Tree) (now : Moment) : World := ⟨tree, now, .quiet, []⟩

/-- The world with a line logged. -/
def note (w : World) (level : LogLevel) (text : String) : World :=
  { w with log := w.log ++ [⟨level, text⟩] }

/-- The world with a warning logged. -/
def warn (w : World) (text : String) : World := w.note .warn text

/-- The world with several warnings logged. -/
def warnAll (w : World) (texts : List String) : World := texts.foldl warn w

/-- The world after as many of the steps as succeed, and the failure that stopped them. -/
def perform (w : World) (steps : List Step) : World × Option FileError :=
  let (t, e) := Step.run w.tree steps
  ({ w with tree := t }, e)

end World

end SuiteBench
