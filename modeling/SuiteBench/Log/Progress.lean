import SuiteBench.Json.Value
import SuiteBench.Pattern.Basic
import SuiteBench.Text.Lines

/-!
# Log.Progress — how far the tool came

Marks that the tool leaves in its log, and the last count of covered goals that it printed.
-/

namespace SuiteBench.Log

open Pattern

/-- Marks of progress in a log. -/
structure Progress where
  searchStarted : Bool
  searchCompleted : Bool
  compilationErrors : Bool
  rmiErrors : Bool
  /-- Covered goals and all goals, where the tool printed them. -/
  goals : Option (Nat × Nat)
  deriving DecidableEq, Repr

/-- The document of the marks. -/
def Progress.toJson (p : Progress) : Json :=
  .object [("search_started", .bool p.searchStarted), ("search_completed", .bool p.searchCompleted),
    ("compilation_errors", .bool p.compilationErrors), ("rmi_errors", .bool p.rmiErrors),
    ("coverage_goals",
      Json.ofOption (fun (c, t) => .array [.ofNat c, .ofNat t]) p.goals)]

/-- The words between the two goal counts. -/
def goalWords : String := " goals covered out of "

/-- A line with the goal counts. -/
def goalsCovered : Pattern := seqs [several .digit, text goalWords, several .digit]

/-- A number of sixty-four bits. -/
def readCount? (cs : List Char) : Option Nat := (Decimal.readNat Decimal.max64 cs).toOption

/-- The counts in a match of `goalsCovered`. -/
def goalsOf? (cs : List Char) : Option (Nat × Nat) := do
  let (covered, total) ← Text.splitAtFirst? goalWords.toList cs
  some (← readCount? covered, ← readCount? total)

/-- The marks of progress in a log. -/
def progress (log : String) : Progress :=
  let has := Text.contains log
  { searchStarted := has "Starting Client" || has "Going to generate"
    searchCompleted := has "Search finished" || has "Writing tests"
    compilationErrors := has "Compilation failed" || has "cannot find symbol"
    rmiErrors := has "NoClassDefFoundError" || has "java.rmi."
    goals := (goalsCovered.allMatches log.toList).getLast?.bind goalsOf? }

end SuiteBench.Log
