import SuiteBench.Log.Cascade

/-!
# Log.Classifier — one label for every run

A run that ended by itself with exit code zero has no error, one killed at its deadline timed out;
for any other the first rule that matches its log decides.  The message is a line of the log where
one can be found.
-/

namespace SuiteBench.Log

/-- Rules in order, and the longest message they may produce. -/
structure Classifier where
  rules : List Rule
  maxMessage : Nat

/-- What is said about one run. -/
structure Classification where
  diagnosis : Diagnosis
  message : String
  counts : ErrorCounts
  deriving DecidableEq, Repr

/-- The lines of a log that hold something, trimmed. -/
def meaningfulLines (log : List Char) : List (List Char) :=
  ((Text.linesOf log).map Text.trimChars).filter (!·.isEmpty)

/-- The first line that the rule would report. -/
def Rule.line? (r : Rule) (log : List Char) : Option (List Char) :=
  (meaningfulLines log).find? ((r.extract.getD r.detect).holds)

/-- The mark of the lines that the harness itself adds to a log. -/
def harnessMark : String := "[genbench]"

/-- The last line that the tool wrote. -/
def lastLine? (log : List Char) : Option (List Char) :=
  (meaningfulLines log).reverse.find? fun l => !Text.startsWith harnessMark.toList l

namespace Classifier

/-- The built-in rules with a limit on messages. -/
def builtIn (maxMessage : Nat) : Classifier := ⟨cascade, maxMessage⟩

/-- A classification with its message cut to the limit. -/
def finish (c : Classifier) (d : Diagnosis) (line : List Char) (counts : ErrorCounts) :
    Classification :=
  ⟨d, String.ofList (line.take c.maxMessage), counts⟩

/-- The message of a run killed at its deadline: the line that the timeout rule picks. -/
def timeoutLine (c : Classifier) (log : List Char) : List Char :=
  ((c.rules.find? fun r => r.label == .timeout).bind fun r => r.line? log).getD
    "Run exceeded its deadline and was terminated".toList

/-- The classification of a run by its exit code, its log and whether the deadline killed it. -/
def classify (c : Classifier) (exitCode : Int) (timedOut : Bool) (text : String) :
    Classification :=
  let log := text.toList
  let counts := countErrors log
  if exitCode = 0 && !timedOut then ⟨.noError, "", counts⟩
  else if timedOut then c.finish .timeout (c.timeoutLine log) counts
  else match c.rules.find? fun r => r.detect.holds log with
    | some r => c.finish r.label ((r.line? log).getD r.label.description.toList) counts
    | none =>
      c.finish .unknownFailure ((lastLine? log).getD
        ("Exit code " ++ Decimal.ofInt exitCode ++ " with no output").toList) counts

end Classifier

end SuiteBench.Log
