import SuiteBench.Pattern.Basic
import SuiteBench.Run.Diagnosis
import SuiteBench.Run.Record
import SuiteBench.Text.Lines

/-!
# Log.Cascade — counted lines, conditions on log text and the built-in rules

Lines that report an error are counted once; missing packages and symbols are counted at every
mention, line by line.

A condition looks for a text or a pattern, or combines other conditions.  The rules are tried in this
order and the first that matches decides, so a narrow signature stands before the general one it
overlaps with.
-/

namespace SuiteBench.Log

open Pattern

/-! ### Counted lines -/

/-- A line that reports an error. -/
def errorLine : Pattern :=
  anyOf [folded "[ERROR]", seqs [edge, folded "error:"],
    seqs [place .textStart, folded "ERROR", edge]]

/-- The characters of a package name. -/
def packageChar : CharSet := .union .word (.one '.')

/-- The mention of a package that does not exist. -/
def missingPackage : Pattern :=
  seqs [text "package ", several packageChar, text " does not exist"]

/-- The mention of a symbol that cannot be found. -/
def missingSymbol : Pattern := text "cannot find symbol"

/-- The counts of a single line. -/
def countsOfLine (line : List Char) : ErrorCounts :=
  ⟨if errorLine.isIn line then 1 else 0, missingPackage.count line, missingSymbol.count line⟩

/-- The sums of two counts. -/
def addCounts (a b : ErrorCounts) : ErrorCounts :=
  ⟨a.total + b.total, a.missingPackages + b.missingPackages, a.missingSymbols + b.missingSymbols⟩

/-- The counts of a log. -/
def countErrors (log : List Char) : ErrorCounts :=
  ((Text.linesOf log).map countsOfLine).foldl addCounts ⟨0, 0, 0⟩

/-! ### Conditions -/

/-- A condition on log text. -/
inductive Matcher where
  /-- The text holds this text. -/
  | contains (s : String)
  | pattern (p : Pattern)
  | all (ms : List Matcher)
  | any (ms : List Matcher)
  | not (m : Matcher)

namespace Matcher

mutual

/-- Whether the condition holds of a text. -/
def holds (cs : List Char) : Matcher → Bool
  | contains s => Text.occursIn s.toList cs
  | pattern p => p.isIn cs
  | all ms => holdsAll cs ms
  | any ms => holdsAny cs ms
  | not m => !holds cs m

/-- Whether every condition holds. -/
def holdsAll (cs : List Char) : List Matcher → Bool
  | [] => true
  | m :: ms => holds cs m && holdsAll cs ms

/-- Whether some condition holds. -/
def holdsAny (cs : List Char) : List Matcher → Bool
  | [] => false
  | m :: ms => holds cs m || holdsAny cs ms

end

end Matcher

/-- One rule: a label, the condition on the whole log, and the condition that picks the line to
report where it differs. -/
structure Rule where
  label : Diagnosis
  detect : Matcher
  extract : Option Matcher

/-- Any of the texts, in any case. -/
def foldedAny (xs : List String) : Pattern := anyOf (xs.map folded)

/-- Anything within a line. -/
def restOfLine : Pattern := many .inLine

/-- Characters that are no blanks. -/
def notBlank : CharSet := .complement .blank

/-- The target has no compiled classes. -/
def noClassFiles : Pattern :=
  anyOf [
    seqs [folded "no ", optional (folded "compiled "), optional (folded "."),
      folded "class files"],
    folded "no compiled classes",
    folded "could not find any classes",
    seqs [folded "target/classes", many notBlank, several .blank,
      foldedAny ["does not exist", "is empty", "not found"]]]

/-- Names of the framework's types. -/
def frameworkType : Pattern :=
  anyOf [text "HttpEntity", text "ResponseEntity",
    seqs [text "org", char (.union (.one '/') (.one '.')), text "springframework"]]

/-- An error while values were sent to or from the client. -/
def marshalling : Pattern :=
  seqs [folded "error ", optional (folded "un"), folded "marshal", optional (folded "l"),
    folded "ing"]

/-- The tool reports an error of its own. -/
def toolError : Pattern :=
  anyOf [
    seqs [place (.lineStart false), many .blank, folded "*", many .blank, folded "error", edge],
    seqs [folded "evosuite", restOfLine, foldedAny ["internal error", "crashed"]],
    seqs [folded "org.evosuite.", many notBlank, foldedAny ["Exception", "Error"], edge]]

/-- Sources failed to compile. -/
def compilationError : Pattern :=
  anyOf [
    seqs [folded "compilation ", foldedAny ["failed", "error"]],
    folded "cannot find symbol",
    seqs [folded ".java:", optional (folded "["), several .digit, char (.ofText ",]:"),
      restOfLine, folded "error"]]

/-- Something took too long. -/
def timeoutSign : Pattern :=
  anyOf [
    seqs [folded "deadline ", restOfLine, folded "exceeded"],
    folded "timed out",
    seqs [folded "timeout ", foldedAny ["expired", "reached"]],
    folded "global timeout"]

/-- Memory ran out. -/
def memorySign : Pattern :=
  foldedAny ["OutOfMemoryError", "out of memory", "GC overhead limit exceeded", "OOMKilled"]

/-- The client lost its master. -/
def connectionSign : Pattern :=
  anyOf [
    seqs [folded "java.rmi.", many .word,
      foldedAny ["ConnectException", "ConnectIOException", "NoSuchObjectException"]],
    folded "connection refused to host",
    seqs [folded "rmi", restOfLine, foldedAny ["registry", "connection"], restOfLine,
      foldedAny ["refused", "failed", "lost"]]]

/-- The container runtime failed. -/
def containerSign : Pattern :=
  anyOf [
    seqs [place .textStart, folded "docker: "],
    foldedAny ["cannot connect to the docker daemon", "unable to find image", "oci runtime",
      "no such container", "error response from daemon"]]

/-- The characters of a qualified class name. -/
def classNameChar : CharSet := .union packageChar (.one '$')

/-- An exception that nobody caught. -/
def exceptionSign : Pattern :=
  anyOf [
    text "Exception in thread",
    seqs [edge, many classNameChar, text "Exception", edge],
    seqs [edge, several classNameChar, text "Error: "]]

/-- The built-in rules, in the order in which they are tried. -/
def cascade : List Rule := [
  ⟨.noClassFiles, .pattern noClassFiles, none⟩,
  ⟨.missingDependency,
    .any [.pattern missingPackage, .pattern (folded "could not resolve dependencies")], none⟩,
  ⟨.rmiSerialization,
    .any [
      .all [.contains "NoClassDefFoundError", .pattern frameworkType],
      .contains "UnmarshalException",
      .contains "NotSerializableException",
      .pattern (seqs [marshalling, folded " ", foldedAny ["return", "arguments"]])],
    some (.pattern (anyOf [text "NoClassDefFoundError", text "UnmarshalException",
      text "NotSerializableException", marshalling]))⟩,
  ⟨.externalToolError, .pattern toolError, none⟩,
  ⟨.compilation, .pattern compilationError, none⟩,
  ⟨.timeout, .pattern timeoutSign, none⟩,
  ⟨.outOfMemory, .pattern memorySign, none⟩,
  ⟨.rmiConnection, .pattern connectionSign, none⟩,
  ⟨.containerError, .pattern containerSign,
    some (.pattern (foldedAny ["docker", "oci runtime", "container", "daemon"]))⟩,
  ⟨.runtimeException, .pattern exceptionSign, none⟩]

end SuiteBench.Log
