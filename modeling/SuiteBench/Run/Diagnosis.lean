import SuiteBench.Names
import SuiteBench.Text.Case
import SuiteBench.Text.Lines

/-!
# Run.Diagnosis — the label given to every run

A closed taxonomy.  The order of the constructors is the order in which the classifier tries them;
the last two are given when nothing matches and when nothing went wrong.
-/

namespace SuiteBench

/-- What went wrong in a run. -/
inductive Diagnosis where
  | noClassFiles
  | missingDependency
  | rmiSerialization
  | externalToolError
  | compilation
  | timeout
  | outOfMemory
  | rmiConnection
  | containerError
  | runtimeException
  | unknownFailure
  | noError
  deriving DecidableEq, Repr

namespace Diagnosis

/-- The taxonomy in order. -/
def all : List Diagnosis :=
  [noClassFiles, missingDependency, rmiSerialization, externalToolError, compilation, timeout,
    outOfMemory, rmiConnection, containerError, runtimeException, unknownFailure, noError]

/-- The label. -/
def label : Diagnosis → String
  | noClassFiles => "NO_CLASS_FILES"
  | missingDependency => "COMPILATION_MISSING_DEPENDENCY"
  | rmiSerialization => "RMI_SERIALIZATION"
  | externalToolError => "EXTERNAL_TOOL_ERROR"
  | compilation => "COMPILATION"
  | timeout => "TIMEOUT"
  | outOfMemory => "OUT_OF_MEMORY"
  | rmiConnection => "RMI_CONNECTION"
  | containerError => "CONTAINER_ERROR"
  | runtimeException => "RUNTIME_EXCEPTION"
  | unknownFailure => "UNKNOWN_FAILURE"
  | noError => "NONE"

/-- A short description for narrative reports. -/
def description : Diagnosis → String
  | noClassFiles => "compiled classes missing from the target"
  | missingDependency => "compilation failed on a missing package"
  | rmiSerialization => "framework types could not cross the tool's RMI boundary"
  | externalToolError => "the tool reported an internal error"
  | compilation => "generated or target sources failed to compile"
  | timeout => "the run exceeded its deadline"
  | outOfMemory => "the tool ran out of memory"
  | rmiConnection => "the tool's client/master connection failed"
  | containerError => "the container runtime failed"
  | runtimeException => "an unhandled runtime exception"
  | unknownFailure => "non-zero exit with no recognised signature"
  | noError => "no error"

/-- Whether the label stands for a failure. -/
def isFailure : Diagnosis → Bool
  | noError => false
  | _ => true

/-- The place of a label in the taxonomy. -/
def rank (d : Diagnosis) : Nat := d.ctorIdx

/-- The diagnosis with exactly this label. -/
def ofLabel? (s : String) : Option Diagnosis := all.find? fun d => d.label == s

/-- The diagnosis that `s` names, without regard to case and blanks. -/
def read (s : String) : Except NameError Diagnosis :=
  match ofLabel? (Text.upper (Text.trim s)) with
  | some d => .ok d
  | none => .error (.diagnosis s)

theorem mem_all (d : Diagnosis) : d ∈ all := by cases d <;> decide

theorem ofLabel?_label (d : Diagnosis) : ofLabel? d.label = some d := by cases d <;> decide

end Diagnosis

/-- Whether the tool reported success. -/
inductive GenerationStatus where
  | success
  | failed
  deriving DecidableEq, Repr

namespace GenerationStatus

/-- The status that an exit code means. -/
def ofExitCode (code : Int) : GenerationStatus := if code = 0 then success else failed

/-- The name of a status. -/
def name : GenerationStatus → String
  | success => "SUCCESS"
  | failed => "FAILED"

/-- The status with exactly this name. -/
def ofName? : String → Option GenerationStatus
  | "SUCCESS" => some success
  | "FAILED" => some failed
  | _ => none

/-- The status that `s` names, without regard to case and blanks. -/
def read (s : String) : Except NameError GenerationStatus :=
  match ofName? (Text.upper (Text.trim s)) with
  | some x => .ok x
  | none => .error (.generationStatus s)

theorem ofName?_name (s : GenerationStatus) : ofName? s.name = some s := by cases s <;> rfl

theorem ofExitCode_eq_success_iff {code : Int} : ofExitCode code = success ↔ code = 0 := by
  unfold ofExitCode; split <;> simp_all

end GenerationStatus

end SuiteBench
