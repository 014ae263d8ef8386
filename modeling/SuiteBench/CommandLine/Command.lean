import SuiteBench.CommandLine.Grammar
import SuiteBench.Settings.Reader

/-!
# CommandLine.Command — what can be asked of the program

The grammar of the program and the requests that its command lines stand for.
-/

namespace SuiteBench.CommandLine

/-- What the program is asked to do. -/
inductive Command where
  | run (overrides : RunOverrides)
  | runOne (endpoint run : Nat) (budget : Option Nat) (output : Option Path)
  | report (results : Option Path) (mergeManual : Bool)
  | collect (results : Option Path)
  | validate (file : Path)
  | generate (output : Path) (force : Bool)
  | showSettings (format : String)
  deriving DecidableEq, Repr

/-- A command with the options that stand beside any command; without a command the program shows its
help. -/
structure Request where
  config : Option Path
  logLevel : Option String
  command : Option Command
  deriving DecidableEq, Repr

/-! ### The grammar -/

/-- The name of the program. -/
def programName : String := "genbench"

/-- The version of the program. -/
def programVersion : String := "0.1.0"

/-- An option with a value that may be left out. -/
def optional (name : String) (kind : OptionKind) (placeholder about : String) : OptionSpec :=
  ⟨name, none, kind, placeholder, about, false, none⟩

/-- An option that must be given. -/
def required (name : String) (kind : OptionKind) (placeholder about : String) : OptionSpec :=
  ⟨name, none, kind, placeholder, about, true, none⟩

/-- An option without a value. -/
def flag (name about : String) : OptionSpec := ⟨name, none, .flag, "", about, false, none⟩

/-- A count. -/
def count32 : OptionKind := .number Decimal.max32 true

/-- A time in seconds. -/
def seconds64 : OptionKind := .number Decimal.max64 false

/-- The options of every command. -/
def sharedOptions : List OptionSpec := [
  optional "config" .path "PATH" "Path to configuration file",
  optional "log-level" .text "LEVEL" "Set the log level (trace, debug, info, warn, error)"]

/-- The option that asks for help. -/
def helpOption : OptionSpec := ⟨"help", some 'h', .help, "", "Print help", false, none⟩

/-- The option that asks for the version. -/
def versionOption : OptionSpec := ⟨"version", some 'V', .version, "", "Print version", false, none⟩

/-- A command without subcommands. -/
def leaf (name about : String) (own : List OptionSpec) : CommandSpec :=
  ⟨name, about, CommandSpec.helpOrder own sharedOptions ++ [helpOption], [], false⟩

/-- The option for the results directory of a report. -/
def resultsOption : OptionSpec := optional "results" .path "DIR" "Results directory"

/-- The option for the search budget. -/
def budgetOption : OptionSpec :=
  optional "budget" seconds64 "SECONDS" "Search budget handed to the tool, in seconds"

/-- The option for the directory that runs write to. -/
def outputOption : OptionSpec := optional "output" .path "DIR" "Results directory"

/-- The grammar of the program. -/
def grammar : CommandSpec where
  name := programName
  about := "Benchmark harness for containerized unit test generation"
  options := sharedOptions ++ [helpOption, versionOption]
  needsSubcommand := false
  subcommands := [
    leaf "run" "Run the benchmark over the endpoint catalog" [
      optional "runs" count32 "N" "Iterations per endpoint", budgetOption, outputOption,
      optional "endpoint" count32 "ID" "Only benchmark this endpoint",
      flag "skip-existing" "Keep runs that already have a complete record",
      optional "catalog" .path "PATH" "Endpoint catalog (CSV)"],
    leaf "run-one" "Run a single (endpoint, iteration) pair" [
      required "endpoint" count32 "ID" "Endpoint id",
      required "run" count32 "N" "Iteration number", budgetOption, outputOption],
    leaf "report" "Regenerate reports from an existing results tree" [
      resultsOption,
      flag "merge-manual" "Merge manual-evaluation.md checklists into benchmark-results.csv"],
    leaf "collect" "Aggregate per-endpoint metrics from an existing results tree" [resultsOption],
    { name := "config"
      about := "Configuration management commands"
      options := sharedOptions ++ [helpOption]
      needsSubcommand := true
      subcommands := [
        leaf "validate" "Validate a configuration file" [
          required "config-file" .path "PATH" "Path to the configuration file"],
        leaf "generate" "Generate a sample configuration file" [
          required "output" .path "PATH" "Output file path",
          flag "force" "Overwrite existing file"],
        leaf "show" "Show current configuration in use" [
          ⟨"format", none, .text, "FORMAT", "Output format: yaml, json", false, some "yaml"⟩]] }]

/-! ### Requests -/

namespace Level

/-- The text of an option. -/
def text? (l : Level) (name : String) : Option String :=
  match l.values.lookup name with
  | some (.text s) => some s
  | _ => none

/-- The path of an option. -/
def path? (l : Level) (name : String) : Option Path := (l.text? name).map Path.mk

/-- The number of an option. -/
def number? (l : Level) (name : String) : Option Nat :=
  match l.values.lookup name with
  | some (.number n) => some n
  | _ => none

/-- Whether a flag is set. -/
def isSet (l : Level) (name : String) : Bool := (l.values.lookup name).isSome

end Level

namespace Request

/-- The command of the last level. -/
def command? (l : Level) : Option Command :=
  match l.name with
  | "run" => some (.run ⟨l.number? "runs", l.number? "budget", l.path? "output",
      l.number? "endpoint", l.isSet "skip-existing", l.path? "catalog"⟩)
  | "run-one" => do
    some (.runOne (← l.number? "endpoint") (← l.number? "run") (l.number? "budget")
      (l.path? "output"))
  | "report" => some (.report (l.path? "results") (l.isSet "merge-manual"))
  | "collect" => some (.collect (l.path? "results"))
  | "validate" => (l.path? "config-file").map .validate
  | "generate" => (l.path? "output").map fun p => .generate p (l.isSet "force")
  | "show" => some (.showSettings ((l.text? "format").getD "yaml"))
  | _ => none

/-- The request of the levels of a command line; of an option on several levels the last counts. -/
def ofLevels (levels : List Level) : Request where
  config := levels.reverse.findSome? (·.path? "config")
  logLevel := levels.reverse.findSome? (·.text? "log-level")
  command := levels.getLast?.bind command?

/-- The request of the words after the program's name. -/
def ofWords (words : List String) : Except Stop Request :=
  (grammar.read [programName] .start words).map ofLevels

end Request

namespace Stop

/-- What is printed when reading ends so. -/
def output : Stop → String
  | help path => (grammar.descend (path.drop 1)).help path
  | helpOnHelp path => CommandSpec.helpOnHelp path
  | version => programName ++ " " ++ programVersion ++ "\n"
  | _ => ""

/-- The exit code when reading ends so. -/
def exitCode : Stop → Nat
  | help _ | helpOnHelp _ | version => 0
  | _ => 2

end Stop

end SuiteBench.CommandLine
