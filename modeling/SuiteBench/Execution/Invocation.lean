import SuiteBench.Endpoint.Basic
import SuiteBench.Run.Record
import SuiteBench.Settings.Basic
import SuiteBench.Store.Layout
import SuiteBench.Text.Lines

/-!
# Execution.Invocation — the command of one run

A field of a template is a name between braces: a brace opens it, the next closing brace ends it.
Filling in goes through the known fields one after another, so that a value that names a later field is
filled in as well.

A run fills the fields of the command templates with its own values.  What comes out is handed to
the system as it stands: a program, its arguments, its variables and its directory.
-/

namespace SuiteBench.Template

/-- The fields that a command may hold, in the order in which they are filled in. -/
def knownFields : List String :=
  ["endpoint_id", "run_number", "controller_class", "method_name", "service", "search_budget",
    "output_dir", "tests_dir", "report_dir"]

/-- The names of the fields of a text; inside a field the name read so far is given, last character
first. -/
def fieldsFrom : Option (List Char) → List Char → List (List Char)
  | _, [] => []
  | none, c :: cs => fieldsFrom (if c == '{' then some [] else none) cs
  | some name, c :: cs =>
    if c == '}' then name.reverse :: fieldsFrom none cs else fieldsFrom (some (c :: name)) cs

/-- The names of the fields of a text. -/
def placeholders (template : String) : List String :=
  (fieldsFrom none template.toList).map String.ofList

/-- Replaces the occurrences of `p` that follow one another without overlap; the first `n`
characters are passed over. -/
def replaceFrom (p value : List Char) : Nat → List Char → List Char
  | _, [] => []
  | n + 1, _ :: cs => replaceFrom p value n cs
  | 0, c :: cs =>
    if Text.startsWith p (c :: cs) then value ++ replaceFrom p value (p.length - 1) cs
    else c :: replaceFrom p value 0 cs

/-- A field as it stands in a text. -/
def mark (name : String) : List Char := '{' :: name.toList ++ ['}']

/-- Fills in one field. -/
def fill (name value : String) (cs : List Char) : List Char :=
  replaceFrom (mark name) value.toList 0 cs

/-- Fills in the fields of a list of values, one after another. -/
def render (values : List (String × String)) (template : String) : String :=
  String.ofList (values.foldl (fun cs (name, value) => fill name value cs) template.toList)

end SuiteBench.Template

namespace SuiteBench

/-- What a run fills into the templates. -/
structure RunContext where
  endpoint : Endpoint
  run : Nat
  searchBudget : Nat
  outputDir : Path

/-- A command ready to be started. -/
structure Invocation where
  program : String
  args : List String
  env : List (String × String)
  workingDir : Option String
  deriving DecidableEq, Repr

namespace RunContext

variable (c : RunContext)

/-- The run that the context belongs to. -/
def key : RunKey := ⟨c.endpoint.id, c.run⟩

/-- The directory of the generated tests. -/
def testsDir : Path := c.outputDir.join Layout.generatedTests

/-- The directory of the tool's own report. -/
def reportDir : Path := c.outputDir.join Layout.toolReport

/-- The value of a field. -/
def value? : String → Option String
  | "endpoint_id" => some (Decimal.ofNat c.endpoint.id)
  | "run_number" => some (Decimal.ofNat c.run)
  | "controller_class" => some c.endpoint.controllerClass
  | "method_name" => some c.endpoint.methodName
  | "service" => some c.endpoint.service
  | "search_budget" => some (Decimal.ofNat c.searchBudget)
  | "output_dir" => some c.outputDir.text
  | "tests_dir" => some c.testsDir.text
  | "report_dir" => some c.reportDir.text
  | _ => none

/-- The fields with their values, in the order in which they are filled in. -/
def values : List (String × String) :=
  Template.knownFields.filterMap fun name => (c.value? name).map fun v => (name, v)

/-- A template with its fields filled in. -/
def render (template : String) : String := Template.render c.values template

/-- The command that runs the tool. -/
def invocation (tool : ToolCommand) : Invocation where
  program := c.render tool.program
  args := tool.args.map c.render
  env := tool.env.map fun (name, value) => (name, c.render value)
  workingDir := tool.workingDir.map fun dir => c.render dir.text

/-- The command that cleans up after a kill, if there is one. -/
def cleanup? (tool : ToolCommand) : Option Invocation :=
  match tool.cleanup with
  | [] => none
  | program :: args => some ⟨c.render program, args.map c.render, [], none⟩

end RunContext

end SuiteBench
