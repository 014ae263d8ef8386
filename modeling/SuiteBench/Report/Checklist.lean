import SuiteBench.Pattern.Basic
import SuiteBench.Report.Tables
import SuiteBench.Store.Repository
import SuiteBench.Csv.Table

/-!
# Report.Checklist — manual evaluations

A checklist has a section for each criterion, from its prompt up to the next heading; the first
ticked option there is the answer.  Answers are put into the results table, row by row.
-/

namespace SuiteBench

open Pattern

/-- Answers by column, in the order of the columns. -/
structure Evaluation where
  answers : List (String × String)
  deriving DecidableEq, Repr

namespace Evaluation

/-- The prompts and the columns that their answers go to. -/
def prompts : List (String × String) := [
  ("Targets the correct endpoint", "targets_correct_endpoint"),
  ("Asserts the expected HTTP status", "asserts_http_status"),
  ("Uses the correct comparator", "correct_comparator"),
  ("Inline with the endpoint scenarios", "inline_with_scenarios"),
  ("Missing URL parameter", "missing_url_params"),
  ("Missing request body", "missing_request_body"),
  ("assertions specific and meaningful", "assertions_meaningful"),
  ("Boundary conditions", "boundary_conditions"),
  ("Verifies authorization", "verifies_authorization"),
  ("Invalid URL parameter", "invalid_url_params"),
  ("Invalid request body", "invalid_request_body")]

/-- A ticked box and the option behind it. -/
def tickedOption : Pattern :=
  seqs [text "[", char (.ofText "xX"), text "]", many .blank,
    anyOf [text "Yes", text "Partial", text "No", text "N/A"], edge]

/-- The section that a prompt opens: from the prompt up to the next heading. -/
def section? (prompt : String) (content : List Char) : Option (List Char) :=
  ((folded prompt).find? content).map fun (start, _) =>
    match Text.splitAtFirst? "###".toList start.rest with
    | some (before, _) => before
    | none => start.rest

/-- The first ticked option of a section. -/
def answer? (sect : List Char) : Option String :=
  (tickedOption.find? sect).map fun (a, b) =>
    String.ofList (((between a b).drop 3).dropWhile Text.isBlank)

/-- The answer to a prompt. -/
def answerTo? (prompt : String) (content : List Char) : Option String :=
  (section? prompt content).bind answer?

/-- The answers of a checklist. -/
def ofText (content : String) : Evaluation :=
  let cs := content.toList
  ⟨(prompts.filterMap fun (prompt, column) => (answerTo? prompt cs).map fun a => (column, a)).mergeSort
    fun a b => a.1 ≤ b.1⟩

/-- The answers needed for a complete evaluation. -/
def completeFrom : Nat := 5

/-- Whether enough criteria are answered. -/
def isComplete (e : Evaluation) : Bool :=
  completeFrom ≤ e.answers.countP fun a => a.2 ∉ ["", "N/A", "FALSE"]

/-- The cells that an evaluation sets, by column. -/
def cells (e : Evaluation) : List (String × String) :=
  e.answers ++ [(Report.completeColumn, Report.flagCell e.isComplete)]

end Evaluation

/-- Why reports cannot be written. -/
inductive ReportError where
  | missingResults (path : Path)
  | missingTable (path : Path)
  | missingColumn (path : Path) (column : String)
  | store (cause : StoreError)
  | table (cause : Csv.ReadError)
  | file (cause : FileError)
  /-- A checklist that is no text. -/
  | notText
  deriving DecidableEq, Repr

/-- The wording of a `ReportError`. -/
def ReportError.message : ReportError → String
  | .missingResults p => "Results directory not found: " ++ p.text
  | .missingTable p =>
    "Results table not found: " ++ p.text ++ " (generate reports before merging)"
  | .missingColumn p c => "Results table " ++ p.text ++ " has no '" ++ c ++ "' column"
  | .store e => "Storage error: " ++ e.message
  | .table e => "CSV error: " ++ e.message
  | .file e => "I/O error: " ++ e.message
  | .notText => "I/O error: stream did not contain valid UTF-8"

namespace Report

/-- The evaluations by endpoint with one more, which replaces one of the same endpoint. -/
def putEvaluation (id : Nat) (e : Evaluation) (es : List (Nat × Evaluation)) :
    List (Nat × Evaluation) :=
  (id, e) :: es.filter fun x => x.1 != id

/-- The evaluations found below the results directory. -/
def evaluations (d : ResultsDir) (t : Tree) : Except ReportError (List (Nat × Evaluation)) := do
  let children ← (t.list d.location).mapError ReportError.file
  children.foldlM (fun es (name, _) =>
    match Layout.number? name "endpoint" with
    | none => .ok es
    | some id =>
      match t.find? (d.location ++ [name, Layout.manualEvaluation]) with
      | some (.file content _) =>
        match String.fromUTF8? content with
        | some text => .ok (putEvaluation id (Evaluation.ofText text) es)
        | none => .error .notText
      | _ => .ok es) []

/-- The cells of a row with one of them set, by the header. -/
def setCell (header : List String) (cells : List String) (column value : String) : List String :=
  match header.findIdx? (· == column) with
  | some i => cells.set i value
  | none => cells

/-- The cells of a row with the columns of an evaluation set. -/
def overlay (header : List String) (e : Evaluation) (cells : List String) : List String :=
  e.cells.foldl (fun cells (column, value) => setCell header cells column value) cells

/-- The evaluation of a row's endpoint. -/
def evaluationOf? (es : List (Nat × Evaluation)) (id : Option String) : Option Evaluation := do
  match Decimal.readNat Decimal.max32 (Text.trimChars (← id).toList) with
  | .ok n => es.lookup n
  | .error _ => none

/-- How the results table is read. -/
def tableFormat : Csv.Options := ⟨none, false, false⟩

/-- The results table with the evaluations put in, and the number of rows that have one. -/
def mergedTable (d : ResultsDir) (t : Tree) (table : Path) (content : ByteArray) :
    Except ReportError (Nat × String) := do
  let es ← evaluations d t
  let read := tableFormat.read content
  let header ← read.header.mapError .table
  let some at_ := header.findIdx? (· == "endpoint_id")
    | throw (.missingColumn table "endpoint_id")
  let rows ← read.rows.mapM fun r => r.mapError ReportError.table
  let found := rows.map fun r => (r.cells, evaluationOf? es r.cells[at_]?)
  let merged := found.map fun (cells, e) =>
    match e with
    | some e => overlay header e cells
    | none => cells
  return (found.countP (·.2.isSome), Csv.write (header :: merged))

/-- The steps that put the evaluations into a table, and the number of rows that have one. -/
def mergeSteps (d : ResultsDir) (t : Tree) (table : Path) (l : Location) :
    Except ReportError (Nat × List Step) :=
  match t.find? l with
  | some (.file content _) => do
    let (n, text) ← mergedTable d t table content
    return (n, Step.replace l text.toUTF8)
  | _ => .error (.missingTable table)

end Report

end SuiteBench
