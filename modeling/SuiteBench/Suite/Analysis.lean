import SuiteBench.Pattern.Basic
import SuiteBench.Text.Utf8
import SuiteBench.Text.Lines
import SuiteBench.Run.Record
import SuiteBench.Json.Value
import SuiteBench.Store.Tree

/-!
# Suite.Analysis — what a generated test suite contains

Counts over the sources of a suite: test methods, assertions by kind, boundary inputs, checks of the
HTTP status, expected exceptions and uses of `null`.  Analyses of several runs are merged by adding
counts and joining the sets of classes.
-/

namespace SuiteBench

open Pattern

/-- Positive counts by name, in the order of the names. -/
abbrev NamedCounts := List (String × Nat)

namespace NamedCounts

/-- The counts with `n` more for `name`. -/
def add (name : String) (n : Nat) : NamedCounts → NamedCounts
  | [] => [(name, n)]
  | (k, m) :: rest =>
    if name == k then (k, m + n) :: rest
    else if name < k then (name, n) :: (k, m) :: rest
    else (k, m) :: add name n rest

/-- The count of `name`. -/
def count (cs : NamedCounts) (name : String) : Nat := (cs.lookup name).getD 0

end NamedCounts

/-- What the test suites of some runs contain. -/
structure SuiteAnalysis where
  files : Nat
  methods : Nat
  assertions : Nat
  assertionKinds : NamedCounts
  boundaryInputs : Nat
  statusAssertions : Nat
  expectedExceptions : Nat
  nullReferences : Nat
  /-- The simple names of the test classes. -/
  classes : List String
  deriving DecidableEq, Repr

namespace SuiteAnalysis

/-- The assertions that are counted. -/
def kinds : List String :=
  ["assertEquals", "assertNotNull", "assertNull", "assertTrue", "assertFalse", "assertThat",
    "fail", "verifyException"]

/-- Any of the texts. -/
def textAny (xs : List String) : Pattern := anyOf (xs.map text)

/-- Any number of blanks. -/
def blanks : Pattern := many .blank

/-- The call of an assertion. -/
def callOf (kind : String) : Pattern := seqs [edge, text kind, blanks, text "("]

/-- The mark of a test method. -/
def testMark : Pattern := seqs [text "@Test", edge]

/-- An argument at the boundary of its type, or an empty collection. -/
def boundaryInput : Pattern :=
  anyOf [
    seqs [text "(", blanks,
      anyOf [textAny ["null", "\"\"", "0", "-1", "0.0", "-0.0"],
        seqs [textAny ["Integer", "Long"], text ".", textAny ["MAX", "MIN"], text "_VALUE"],
        seqs [textAny ["Double", "Float"], text ".NaN"]],
      blanks, text ")"],
    text "Collections.emptyList()",
    seqs [text "new", several .blank, textAny ["ArrayList", "HashMap"], text "<>()"]]

/-- An assertion on the HTTP status. -/
def statusAssertion : Pattern :=
  anyOf [
    seqs [text "assertEquals", blanks, text "(", blanks,
      textAny ["200", "201", "204", "400", "401", "403", "404", "500", "502", "503"], edge],
    seqs [text "HttpStatus.",
      textAny ["OK", "CREATED", "NO_CONTENT", "BAD_REQUEST", "UNAUTHORIZED", "FORBIDDEN",
        "NOT_FOUND", "INTERNAL_SERVER_ERROR"], edge]]

/-- The declaration that a test ends with an exception. -/
def expectedException : Pattern :=
  anyOf [
    seqs [text "verifyException", blanks, text "("],
    seqs [text "@Test", blanks, text "(", many (.complement (.one ')')), text "expected", blanks,
      text "="]]

/-- The word `null`. -/
def nullLiteral : Pattern := seqs [edge, text "null", edge]

/-- No source at all. -/
def empty : SuiteAnalysis := ⟨0, 0, 0, [], 0, 0, 0, 0, []⟩

/-- The counts that a record keeps. -/
def counts (a : SuiteAnalysis) : ArtifactCounts := ⟨a.files, a.methods, a.assertions⟩

/-- How often each kind of assertion is called, without the kinds that are not. -/
def callsIn (source : List Char) : List (String × Nat) :=
  (kinds.map fun k => (k, (callOf k).count source)).filter fun c => 0 < c.2

/-- The analysis with one more source, of the class `name`. -/
def addSource (a : SuiteAnalysis) (name : String) (source : String) : SuiteAnalysis :=
  let cs := source.toList
  let calls := callsIn cs
  { files := a.files + 1
    classes := a.classes ++ [name]
    methods := a.methods + testMark.count cs
    assertionKinds := calls.foldl (fun acc (k, n) => NamedCounts.add k n acc) a.assertionKinds
    assertions := a.assertions + (calls.map (·.2)).foldl (· + ·) 0
    boundaryInputs := a.boundaryInputs + boundaryInput.count cs
    statusAssertions := a.statusAssertions + statusAssertion.count cs
    expectedExceptions := a.expectedExceptions + expectedException.count cs
    nullReferences := a.nullReferences + nullLiteral.count cs }

/-- Sorted names. -/
def sortNames (xs : List String) : List String := xs.mergeSort fun a b => a ≤ b

/-- Sorted names without neighbours that are equal. -/
def dropRepeats : List String → List String
  | [] => []
  | [x] => [x]
  | x :: y :: rest => if x == y then dropRepeats (y :: rest) else x :: dropRepeats (y :: rest)

/-- Two analyses as one. -/
def merge (a b : SuiteAnalysis) : SuiteAnalysis :=
  { files := a.files + b.files
    methods := a.methods + b.methods
    assertions := a.assertions + b.assertions
    assertionKinds := b.assertionKinds.foldl (fun acc (k, n) => NamedCounts.add k n acc)
      a.assertionKinds
    boundaryInputs := a.boundaryInputs + b.boundaryInputs
    statusAssertions := a.statusAssertions + b.statusAssertions
    expectedExceptions := a.expectedExceptions + b.expectedExceptions
    nullReferences := a.nullReferences + b.nullReferences
    classes := dropRepeats (sortNames (a.classes ++ b.classes)) }

/-- The kinds of assertions, the most frequent first. -/
def rankedKinds (a : SuiteAnalysis) : List (String × Nat) :=
  a.assertionKinds.mergeSort fun x y => y.2 < x.2 || (x.2 == y.2 && x.1 ≤ y.1)

/-- Pointers for the one who fills in the checklist: a column and a remark for each. -/
def hints (a : SuiteAnalysis) : List (String × String) :=
  if a.files == 0 then [("tests", "No generated test files found")]
  else
    let equal := a.assertionKinds.count "assertEquals"
    let null := a.assertionKinds.count "assertNull" + a.assertionKinds.count "assertNotNull"
    [("asserts_http_status",
        if 0 < a.statusAssertions then
          Decimal.ofNat a.statusAssertions ++ " HTTP status assertions found"
        else "No HTTP status code assertions found"),
      ("correct_comparator",
        if a.assertionKinds.isEmpty then "No assertions found"
        else Text.join ", " ((a.rankedKinds.take 5).map fun (k, n) =>
          k ++ "(" ++ Decimal.ofNat n ++ ")")),
      ("assertions_meaningful",
        if a.assertions == 0 then "No assertions to evaluate"
        else if null < equal then
          "More value assertions (" ++ Decimal.ofNat equal ++ ") than null checks (" ++
            Decimal.ofNat null ++ ")"
        else
          "Review: null checks (" ++ Decimal.ofNat null ++
            ") outnumber value assertions (" ++ Decimal.ofNat equal ++ ")"),
      ("boundary_conditions",
        if a.boundaryInputs == 0 then "No boundary inputs (null, empty, 0, -1) detected"
        else if 5 < a.boundaryInputs then
          Decimal.ofNat a.boundaryInputs ++ " boundary inputs found"
        else "Only " ++ Decimal.ofNat a.boundaryInputs ++ " boundary inputs found")]

/-- The document of an analysis. -/
def toJson (a : SuiteAnalysis) : Json :=
  .object [
    ("test_files", .ofNat a.files),
    ("test_methods", .ofNat a.methods),
    ("assertions", .ofNat a.assertions),
    ("assertion_types", .object (a.assertionKinds.map fun (k, n) => (k, .ofNat n))),
    ("boundary_inputs", .ofNat a.boundaryInputs),
    ("http_status_assertions", .ofNat a.statusAssertions),
    ("expected_exceptions", .ofNat a.expectedExceptions),
    ("null_references", .ofNat a.nullReferences),
    ("test_classes", .ofTexts a.classes)]

/-- The ending of the files that hold generated tests. -/
def fileSuffix : String := "_ESTest.java"

/-- The class that a file of tests declares, by its name. -/
def className? (file : String) : Option String :=
  if Text.startsWith fileSuffix.toList.reverse file.toList.reverse then
    some (String.ofList (file.toList.take (file.length - 5)))
  else none

/-- The sources of a suite below `dir`: class and text of every file of generated tests. -/
def sources (t : Tree) (dir : Location) : List (String × String) :=
  if t.isDirectory dir then
    (t.filesBelow dir).filterMap fun (l, content) =>
      (l.getLast?.bind className?).map fun c => (c, Text.Utf8.lossy content)
  else []

/-- The analysis of every file of generated tests below `dir`. -/
def ofDirectory (t : Tree) (dir : Location) : SuiteAnalysis :=
  let a := (sources t dir).foldl (fun a (c, s) => a.addSource c s) empty
  { a with classes := sortNames a.classes }

end SuiteAnalysis

end SuiteBench
