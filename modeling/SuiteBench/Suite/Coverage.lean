import SuiteBench.Log.Progress
import SuiteBench.Csv.Table
import SuiteBench.Decimal.Arithmetic
import SuiteBench.Decimal.Reader
import SuiteBench.Store.Tree
import SuiteBench.Store.Layout

/-!
# Suite.Coverage — the coverage of one run

The tool's own statistics come first; goal counts missing there are taken from the log, and a
missing ratio is computed from the goal counts.  What is found nowhere stays unavailable.
-/

namespace SuiteBench.CoverageFigures

/-- How the statistics are read: rows may differ in length, cells are trimmed. -/
def statisticsFormat : Csv.Options := ⟨none, true, true⟩

/-- The cell of a row in the first column with a name, unless it is empty. -/
def cell? (header cells : List String) (name : String) : Option (List Char) :=
  match header.findIdx? (· == name) with
  | some i => (cells[i]?.map String.toList).filter (!·.isEmpty)
  | none => none

/-- The figures of the last readable row of the statistics. -/
def ofStatistics (t : Csv.Table) : CoverageFigures :=
  match t.header, (t.rows.filterMap Except.toOption).getLast? with
  | .ok header, some row =>
    let cell := cell? header row.cells
    ⟨((cell "Coverage").bind Decimal.readFloat?).filter Float.isFinite,
      (cell "Total_Goals").bind Log.readCount?, (cell "Covered_Goals").bind Log.readCount?⟩
  | _, _ => unavailable

/-- The figures with missing goal counts taken from `goals`. -/
def withGoals (c : CoverageFigures) : Option (Nat × Nat) → CoverageFigures
  | some (covered, total) =>
    { c with coveredGoals := some (c.coveredGoals.getD covered)
             totalGoals := some (c.totalGoals.getD total) }
  | none => c

/-- The share of covered goals. -/
def ratio (covered total : Nat) : Float :=
  Decimal.roundTo (Decimal.Figures.div (Decimal.Figures.ofNat covered)
    (Decimal.Figures.ofNat total)) 4

/-- The figures with a missing ratio computed from the goal counts. -/
def withRatio (c : CoverageFigures) : CoverageFigures :=
  match c.coverage, c.coveredGoals, c.totalGoals with
  | none, some covered, some total =>
    if 0 < total then { c with coverage := some (ratio covered total) } else c
  | _, _, _ => c

/-- The figures from the statistics, if there are any, and the log. -/
def ofSources (statistics : Option ByteArray) (log : String) : CoverageFigures :=
  let c := match statistics with
    | some bytes => ofStatistics (statisticsFormat.read bytes)
    | none => unavailable
  (c.withGoals (Log.progress log).goals).withRatio

/-- The figures of the report in `dir` and the log. -/
def ofReport (t : Tree) (dir : Location) (log : String) : CoverageFigures :=
  ofSources ((t.find? (dir ++ [Layout.toolStatistics])).bind Entry.content?) log

end SuiteBench.CoverageFigures
