import SuiteBench.Text.Lines

/-!
# Text.Ranges — tables of characters

A table lists characters as numbers of base sixteen with gaps between them: one character `41`, all
from one to another `41-5A`, or every second of them `100-12E/2`.
-/

namespace SuiteBench.Text

/-- The characters from `first` to `last` at distances of `step`. -/
structure CharRun where
  first : Nat
  last : Nat
  step : Nat
  deriving DecidableEq, Repr

/-- Whether the character with number `n` belongs to the run. -/
def CharRun.has (r : CharRun) (n : Nat) : Bool :=
  r.first ≤ n && n ≤ r.last && (n - r.first) % r.step == 0

/-- The number that upper-case digits of base sixteen write. -/
def tableNumber (ds : List Char) : Nat :=
  ds.foldl (fun n d => n * 16 + (d.toNat - if d.isDigit then 48 else 55)) 0

/-- The run that a part of a table lists. -/
def CharRun.ofText (part : List Char) : CharRun :=
  let (span, step) := match splitAtFirst? ['/'] part with
    | some (span, step) => (span, tableNumber step)
    | none => (part, 1)
  match splitAtFirst? ['-'] span with
  | some (first, last) => ⟨tableNumber first, tableNumber last, step⟩
  | none => ⟨tableNumber span, tableNumber span, step⟩

/-- The runs that a table lists. -/
def runs (table : String) : List CharRun :=
  ((splitOnP (fun c => c == ' ' || c == '\n') table.toList).filter (!·.isEmpty)).map CharRun.ofText

example : runs "41-45/2 61" = [⟨0x41, 0x45, 2⟩, ⟨0x61, 0x61, 1⟩] := by decide

end SuiteBench.Text
