import SuiteBench.Decimal.Arithmetic
import SuiteBench.Json.Value

/-!
# Report.Stats — a series of figures in four numbers

Mean, least and greatest figure and sample deviation of the finite figures of a series, to four
places.  A series without finite figures has none of them.
-/

namespace SuiteBench

open Decimal

/-- The summary of a series. -/
structure Stats (α : Type) where
  avg : Option α
  min : Option α
  max : Option α
  /-- The sample standard deviation, zero for a single figure. -/
  deviation : Option α
  count : Nat

namespace Stats

variable {α : Type} [Figures α]

/-- The decimal places that aggregates keep. -/
def places : Nat := 4

/-- The square of a figure's distance from `m`. -/
def squaredDistance (m x : α) : α := Figures.mul (Figures.sub x m) (Figures.sub x m)

/-- The sample deviation of figures with the mean `m`. -/
def sampleDeviation (m : α) (xs : List α) : α :=
  if 1 < xs.length then
    Figures.sqrt (Figures.div (sum (xs.map (squaredDistance m))) (Figures.ofNat (xs.length - 1)))
  else Figures.zero

/-- The summary of finite figures. -/
def ofFinite : List α → Stats α
  | [] => ⟨none, none, none, none, 0⟩
  | x :: xs =>
    let m := mean (x :: xs)
    let rounded (y : α) := some (roundTo y places)
    ⟨rounded m, rounded (xs.foldl least x), rounded (xs.foldl greatest x),
      rounded (sampleDeviation m (x :: xs)), xs.length + 1⟩

/-- The summary of the finite figures of a series. -/
def of (xs : List α) : Stats α := ofFinite (xs.filter Figures.isFinite)

/-- The summary of a series whose entries may be missing. -/
def ofAvailable (xs : List (Option α)) : Stats α := of (xs.filterMap id)

end Stats

/-- The document of a summary. -/
def Stats.toJson (s : Stats Float) : Json :=
  .object [("avg", Json.ofOption .ofFloat s.avg), ("min", Json.ofOption .ofFloat s.min),
    ("max", Json.ofOption .ofFloat s.max), ("std_dev", Json.ofOption .ofFloat s.deviation),
    ("count", .ofNat s.count)]

end SuiteBench
