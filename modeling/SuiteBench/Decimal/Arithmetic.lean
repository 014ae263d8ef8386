/-!
# Decimal.Arithmetic — measured figures

Means, deviations and roundings are written once for any type of figures with these operations; the
program uses doubles.  `roundTo` keeps a number of decimal places and sends a half away from zero.
-/

namespace SuiteBench.Decimal

/-- The operations on measured figures. -/
class Figures (α : Type) where
  zero : α
  ofNat : Nat → α
  add : α → α → α
  sub : α → α → α
  mul : α → α → α
  div : α → α → α
  sqrt : α → α
  /-- The nearest whole figure, a half away from zero. -/
  round : α → α
  less : α → α → Bool
  isFinite : α → Bool

/-- The nearest whole double, a half away from zero; from `2 ^ 52` on every double is whole. -/
def wholeDouble (x : Float) : Float :=
  let a := x.abs
  if a < 4503599627370496.0 then
    let below := a.toUInt64.toFloat
    let whole := if 0.5 ≤ a - below then below + 1.0 else below
    if x.toBits < 9223372036854775808 then whole else -whole
  else x

instance : Figures Float where
  zero := 0.0
  ofNat n := (UInt64.ofNat n).toFloat
  add := (· + ·)
  sub := (· - ·)
  mul := (· * ·)
  div := (· / ·)
  sqrt := Float.sqrt
  round := wholeDouble
  less x y := x < y
  isFinite := Float.isFinite

variable {α : Type} [Figures α]

/-- `x ^ n` by repeated squaring, the product gathered in `acc`. -/
def powAux : Nat → α → α → Nat → α
  | 0, acc, _, _ => acc
  | fuel + 1, acc, x, n =>
    let acc := if n % 2 == 1 then Figures.mul acc x else acc
    if n / 2 == 0 then acc else powAux fuel acc (Figures.mul x x) (n / 2)

/-- `10 ^ n`. -/
def tenPow (n : Nat) : α := powAux (n + 1) (Figures.ofNat 1) (Figures.ofNat 10) n

/-- The factor that brings `places` decimal places in front of the point.  The count is a signed number of
32 bits: its upper half stands for places in front of the point already. -/
def scale (places : Nat) : α :=
  if places < 2147483648 then tenPow places
  else Figures.div (Figures.ofNat 1) (tenPow (4294967296 - places))

/-- `x` with `places` decimal places, a half away from zero. -/
def roundTo (x : α) (places : Nat) : α :=
  Figures.div (Figures.round (Figures.mul x (scale places))) (scale places)

/-- The sum of the figures, from the front; an empty list sums to zero. -/
def sum : List α → α
  | [] => Figures.zero
  | x :: xs => xs.foldl Figures.add x

/-- The mean of the figures. -/
def mean (xs : List α) : α := Figures.div (sum xs) (Figures.ofNat xs.length)

/-- The lesser of two figures, the second if neither is less. -/
def least (x y : α) : α := if Figures.less x y then x else y

/-- The greater of two figures, the second if neither is greater. -/
def greatest (x y : α) : α := if Figures.less y x then x else y

end SuiteBench.Decimal
