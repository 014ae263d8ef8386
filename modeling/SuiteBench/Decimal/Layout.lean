import SuiteBench.Decimal.Natural

/-!
# Decimal.Layout — how a double is written

A finite double is `± mantissa · 2 ^ exponent`, a quotient of naturals.  Its digits are the fewest that
read back.  The reals that round to a double form an interval around it, whose ends belong to it when the
mantissa is even.  For one digit, two digits and so on the two neighbours of the value on the grid with
that many digits are tried; the first grid with a neighbour in the interval wins, and of two the nearer,
the even one on a tie.  A `Layout` says where the point stands, when an exponent is used and how the
values without digits are spelled.

With a fixed number of places the exact value is rounded to the grid of these places; a value halfway
between two points of the grid goes to the even one.
-/

namespace SuiteBench.Decimal

/-! ### The exact value -/

/-- A finite double: `± mantissa · 2 ^ exponent`. -/
structure Binary where
  negative : Bool
  mantissa : Nat
  exponent : Int
  /-- Whether the next double below is only half as far as the next one above. -/
  atPowerOfTwo : Bool

/-- What a double holds. -/
inductive Double where
  | nan
  | infinite (negative : Bool)
  | finite (value : Binary)

/-- The leading bit of a normal mantissa, which is not stored. -/
def hiddenBit : Nat := 4503599627370496

/-- The parts of the double with the bits `bits`. -/
def Double.ofBits (bits : UInt64) : Double :=
  let b := bits.toNat
  let negative : Bool := b / 9223372036854775808 == 1
  let e : Nat := b / hiddenBit % 2048
  let m : Nat := b % hiddenBit
  if e == 2047 then (if m == 0 then .infinite negative else .nan)
  else if e == 0 then .finite ⟨negative, m, -1074, false⟩
  else .finite ⟨negative, m + hiddenBit, (e : Int) - 1075, m == 0 && e != 1⟩

/-- The parts of `x`. -/
def Double.of (x : Float) : Double := .ofBits x.toBits

/-- `n · 2 ^ e` as a quotient of naturals. -/
def scaleTwo (n : Nat) (e : Int) : Nat × Nat :=
  if 0 ≤ e then (n * Nat.pow 2 e.toNat, 1) else (n, Nat.pow 2 (-e).toNat)

/-- `n / d · 10 ^ e` as a quotient of naturals. -/
def scaleTen (q : Nat × Nat) (e : Int) : Nat × Nat :=
  if 0 ≤ e then (q.1 * Nat.pow 10 e.toNat, q.2) else (q.1, q.2 * Nat.pow 10 (-e).toNat)

/-! ### The digits -/

/-- The number `coefficient · 10 ^ exponent`. -/
structure Scientific where
  coefficient : Nat
  exponent : Int
  deriving DecidableEq, Repr

/-- The decimal exponent of the leading digit of `n / d`, for `n` and `d` positive. -/
def leadingExponent (n d : Nat) : Int :=
  if d ≤ n then (digits (n / d)).length - 1
  else
    let j := (digits (d / n)).length
    if d ≤ n * Nat.pow 10 (j - 1) then -((j - 1 : Nat) : Int) else -(j : Int)

/-- The interval of the reals that round to a positive double, in quarters of its last place. -/
structure Interval where
  low : Nat
  value : Nat
  high : Nat
  closed : Bool

/-- The rounding interval of `b`, in units of `2 ^ (b.exponent - 2)`. -/
def Binary.interval (b : Binary) : Interval :=
  let v := 4 * b.mantissa
  ⟨if b.atPowerOfTwo then v - 1 else v - 2, v, v + 2, b.mantissa % 2 == 0⟩

/-- The neighbour of the value with `n` digits that lies in the rounding interval, if any. -/
def Binary.onGrid (b : Binary) (lead : Int) (n : Nat) : Option Scientific :=
  let k : Int := lead - (n - 1 : Nat)
  let i := b.interval
  let scaled (x : Nat) := scaleTen (scaleTwo x (b.exponent - 2)) (-k)
  let (num, den) := scaled i.value
  let lo := (scaled i.low).1
  let hi := (scaled i.high).1
  let inside (c : Nat) : Bool :=
    if i.closed then lo ≤ c * den && c * den ≤ hi else lo < c * den && c * den < hi
  let below := num / den
  let above := below + 1
  match inside below && below != 0, inside above with
  | true, true =>
    let down := num - below * den
    let up := above * den - num
    if down < up || (down == up && below % 2 == 0) then some ⟨below, k⟩ else some ⟨above, k⟩
  | true, false => some ⟨below, k⟩
  | false, true => some ⟨above, k⟩
  | false, false => none

/-- Moves the trailing zeros of the coefficient into the exponent, at most `fuel` of them. -/
def dropZeros : Nat → Scientific → Scientific
  | 0, s => s
  | fuel + 1, s =>
    if s.coefficient != 0 && s.coefficient % 10 == 0 then
      dropZeros fuel ⟨s.coefficient / 10, s.exponent + 1⟩
    else s

/-- The shortest decimal that reads back as `b`. -/
def Binary.shortest (b : Binary) : Scientific :=
  if b.mantissa == 0 then ⟨0, 0⟩
  else
    let (n, d) := scaleTwo b.mantissa b.exponent
    let lead := leadingExponent n d
    match (List.range 17).findSome? fun i => b.onGrid lead (i + 1) with
    | some s => dropZeros 17 s
    | none => ⟨n, 0⟩

/-! ### Their layout -/

/-- The decisions about the written form of a double. -/
structure Layout where
  /-- Whether a number with this leading exponent is written without an exponent part. -/
  positional : Int → Bool
  /-- Whether a whole number keeps `.0`. -/
  keepsPoint : Bool
  /-- The sign in front of a non-negative exponent. -/
  exponentSign : String
  nan : String
  infinity : String
  negativeInfinity : String

/-- The coefficient's digits with the point placed by the exponent. -/
def positionalText (s : Scientific) (keepsPoint : Bool) : String :=
  let ds := digits s.coefficient
  if 0 ≤ s.exponent then
    String.ofList (ds ++ List.replicate s.exponent.toNat '0') ++ (if keepsPoint then ".0" else "")
  else
    let n := (-s.exponent).toNat
    if n < ds.length then
      String.ofList (ds.take (ds.length - n)) ++ "." ++ String.ofList (ds.drop (ds.length - n))
    else "0." ++ String.ofList (List.replicate (n - ds.length) '0' ++ ds)

/-- The coefficient's digits with the point behind the first one, and an exponent part. -/
def exponentText (s : Scientific) (sign : String) : String :=
  let ds := digits s.coefficient
  let lead : Int := s.exponent + (ds.length - 1 : Nat)
  let fraction := ds.drop 1
  String.ofList (ds.take 1) ++
    (if fraction.isEmpty then "" else "." ++ String.ofList fraction) ++
    "e" ++ (if lead < 0 then "-" else sign) ++ ofNat lead.natAbs

/-- The text of `x` under the layout `l`. -/
def Layout.text (l : Layout) (x : Float) : String :=
  match Double.of x with
  | .nan => l.nan
  | .infinite negative => if negative then l.negativeInfinity else l.infinity
  | .finite b =>
    let s := b.shortest
    let lead : Int := s.exponent + ((digits s.coefficient).length - 1 : Nat)
    (if b.negative then "-" else "") ++
      (if s.coefficient == 0 || l.positional lead then positionalText s l.keepsPoint
       else exponentText s l.exponentSign)

/-- Numbers of a JSON document: positional from 1e-5 up to 1e16, a whole number keeps `.0`. -/
def Layout.json : Layout := ⟨fun e => -5 ≤ e && e < 16, true, "+", "null", "null", "null"⟩

/-- Numbers of a plain table: always positional, a whole number has no point. -/
def Layout.plain : Layout := ⟨fun _ => true, false, "", "NaN", "inf", "-inf"⟩

/-! ### A fixed number of places -/

/-- `n / d` rounded to the nearest natural, a half to the even neighbour. -/
def roundDiv (n d : Nat) : Nat :=
  let q := n / d
  let r := n % d
  if 2 * r < d then q else if d < 2 * r then q + 1 else if q % 2 == 0 then q else q + 1

/-- The text of `x` with exactly `places` digits behind the point. -/
def fixed (places : Nat) (x : Float) : String :=
  match Double.of x with
  | .nan => "NaN"
  | .infinite negative => if negative then "-inf" else "inf"
  | .finite b =>
    let (n, d) := scaleTen (scaleTwo b.mantissa b.exponent) places
    let ds := digits (roundDiv n d)
    let ds := List.replicate (places + 1 - ds.length) '0' ++ ds
    (if b.negative then "-" else "") ++ String.ofList (ds.take (ds.length - places)) ++
      (if places == 0 then "" else "." ++ String.ofList (ds.drop (ds.length - places)))

/-- The rounded quotient is within half a unit of the exact one. -/
theorem roundDiv_near (n d : Nat) (h : 0 < d) :
    2 * (roundDiv n d * d) ≤ 2 * n + d ∧ 2 * n ≤ 2 * (roundDiv n d * d) + d := by
  have e := Nat.div_add_mod n d
  have l := Nat.mod_lt n h
  have c : n / d * d = d * (n / d) := Nat.mul_comm _ _
  have c1 : (n / d + 1) * d = d * (n / d) + d := by rw [Nat.add_mul, c, Nat.one_mul]
  unfold roundDiv
  simp only
  split
  · rw [c]; omega
  · split
    · rw [c1]; omega
    · split
      · rw [c]; omega
      · rw [c1]; omega

end SuiteBench.Decimal
