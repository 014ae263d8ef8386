import SuiteBench.Decimal.Natural

/-!
# Decimal.Reader — doubles from decimal text

`nearest` gives the double nearest to a decimal.  A numeral is taken apart into its sign, the digits
before and after the point, and its exponent; what may be left out depends on the reader.
-/

namespace SuiteBench.Decimal

/-- The double nearest to `± coefficient · 10 ^ exponent`. -/
def nearest (negative : Bool) (coefficient : Nat) (exponent : Int) : Float :=
  let size : Int := (digits coefficient).length + exponent
  let x : Float :=
    if coefficient == 0 || size < -400 then 0.0
    else if 400 < size then 1.0 / 0.0
    else if 0 ≤ exponent then Float.ofScientific coefficient false exponent.toNat
    else Float.ofScientific coefficient true (-exponent).toNat
  if negative then -x else x

/-- A decimal numeral taken apart: `± whole . fraction e exponent`. -/
structure Numeral where
  negative : Bool
  whole : List Char
  fraction : List Char
  exponent : Int

/-- Splits a run of digits off the front. -/
def spanDigits (cs : List Char) : List Char × List Char :=
  (cs.takeWhile isDigit, cs.dropWhile isDigit)

/-- The value of a list of digits. -/
def digitsValue (ds : List Char) : Nat := ds.foldl (fun n c => n * 10 + (c.toNat - 48)) 0

/-- The exponent part `e±digits` that makes up all of `cs`; no part is exponent zero. -/
def exponentPart? : List Char → Option Int
  | [] => some 0
  | c :: cs =>
    if c == 'e' || c == 'E' then
      let (negative, ds) := match cs with
        | '-' :: r => (true, r)
        | '+' :: r => (false, r)
        | r => (false, r)
      if ds.isEmpty || !ds.all isDigit then none
      else
        let n : Int := digitsValue ds
        some (if negative then -n else n)
    else none

/-- Reads a numeral with an optional sign; the digits before or after the point may be missing, but
not both. -/
def Numeral.read? (cs : List Char) : Option Numeral :=
  let (negative, cs) := match cs with
    | '-' :: r => (true, r)
    | '+' :: r => (false, r)
    | r => (false, r)
  let (whole, rest) := spanDigits cs
  let (fraction, rest) := match rest with
    | '.' :: r => spanDigits r
    | r => ([], r)
  if whole.isEmpty && fraction.isEmpty then none
  else (exponentPart? rest).map fun e => ⟨negative, whole, fraction, e⟩

/-- The double nearest to the numeral. -/
def Numeral.value (n : Numeral) : Float :=
  nearest n.negative (digitsValue (n.whole ++ n.fraction)) (n.exponent - n.fraction.length)

/-- The double that `cs` writes as a numeral or as one of the words `inf`, `infinity` and `nan` in
any case, with an optional sign. -/
def readFloat? (cs : List Char) : Option Float :=
  let (negative, word) := match cs with
    | '-' :: r => (true, r)
    | '+' :: r => (false, r)
    | r => (false, r)
  let word := String.ofList (word.map Char.toLower)
  if word == "inf" || word == "infinity" then some (if negative then -(1.0 / 0.0) else 1.0 / 0.0)
  else if word == "nan" then some (0.0 / 0.0)
  else (Numeral.read? cs).map Numeral.value

end SuiteBench.Decimal
