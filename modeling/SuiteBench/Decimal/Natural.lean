/-!
# Decimal.Natural — whole numbers in decimal digits

Reading accepts an optional plus sign and one or more digits `0` to `9`, and refuses a number above
a given bound; the first character that spoils the number decides the error.
-/

namespace SuiteBench.Decimal

/-- Why a text is not a whole number of the wanted range. -/
inductive NumberError where
  | empty
  | invalidDigit
  | tooLarge
  | tooSmall
  deriving DecidableEq, Repr

/-- The wording of a `NumberError`. -/
def NumberError.message : NumberError → String
  | .empty => "cannot parse integer from empty string"
  | .invalidDigit => "invalid digit found in string"
  | .tooLarge => "number too large to fit in target type"
  | .tooSmall => "number too small to fit in target type"

/-- The value of a digit `0` to `9`. -/
def digit? (c : Char) : Option Nat :=
  if '0' ≤ c && c ≤ '9' then some (c.toNat - 48) else none

/-- Whether `c` is a digit `0` to `9`. -/
def isDigit (c : Char) : Bool := (digit? c).isSome

/-- Appends the digits `cs` to `acc` as long as the number stays within `bound`. -/
def appendDigits (bound : Nat) (acc : Nat) : List Char → Except NumberError Nat
  | [] => .ok acc
  | c :: cs =>
    match digit? c with
    | none => .error .invalidDigit
    | some d => if acc * 10 + d ≤ bound then appendDigits bound (acc * 10 + d) cs
                else .error .tooLarge

/-- The number within `0..bound` that `cs` writes. -/
def readNat (bound : Nat) : List Char → Except NumberError Nat
  | [] => .error .empty
  | ['+'] => .error .invalidDigit
  | '+' :: cs => appendDigits bound 0 cs
  | cs => appendDigits bound 0 cs

/-- The number within `-(bound + 1)..bound` that `cs` writes. -/
def readInt (bound : Nat) : List Char → Except NumberError Int
  | [] => .error .empty
  | ['+'] | ['-'] => .error .invalidDigit
  | '-' :: cs =>
    match appendDigits (bound + 1) 0 cs with
    | .ok n => .ok (-n)
    | .error .tooLarge => .error .tooSmall
    | .error e => .error e
  | '+' :: cs => (appendDigits bound 0 cs).map Int.ofNat
  | cs => (appendDigits bound 0 cs).map Int.ofNat

/-- The largest number of sixteen bits. -/
def max16 : Nat := 65535

/-- The largest number of thirty-two bits. -/
def max32 : Nat := 4294967295

/-- The largest number of sixty-four bits. -/
def max64 : Nat := 18446744073709551615

/-- The largest signed number of thirty-two bits. -/
def maxSigned32 : Nat := 2147483647

/-- The largest signed number of sixty-four bits. -/
def maxSigned64 : Nat := 9223372036854775807

/-- The digits of `n`, at least one. -/
def digits (n : Nat) : List Char := Nat.toDigits 10 n

/-- The digits of `n` with zeros in front up to `width` characters. -/
def padded (width n : Nat) : String :=
  let ds := digits n
  String.ofList (List.replicate (width - ds.length) '0' ++ ds)

/-- The text of `n`. -/
def ofNat (n : Nat) : String := String.ofList (digits n)

/-- The text of `n`, with a minus sign if it is negative. -/
def ofInt (n : Int) : String :=
  if n < 0 then "-" ++ ofNat n.natAbs else ofNat n.natAbs

end SuiteBench.Decimal
