import SuiteBench.Decimal.Layout
import SuiteBench.Decimal.Reader
import SuiteBench.Shell.Arithmetic

/-!
# Shell.Format — formatted output of scripted tools

Texts with escapes become bytes, since an octal escape may stand for any byte.  An argument that is no
number is complained about and printed as far as it is one; a format that is none ends the printing.
-/

namespace SuiteBench.Shell.Format

/-! ### Escapes -/

/-- The bytes of a text. -/
def bytesOf (cs : List Char) : List UInt8 := (String.ofList cs).toUTF8.toList

/-- The byte of a one-letter escape. -/
def letterEscape? : Char → Option UInt8
  | 'n' => some 10
  | 't' => some 9
  | 'r' => some 13
  | '\\' => some 92
  | 'a' => some 7
  | 'b' => some 8
  | 'e' => some 27
  | 'f' => some 12
  | 'v' => some 11
  | _ => none

/-- Whether `c` is an octal digit. -/
def isOctal (c : Char) : Bool := '0' ≤ c && c ≤ '7'

/-- At most three octal digits at the front of a text, as a byte, and the rest. -/
def octal (cs : List Char) : UInt8 × List Char :=
  let ds := (cs.take 3).takeWhile isOctal
  (UInt8.ofNat (ds.foldl (fun a c => a * 8 + (c.toNat - 48)) 0), cs.drop ds.length)

/-- The bytes of an escape after its backslash, and the rest; what is no escape keeps the backslash. -/
def escape (cs : List Char) : List UInt8 × List Char :=
  match cs with
  | [] => ([92], [])
  | c :: r =>
    match letterEscape? c with
    | some b => ([b], r)
    | none => if isOctal c then let (b, r) := octal cs; ([b], r) else ([92], cs)

/-- The bytes of a text with escapes, and whether one of them ends all output; a zero may stand in
front of the digits of an octal escape. -/
def escaped : Nat → List Char → List UInt8 × Bool
  | 0, _ => ([], false)
  | _ + 1, [] => ([], false)
  | n + 1, '\\' :: r =>
    match r with
    | 'c' :: _ => ([], true)
    | _ =>
      let r := match r with
        | '0' :: d :: r => if isOctal d then d :: r else '0' :: d :: r
        | r => r
      let (bytes, rest) := escape r
      let (more, stop) := escaped n rest
      (bytes ++ more, stop)
  | n + 1, c :: r =>
    let (more, stop) := escaped n r
    (bytesOf [c] ++ more, stop)

/-! ### Conversions -/

/-- What a conversion asks for. -/
structure Conversion where
  flags : List Char
  width : Nat
  precision : Option Nat
  letter : Char

/-- What a formatted print does. -/
structure Printed where
  bytes : List UInt8
  complaints : List String
  /-- Why the printing ended before its time. -/
  failure : Option String

namespace Printed

/-- Nothing printed. -/
def none : Printed := ⟨[], [], .none⟩

/-- One print after another. -/
def followedBy (a b : Printed) : Printed :=
  ⟨a.bytes ++ b.bytes, a.complaints ++ b.complaints, b.failure⟩

/-- Bytes alone. -/
def ofBytes (bytes : List UInt8) : Printed := ⟨bytes, [], .none⟩

/-- Printing that ends with a failure. -/
def fails (message : String) : Printed := ⟨[], [], some message⟩

end Printed

/-- Bytes with blanks or zeros up to the width of a conversion. -/
def Conversion.pad (v : Conversion) (numeric : Bool) (bytes : List UInt8) : List UInt8 :=
  let missing := v.width - bytes.length
  if v.flags.contains '-' then bytes ++ List.replicate missing 32
  else if numeric && v.flags.contains '0' then
    match bytes with
    | 45 :: r => 45 :: List.replicate missing 48 ++ r
    | 43 :: r => 43 :: List.replicate missing 48 ++ r
    | r => List.replicate missing 48 ++ r
  else List.replicate missing 32 ++ bytes

/-- The sign of a number that is not negative. -/
def Conversion.plus (v : Conversion) : List Char :=
  if v.flags.contains '+' then ['+'] else if v.flags.contains ' ' then [' '] else []

/-- The digits of a number in a base. -/
def inBase (base n : Nat) (upper : Bool) : List Char :=
  let ds := Nat.toDigits base n
  if upper then ds.map Char.toUpper else ds

/-- What is said about an argument of which a text is left over. -/
def leftOver (arg : String) (rest : List Char) : List String :=
  if rest.isEmpty then []
  else if rest.length = arg.length then [arg ++ ": expected numeric value"]
  else [arg ++ ": not completely converted"]

/-- The number that an argument stands for, with complaints. -/
def numberOf (arg : String) : Int × List String :=
  match arg.toList with
  | '\'' :: _ => (((arg.toUTF8.toList[1]?).map fun b => (b.toNat : Int)).getD 0, [])
  | '"' :: _ => (((arg.toUTF8.toList[1]?).map fun b => (b.toNat : Int)).getD 0, [])
  | cs =>
    match Arithmetic.signed? Arithmetic.number cs with
    | none => (0, leftOver arg cs)
    | some (n, r) =>
      if Arithmetic.fits n || !r.isEmpty then ((Arithmetic.nearest n).toInt, leftOver arg r)
      else ((Arithmetic.nearest n).toInt, [arg ++ ": Numerical result out of range"])

/-- The double that an argument stands for, with complaints. -/
def floatOf (arg : String) : Float × List String :=
  let cs := arg.toList.dropWhile Arithmetic.isSpace
  if cs.isEmpty then (0.0, [])
  else match ((List.range (cs.length + 1)).reverse.findSome? fun n =>
      (Decimal.readFloat? (cs.take n)).map fun x => (x, cs.drop n)) with
    | some (x, r) => (x, leftOver arg r)
    | none => (0.0, leftOver arg arg.toList)

/-- The bytes of a whole number under a conversion. -/
def Conversion.whole (v : Conversion) (n : Int) : List UInt8 :=
  let word : Nat := if n < 0 then (n + 18446744073709551616).toNat else n.toNat
  let marked := v.flags.contains '#'
  let (sign, ds) : List Char × List Char := match v.letter with
    | 'u' => ([], Decimal.digits word)
    | 'x' => (if marked && word ≠ 0 then ['0', 'x'] else [], inBase 16 word false)
    | 'X' => (if marked && word ≠ 0 then ['0', 'X'] else [], inBase 16 word true)
    | 'o' => (if marked && word ≠ 0 then ['0'] else [], inBase 8 word false)
    | _ => (if n < 0 then ['-'] else v.plus, Decimal.digits n.natAbs)
  let ds := if v.precision = some 0 && n = 0 then [] else ds
  let ds := List.replicate ((v.precision.getD 0) - ds.length) '0' ++ ds
  v.pad v.precision.isNone (bytesOf (sign ++ ds))

/-- The bytes of a double under a conversion. -/
def Conversion.float (v : Conversion) (x : Float) : List UInt8 :=
  let text := (Decimal.fixed (v.precision.getD 6) x).toList
  let text := if text == "NaN".toList then "nan".toList else text
  v.pad true (bytesOf ((if text.head? == some '-' then [] else v.plus) ++ text))

/-- What a conversion prints for an argument; the flag tells whether all output ends. -/
def Conversion.apply (v : Conversion) (start arg : String) : Printed × Bool :=
  if "diouxX".toList.contains v.letter then
    let (n, complaints) := numberOf arg
    (⟨v.whole n, complaints, none⟩, false)
  else if "aAeEfFgG".toList.contains v.letter then
    let (x, complaints) := floatOf arg
    (⟨v.float x, complaints, none⟩, false)
  else match v.letter with
  | 's' =>
    let bytes := bytesOf arg.toList
    (.ofBytes (v.pad false (match v.precision with
      | some p => bytes.take p
      | none => bytes)), false)
  | 'b' =>
    let (bytes, stop) := escaped (arg.length + 1) arg.toList
    (.ofBytes (v.pad false bytes), stop)
  | 'c' => (.ofBytes (v.pad false [((bytesOf arg.toList).head?).getD 0]), false)
  | c => (.fails (start ++ c.toString ++ ": invalid directive"), false)

/-! ### Formats -/

/-- A number written in the format, or the next argument for a star. -/
def amount (cs : List Char) (args : List String) : Option Nat × List Char × List String :=
  match cs with
  | '*' :: r => (some ((args.head?.map fun a => (numberOf a).1.toNat).getD 0), r, args.tail)
  | _ =>
    let ds := cs.takeWhile Char.isDigit
    (if ds.isEmpty then none else some (Decimal.digitsValue ds), cs.drop ds.length, args)

/-- What a format prints once, the arguments that it leaves over, and whether output ends. -/
def once : Nat → List Char → List String → Printed × List String × Bool
  | 0, _, args => (.none, args, false)
  | _ + 1, [], args => (.none, args, false)
  | n + 1, '%' :: '%' :: r, args =>
    let (more, args, stop) := once n r args
    ((Printed.ofBytes [37]).followedBy more, args, stop)
  | n + 1, '%' :: r, args =>
    let flags := r.takeWhile fun c => "#-+ 0".toList.contains c
    let (width, rest, args) := amount (r.drop flags.length) args
    let (precision, rest, args) := match rest with
      | '.' :: r => let (p, r, args) := amount r args; (some (p.getD 0), r, args)
      | r => (none, r, args)
    match rest with
    | [] => (.fails "missing format character", [], true)
    | c :: rest' =>
      let start := String.ofList ('%' :: r.take (r.length - rest.length))
      let (printed, stop) :=
        (Conversion.mk flags (width.getD 0) precision c).apply start (args.head?.getD "")
      if stop || printed.failure.isSome then (printed, [], true)
      else
        let (more, args, stop) := once n rest' args.tail
        (printed.followedBy more, args, stop)
  | n + 1, '\\' :: r, args =>
    let (bytes, rest) := escape r
    let (more, args, stop) := once n rest args
    ((Printed.ofBytes bytes).followedBy more, args, stop)
  | n + 1, c :: r, args =>
    let (more, args, stop) := once n r args
    ((Printed.ofBytes (bytesOf [c])).followedBy more, args, stop)

/-- What a format prints over all its arguments: it is used again as long as it takes any. -/
def all (format : List Char) : Nat → List String → Printed
  | 0, _ => .none
  | n + 1, args =>
    let (printed, left, stop) := once (format.length + 1) format args
    if stop || left.isEmpty || left.length == args.length then printed
    else printed.followedBy (all format n left)

/-- What a formatted print does. -/
def print (format : String) (args : List String) : Printed :=
  all format.toList (args.length + 1) args

/-- The bytes that an echo writes: its arguments with escapes, and a line feed unless told not to. -/
def echo (args : List String) : List UInt8 :=
  let (silent, args) := match args with
    | "-n" :: r => (true, r)
    | _ => (false, args)
  let text := Text.join " " args
  let (bytes, stop) := escaped (text.length + 1) text.toList
  if stop || silent then bytes else bytes ++ [10]

end SuiteBench.Shell.Format
