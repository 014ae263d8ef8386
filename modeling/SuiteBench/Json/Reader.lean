import SuiteBench.Json.Value
import SuiteBench.Decimal.Reader

/-!
# Json.Reader — documents from text

`Json.parse?` accepts exactly the JSON grammar: one value, with white space around it and nothing
after it.  The grammar is one of bytes, each held as the character with its number; only a complete
string is read as UTF-8, so that one that forms no text does no harm where nobody asks for it.
Every reading step takes at least one byte, so their number bounds the number of steps.
-/

namespace SuiteBench.Json

/-- The white space of JSON. -/
def isSpace (c : Char) : Bool := c == ' ' || c == '\n' || c == '\t' || c == '\r'

/-- `cs` without the white space in front. -/
def skip (cs : List Char) : List Char := cs.dropWhile isSpace

/-- A part of a quoted string: a byte, or a code unit given by its number. -/
inductive Piece where
  | byte (n : Nat)
  | unit (n : Nat)

/-- The value of a digit of base sixteen. -/
def hexValue? (c : Char) : Option Nat :=
  if '0' ≤ c && c ≤ '9' then some (c.toNat - 48)
  else if 'a' ≤ c && c ≤ 'f' then some (c.toNat - 87)
  else if 'A' ≤ c && c ≤ 'F' then some (c.toNat - 55)
  else none

/-- The value of four digits of base sixteen. -/
def hex4? (a b c d : Char) : Option Nat := do
  some ((((← hexValue? a) * 16 + (← hexValue? b)) * 16 + (← hexValue? c)) * 16 + (← hexValue? d))

/-- The character that a one-letter escape stands for. -/
def escaped? (c : Char) : Option Char :=
  if c == '"' || c == '\\' || c == '/' then some c
  else if c == 'b' then some (Char.ofNat 8)
  else if c == 'f' then some (Char.ofNat 12)
  else if c == 'n' then some '\n'
  else if c == 'r' then some '\r'
  else if c == 't' then some '\t'
  else none

/-- The pieces up to the closing quote, and what follows it. -/
def pieces? : List Char → Option (List Piece × List Char)
  | [] => none
  | '"' :: rest => some ([], rest)
  | '\\' :: 'u' :: a :: b :: c :: d :: rest => do
    let n ← hex4? a b c d
    let (ps, rest) ← pieces? rest
    some (.unit n :: ps, rest)
  | '\\' :: e :: rest => do
    let c ← escaped? e
    let (ps, rest) ← pieces? rest
    some (.byte c.toNat :: ps, rest)
  | c :: rest =>
    if c.toNat < 32 || c == '\\' then none
    else do
      let (ps, rest) ← pieces? rest
      some (.byte c.toNat :: ps, rest)

/-- The bytes of the pieces; `none` when half of a surrogate pair stands alone. -/
def piecesBytes? : List Piece → Option (List UInt8)
  | [] => some []
  | .byte n :: ps => (piecesBytes? ps).map (UInt8.ofNat n :: ·)
  | .unit h :: .unit l :: ps =>
    if 0xD800 ≤ h && h < 0xDC00 then
      if 0xDC00 ≤ l && l < 0xE000 then
        let c := Char.ofNat (0x10000 + (h - 0xD800) * 0x400 + (l - 0xDC00))
        (piecesBytes? ps).map (String.utf8EncodeChar c ++ ·)
      else none
    else if 0xDC00 ≤ h && h < 0xE000 then none
    else (piecesBytes? (.unit l :: ps)).map (String.utf8EncodeChar (Char.ofNat h) ++ ·)
  | .unit n :: ps =>
    if 0xD800 ≤ n && n < 0xE000 then none
    else (piecesBytes? ps).map (String.utf8EncodeChar (Char.ofNat n) ++ ·)

/-- The text of the pieces, if they form one. -/
def piecesText? (ps : List Piece) : Option String :=
  (piecesBytes? ps).bind fun bytes => String.fromUTF8? ⟨bytes.toArray⟩

/-- The fraction in front of `cs`, what follows it, and whether there is a point. -/
def fraction? : List Char → Option (List Char × List Char × Bool)
  | '.' :: r =>
    let (ds, r) := Decimal.spanDigits r
    if ds.isEmpty then none else some (ds, r, true)
  | r => some ([], r, false)

/-- Whether a minus sign stands in front of an exponent, and what follows its sign. -/
def exponentSign : List Char → Bool × List Char
  | '-' :: r => (true, r)
  | '+' :: r => (false, r)
  | r => (false, r)

/-- The exponent in front of `cs`, if there is one, and what follows it. -/
def exponent? : List Char → Option (Option Int × List Char)
  | [] => some (none, [])
  | c :: r =>
    if c == 'e' || c == 'E' then
      let (down, r) := exponentSign r
      let (ds, r) := Decimal.spanDigits r
      if ds.isEmpty then none
      else
        let e : Int := Decimal.digitsValue ds
        some (some (if down then -e else e), r)
    else some (none, c :: r)

/-- The numeral in front of `cs` after its sign. -/
def unsigned? (negative : Bool) (cs : List Char) : Option (Decimal.Numeral × Bool × List Char) :=
  let (whole, cs) := Decimal.spanDigits cs
  if whole.isEmpty || (whole.head? == some '0' && whole.length != 1) then none
  else (fraction? cs).bind fun (fraction, cs, point) =>
    (exponent? cs).map fun (e, r) =>
      (⟨negative, whole, fraction, e.getD 0⟩, !point && e.isNone, r)

/-- A numeral in front of `cs`: no leading zero, digits around the point, digits in the exponent; the
truth value tells that it has neither a point nor an exponent. -/
def numeral? : List Char → Option (Decimal.Numeral × Bool × List Char)
  | '-' :: r => unsigned? true r
  | r => unsigned? false r

/-- What a numeral stands for: `plain` tells that it has neither a point nor an exponent. -/
def numberOf (n : Decimal.Numeral) (plain : Bool) : Json :=
  let whole := Decimal.digitsValue n.whole
  if plain && whole ≤ Decimal.max64 then
    if !n.negative then .number (.nat whole)
    else if whole == 0 then .number (.float (-0.0))
    else if whole ≤ Decimal.maxSigned64 + 1 then .number (.negative whole)
    else .number (.float (-(UInt64.ofNat whole).toFloat))
  else if n.value.isInf then .broken
  else .number (.float n.value)

/-- An object, unless one of the names is no text. -/
def objectOf (fs : List (Option String × Json)) : Json :=
  match fs.mapM fun f => f.1.map (·, f.2) with
  | some fs => .object fs
  | none => .broken

/-- The rest of `cs` after `word`. -/
def word? : List Char → List Char → Option (List Char)
  | [], cs => some cs
  | w :: ws, c :: cs => if w == c then word? ws cs else none
  | _ :: _, [] => none

mutual

/-- The value in front of `cs`, after white space. -/
def value? : Nat → List Char → Option (Json × List Char)
  | 0, _ => none
  | fuel + 1, cs =>
    match skip cs with
    | [] => none
    | 'n' :: r => (word? ['u', 'l', 'l'] r).map fun r => (.null, r)
    | 't' :: r => (word? ['r', 'u', 'e'] r).map fun r => (.bool true, r)
    | 'f' :: r => (word? ['a', 'l', 's', 'e'] r).map fun r => (.bool false, r)
    | '"' :: r => do
      let (ps, r) ← pieces? r
      some (match piecesText? ps with
        | some s => .string s
        | none => .broken, r)
    | '[' :: r =>
      match skip r with
      | ']' :: r => some (.array [], r)
      | r => (items? fuel r).map fun (xs, r) => (.array xs, r)
    | '{' :: r =>
      match skip r with
      | '}' :: r => some (.object [], r)
      | r => (fields? fuel r).map fun (fs, r) => (objectOf fs, r)
    | r => (numeral? r).map fun (n, plain, r) => (numberOf n plain, r)

/-- The items up to the closing bracket. -/
def items? : Nat → List Char → Option (List Json × List Char)
  | 0, _ => none
  | fuel + 1, cs => do
    let (x, r) ← value? fuel cs
    match skip r with
    | ',' :: r => (items? fuel r).map fun (xs, r) => (x :: xs, r)
    | ']' :: r => some ([x], r)
    | _ => none

/-- The fields up to the closing brace; a name that forms no text is kept as `none`. -/
def fields? : Nat → List Char → Option (List (Option String × Json) × List Char)
  | 0, _ => none
  | fuel + 1, cs =>
    match skip cs with
    | '"' :: r => do
      let (ps, r) ← pieces? r
      match skip r with
      | ':' :: r =>
        let (x, r) ← value? fuel r
        match skip r with
        | ',' :: r => (fields? fuel r).map fun (fs, r) => ((piecesText? ps, x) :: fs, r)
        | '}' :: r => some ([(piecesText? ps, x)], r)
        | _ => none
      | _ => none
    | _ => none

end

/-- The document that the bytes write, if they write one. -/
def ofBytes? (b : ByteArray) : Option Json := do
  let cs := b.data.toList.map fun u => Char.ofNat u.toNat
  let (j, r) ← value? (cs.length + 1) cs
  if (skip r).isEmpty then some j else none

/-- The document that `s` writes, if it writes one. -/
def parse? (s : String) : Option Json := ofBytes? s.toUTF8

end SuiteBench.Json
