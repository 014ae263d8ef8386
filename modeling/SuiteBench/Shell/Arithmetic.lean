import SuiteBench.Text.Lines

/-!
# Shell.Arithmetic — formulas over words of 64 bits

A formula is read and evaluated in one pass over its text; variables come from an environment, which
an assignment changes.  A part whose value does not count is read but not evaluated.
-/

namespace SuiteBench.Shell.Arithmetic

/-- The variables that a formula sees and changes. -/
abbrev Variables := List (String × String)

/-- Why a formula has no value. -/
inductive FormulaFault where
  | expectingPrimary
  | expectingEnd
  | expectingClose
  | expectingColon
  | divisionByZero
  | illegalNumber (text : String)
  deriving DecidableEq, Repr

/-- The wording of a `FormulaFault` in a formula. -/
def FormulaFault.message (formula : String) : FormulaFault → String
  | .illegalNumber s => "Illegal number: " ++ s
  | .expectingPrimary => "arithmetic expression: expecting primary: \"" ++ formula ++ "\""
  | .expectingEnd => "arithmetic expression: expecting EOF: \"" ++ formula ++ "\""
  | .expectingClose => "arithmetic expression: expecting ')': \"" ++ formula ++ "\""
  | .expectingColon => "arithmetic expression: expecting ':': \"" ++ formula ++ "\""
  | .divisionByZero => "arithmetic expression: division by zero: \"" ++ formula ++ "\""

/-- The text after blanks. -/
def skip (cs : List Char) : List Char := cs.dropWhile fun c => c == ' ' || c == '\t' || c == '\n'

/-- White space around a number. -/
def isSpace (c : Char) : Bool := c == ' ' || (9 ≤ c.toNat && c.toNat ≤ 13)

/-- The digit in a base. -/
def digit? (base : Nat) (c : Char) : Option Nat :=
  let n := if c.isDigit then c.toNat - 48
    else if 'a' ≤ c && c ≤ 'f' then c.toNat - 87
    else if 'A' ≤ c && c ≤ 'F' then c.toNat - 55 else 99
  if n < base then some n else none

/-- The leading digits in a base and the rest. -/
def digits (base : Nat) (cs : List Char) : Nat × List Char :=
  let ds := cs.takeWhile fun c => (digit? base c).isSome
  (ds.foldl (fun n c => n * base + (digit? base c).getD 0) 0, cs.drop ds.length)

/-- A hexadecimal number behind its mark, if a digit follows. -/
def hexadecimal? (cs : List Char) : Option (Nat × List Char) :=
  if (cs.head?.bind (digit? 16)).isSome then some (digits 16 cs) else none

/-- A number at the front of a text: hexadecimal, octal or decimal by its start. -/
def number (cs : List Char) : Nat × List Char :=
  match cs with
  | '0' :: 'x' :: r => (hexadecimal? r).getD (0, 'x' :: r)
  | '0' :: 'X' :: r => (hexadecimal? r).getD (0, 'X' :: r)
  | '0' :: r => digits 8 r
  | _ => digits 10 cs

/-- A number with blanks and a sign in front, and the rest; there is none without a digit. -/
def signed? (read : List Char → Nat × List Char) (cs : List Char) : Option (Int × List Char) :=
  let cs := cs.dropWhile isSpace
  let unsigned := match cs with
    | '-' :: r => r
    | '+' :: r => r
    | r => r
  if unsigned.head?.any Char.isDigit then
    let (n, r) := read unsigned
    some (if cs.head? == some '-' then -(n : Int) else n, r)
  else none

/-- The word nearest to a number. -/
def nearest (n : Int) : Int64 :=
  if n < Int64.minValue.toInt then Int64.minValue
  else if Int64.maxValue.toInt < n then Int64.maxValue
  else Int64.ofInt n

/-- Whether a word holds a number. -/
def fits (n : Int) : Bool := (nearest n).toInt == n

/-- The number that a text holds between blanks, as long as a word holds it. -/
def numberOf? (read : List Char → Nat × List Char) (s : String) : Option Int :=
  match signed? read s.toList with
  | some (n, r) => if r.all isSpace && fits n then some n else none
  | none => none

/-- The word that a variable holds; blanks alone are zero. -/
def wordOf (s : String) : Except FormulaFault Int64 :=
  if s.toList.all isSpace then .ok 0
  else match numberOf? number s with
    | some n => .ok (nearest n)
    | none => .error (.illegalNumber s)

/-- One for a true statement, zero for a false one. -/
def truth (b : Bool) : Int64 := if b then 1 else 0

/-- Binary operators by strength, the weakest first; a longer mark stands before its front part. -/
def levels : List (List String) :=
  [["|"], ["^"], ["&"], ["==", "!="], ["<=", ">=", "<", ">"], ["<<", ">>"], ["+", "-"],
    ["*", "/", "%"]]

/-- Whether an operator is only the front part of a longer one. -/
def isLonger (op : String) (rest : List Char) : Bool :=
  match op, rest with
  | "|", '|' :: _ => true
  | "&", '&' :: _ => true
  | "<", '<' :: _ => true
  | ">", '>' :: _ => true
  | _, '=' :: _ => ["|", "^", "&", "<<", ">>", "+", "-", "*", "/", "%"].contains op
  | _, _ => false

/-- The operator of a level that stands next. -/
def operator? (ops : List String) (cs : List Char) : Option (String × List Char) :=
  ops.findSome? fun op =>
    match Text.stripFront? op.toList (skip cs) with
    | some r => if isLonger op r then none else some (op, r)
    | none => none

/-- The value of a binary operator; there is none for a division by zero. -/
def apply (op : String) (a b : Int64) : Except FormulaFault Int64 :=
  match op with
  | "|" => .ok (a ||| b)
  | "^" => .ok (a ^^^ b)
  | "&" => .ok (a &&& b)
  | "==" => .ok (truth (a == b))
  | "!=" => .ok (truth (a != b))
  | "<=" => .ok (truth (a ≤ b))
  | ">=" => .ok (truth (b ≤ a))
  | "<" => .ok (truth (a < b))
  | ">" => .ok (truth (b < a))
  | "<<" => .ok (a <<< b)
  | ">>" => .ok (a >>> b)
  | "+" => .ok (a + b)
  | "-" => .ok (a - b)
  | "*" => .ok (a * b)
  | "/" => if b = 0 then .error .divisionByZero else .ok (a / b)
  | "%" => if b = 0 then .error .divisionByZero else .ok (a % b)
  | _ => .ok b

/-- The operators that may stand in front of an assignment's sign. -/
def assigners : List String := ["+", "-", "*", "/", "%", "<<", ">>", "&", "|", "^", ""]

/-- The operator of an assignment that stands next. -/
def assigner? (cs : List Char) : Option (String × List Char) :=
  assigners.findSome? fun op =>
    match Text.stripFront? (op.toList ++ ['=']) (skip cs) with
    | some ('=' :: r) => if op.isEmpty then none else some (op, '=' :: r)
    | some r => some (op, r)
    | none => none

/-- The name of a variable at the front of a text, which may be empty. -/
def leadingName (cs : List Char) : List Char :=
  match cs with
  | c :: _ => if c.isDigit then [] else cs.takeWhile fun c => c.isAlphanum || c == '_'
  | [] => []

/-- The variables with one of them set. -/
def set (vs : Variables) (name value : String) : Variables :=
  (name, value) :: vs.filter fun v => v.1 != name

/-- The text of a value. -/
def valueText (n : Int) : String := toString n

/-- The value of a variable. -/
def variableValue (vs : Variables) (name : List Char) : Except FormulaFault Int64 :=
  wordOf ((vs.lookup (String.ofList name)).getD "")

mutual

/-- A whole formula: an assignment or a choice. -/
def whole : Nat → Bool → Variables → List Char → Except FormulaFault (Int64 × Variables × List Char)
  | 0, _, _, _ => .error .expectingPrimary
  | n + 1, live, vs, cs =>
    let cs := skip cs
    let name := leadingName cs
    match (if name.isEmpty then none else assigner? (cs.drop name.length)) with
    | some (op, r) => do
      let (b, vs, r) ← whole n live vs r
      if !live then return (b, vs, r)
      let v ← if op.isEmpty then .ok b else do apply op (← variableValue vs name) b
      return (v, set vs (String.ofList name) (valueText v.toInt), r)
    | none => choice n live vs cs

/-- A choice by a condition, or a condition alone. -/
def choice : Nat → Bool → Variables → List Char → Except FormulaFault (Int64 × Variables × List Char)
  | 0, _, _, _ => .error .expectingPrimary
  | n + 1, live, vs, cs => do
    let (c, vs, r) ← either n live vs cs
    match skip r with
    | '?' :: r => do
      let (a, vs, r) ← whole n (live && c != 0) vs r
      match skip r with
      | ':' :: r => do
        let (b, vs, r) ← choice n (live && c == 0) vs r
        return (if c != 0 then a else b, vs, r)
      | _ => .error .expectingColon
    | r => return (c, vs, r)

/-- Conditions of which one suffices. -/
def either : Nat → Bool → Variables → List Char → Except FormulaFault (Int64 × Variables × List Char)
  | 0, _, _, _ => .error .expectingPrimary
  | n + 1, live, vs, cs => do
    let (a, vs, r) ← both n live vs cs
    match skip r with
    | '|' :: '|' :: r => do
      let (b, vs, r) ← either n (live && a == 0) vs r
      return (truth (a != 0 || b != 0), vs, r)
    | r => return (a, vs, r)

/-- Conditions that have to hold together. -/
def both : Nat → Bool → Variables → List Char → Except FormulaFault (Int64 × Variables × List Char)
  | 0, _, _, _ => .error .expectingPrimary
  | n + 1, live, vs, cs => do
    let (a, vs, r) ← binary n live levels vs cs
    match skip r with
    | '&' :: '&' :: r => do
      let (b, vs, r) ← both n (live && a != 0) vs r
      return (truth (a != 0 && b != 0), vs, r)
    | r => return (a, vs, r)

/-- Operands joined by the operators of some levels. -/
def binary : Nat → Bool → List (List String) → Variables → List Char →
    Except FormulaFault (Int64 × Variables × List Char)
  | 0, _, _, _, _ => .error .expectingPrimary
  | n + 1, live, [], vs, cs => unary n live vs cs
  | n + 1, live, ops :: weaker, vs, cs => do
    let (a, vs, r) ← binary n live weaker vs cs
    tail n live ops weaker a vs r

/-- More operands behind a value, from the left. -/
def tail : Nat → Bool → List String → List (List String) → Int64 → Variables → List Char →
    Except FormulaFault (Int64 × Variables × List Char)
  | 0, _, _, _, _, _, _ => .error .expectingPrimary
  | n + 1, live, ops, weaker, a, vs, cs =>
    match operator? ops cs with
    | none => .ok (a, vs, cs)
    | some (op, r) => do
      let (b, vs, r) ← binary n live weaker vs r
      let v ← if live then apply op a b else .ok b
      tail n live ops weaker v vs r

/-- An operand with its signs. -/
def unary : Nat → Bool → Variables → List Char → Except FormulaFault (Int64 × Variables × List Char)
  | 0, _, _, _ => .error .expectingPrimary
  | n + 1, live, vs, cs =>
    match skip cs with
    | '-' :: r => do
      let (a, vs, r) ← unary n live vs r
      return (-a, vs, r)
    | '+' :: r => unary n live vs r
    | '!' :: r => do
      let (a, vs, r) ← unary n live vs r
      return (truth (a == 0), vs, r)
    | '~' :: r => do
      let (a, vs, r) ← unary n live vs r
      return (~~~a, vs, r)
    | '(' :: r => do
      let (a, vs, r) ← whole n live vs r
      match skip r with
      | ')' :: r => return (a, vs, r)
      | _ => .error .expectingClose
    | c :: r =>
      if c.isDigit then
        let (v, r) := number (c :: r)
        .ok (nearest v, vs, r)
      else
        let name := leadingName (c :: r)
        if name.isEmpty then .error .expectingPrimary
        else do
          let v ← if live then variableValue vs name else .ok 0
          return (v, vs, (c :: r).drop name.length)
    | [] => .error .expectingPrimary

end

/-- The value of a formula and the variables after it. -/
def evaluate (vs : Variables) (formula : List Char) : Except FormulaFault (Int × Variables) := do
  let (v, vs, r) ← whole (16 * formula.length + 64) true vs formula
  if (skip r).isEmpty then return (v.toInt, vs) else .error .expectingEnd

end SuiteBench.Shell.Arithmetic
