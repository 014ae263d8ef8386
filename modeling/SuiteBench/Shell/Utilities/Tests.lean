import SuiteBench.Shell.Utilities.Operands

/-!
# Shell.Utilities.Tests — conditions

A condition is read from left to right over its arguments.  Words that look like operators are
operands where only an operand can stand.
-/

namespace SuiteBench.Shell.Utilities

namespace Condition

/-- What an argument is where a condition looks at it. -/
inductive Role where
  | finished
  | operand
  | unary (op : String)
  | binary (op : String)
  | negation
  | conjunction
  | alternative
  | opening
  | closing
  deriving DecidableEq

/-- Operators of one operand. -/
def unaryOperators : List String :=
  ["-r", "-w", "-x", "-e", "-f", "-d", "-c", "-b", "-p", "-u", "-g", "-k", "-s", "-t", "-z", "-n",
    "-h", "-O", "-G", "-L", "-S"]

/-- Operators of two operands. -/
def binaryOperators : List String :=
  ["=", "!=", "<", ">", "-eq", "-ne", "-ge", "-gt", "-le", "-lt", "-nt", "-ot", "-ef"]

/-- Whether an operator of one operand is an operand itself, by what follows. -/
def standsAlone : List String → Bool
  | [_] => true
  | [_, _] => false
  | _ :: s :: _ => binaryOperators.contains s
  | [] => true

/-- The role of the next argument. -/
def role (args : List String) : Role :=
  match args with
  | [] => .finished
  | s :: r =>
    if unaryOperators.contains s then (if standsAlone args then .operand else .unary s)
    else if binaryOperators.contains s then .binary s
    else if s == "!" then .negation
    else if s == "-a" then .conjunction
    else if s == "-o" then .alternative
    else if s == "(" then (if r.isEmpty then .operand else .opening)
    else if s == ")" then .closing
    else .operand

/-- Whether a test of a file or a text holds. -/
def unary (p : Process) (op a : String) : Except String Bool :=
  let e := p.entry? a
  match op with
  | "-n" => .ok (!a.isEmpty)
  | "-z" => .ok a.isEmpty
  | "-e" => .ok (e.isSome || a == Process.nothing)
  | "-r" => .ok (e.isSome || a == Process.nothing)
  | "-w" => .ok (e.isSome || a == Process.nothing)
  | "-O" => .ok e.isSome
  | "-G" => .ok e.isSome
  | "-f" => .ok (e.any (!·.isDirectory))
  | "-d" => .ok (e.any (·.isDirectory))
  | "-c" => .ok (a == Process.nothing || a == Process.zeros)
  | "-x" => .ok (e.any fun x => match x with
      | .file _ executable => executable
      | .directory => true)
  | "-s" => .ok (e.any fun x => match x with
      | .file c _ => 0 < c.size
      | .directory => true)
  | _ => .ok false

/-- The number that an argument stands for. -/
def numberOf (s : String) : Except String Int :=
  match Arithmetic.numberOf? (Arithmetic.digits 10) s with
  | some n => .ok n
  | none => .error ("Illegal number: " ++ s)

/-- Whether a test of two operands holds. -/
def binary (p : Process) (a op b : String) : Except String Bool := do
  match op with
  | "=" => return a == b
  | "!=" => return a != b
  | "<" => return decide (a < b)
  | ">" => return decide (b < a)
  | "-ef" => return match p.reach a, p.reach b with
    | .ok (x, _), .ok (y, _) => x == y
    | _, _ => false
  | "-nt" => return (p.entry? a).isSome && (p.entry? b).isNone
  | "-ot" => return (p.entry? a).isNone && (p.entry? b).isSome
  | _ =>
    let x ← numberOf a
    let y ← numberOf b
    match op with
    | "-eq" => return x == y
    | "-ne" => return x != y
    | "-lt" => return decide (x < y)
    | "-le" => return decide (x ≤ y)
    | "-gt" => return decide (y < x)
    | _ => return decide (y ≤ x)

mutual

/-- Conditions of which one suffices; the arguments that are left start with the last one used. -/
def anyOf (p : Process) : Nat → List String → Except String (Bool × List String)
  | 0, w => .ok (false, w)
  | n + 1, w => do
    let (a, w) ← allOf p n w
    if role w.tail = .alternative then do
      let (b, w) ← anyOf p n (w.drop 2)
      return (a || b, w)
    else return (a, w)

/-- Conditions that have to hold together. -/
def allOf (p : Process) : Nat → List String → Except String (Bool × List String)
  | 0, w => .ok (false, w)
  | n + 1, w => do
    let (a, w) ← negated p n (role w) w
    if role w.tail = .conjunction then do
      let (b, w) ← allOf p n (w.drop 2)
      return (a && b, w)
    else return (a, w)

/-- A condition with its negations. -/
def negated (p : Process) : Nat → Role → List String → Except String (Bool × List String)
  | 0, _, w => .ok (false, w)
  | n + 1, .negation, w => do
    let next := role w.tail
    let (a, w) ← negated p n next (if next = .finished then w else w.tail)
    return (!a, w)
  | n + 1, r, w => primary p n r w

/-- One condition. -/
def primary (p : Process) : Nat → Role → List String → Except String (Bool × List String)
  | 0, _, w => .ok (false, w)
  | _ + 1, .finished, w => .ok (false, w)
  | n + 1, .opening, w =>
    if role w.tail = .closing then .ok (false, w.tail)
    else do
      let (a, w) ← anyOf p n w.tail
      if role w.tail = .closing then return (a, w.tail) else .error "closing paren expected"
  | _ + 1, .unary op, w =>
    match w.tail with
    | [] => .error (op ++ ": argument expected")
    | a :: _ => do return (← unary p op a, w.tail)
  | _ + 1, _, w =>
    match role w.tail with
    | .binary op =>
      match w, w.drop 2 with
      | a :: _, b :: _ => do return (← binary p a op b, w.drop 2)
      | _, _ => .error (op ++ ": argument expected")
    | _ => .ok (w.head?.any fun a => !a.isEmpty, w)

end

/-- Whether the condition of some arguments holds; what follows it is an error. -/
def whole (p : Process) (startsWithOperand : Bool) (args : List String) : Except String Bool := do
  let n := 8 * args.length + 16
  let (a, w) ← (if startsWithOperand then primary p n .operand args else anyOf p n args)
  match w with
  | s :: _ :: _ => .error (s ++ ": unexpected operator")
  | _ => return a

/-- Whether a condition holds: with three or four arguments, parentheses around all of it and a
negation in front are seen first. -/
def holds (p : Process) : Nat → List String → Except String Bool
  | 0, _ => .ok false
  | n + 1, args =>
    let outer : Except String Bool :=
      if args.length = 3 || args.length = 4 then
        if args.head? == some "(" && args.getLast? == some ")" then
          whole p false (args.tail).dropLast
        else if args.head? == some "!" then (holds p n args.tail).map (!·)
        else whole p false args
      else whole p false args
    match args with
    | [] => .ok false
    | [_, op, _] => if binaryOperators.contains op then whole p true args else outer
    | _ => outer

end Condition

/-- Tests a condition; a malformed one has a status of its own. -/
def test (args : List String) (p : Process) : Process :=
  match Condition.holds p (args.length + 1) args with
  | .ok true => p.withStatus 0
  | .ok false => p.withStatus 1
  | .error why => (p.warn why).withStatus 2

/-- Tests a condition in brackets. -/
def testInBrackets (args : List String) (p : Process) : Process :=
  if args.getLast? == some "]" then test args.dropLast p
  else (p.warn "missing ]").withStatus 2

end SuiteBench.Shell.Utilities
