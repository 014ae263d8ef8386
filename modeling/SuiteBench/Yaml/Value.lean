import SuiteBench.Yaml.Node
import SuiteBench.Decimal.Reader

/-!
# Yaml.Value — what nodes mean

A plain scalar is null, a boolean, a number or a text.  A number with a zero in front is a text, and
so is everything that stands in quotes.

An alias stands for a node elsewhere in the document, so that a short document can describe a very
large value, or one that holds itself.  Two limits keep the reading finite: collections nest only so
deep, and the aliases followed are counted and must not outnumber the places of the document by far.
-/

namespace SuiteBench.Yaml

/-! ### Documents with aliases -/

/-- A reading of a document: it may fail, and the aliases followed so far are counted. -/
abbrev Reading := ReaderT Document (StateT Nat Option)

namespace Reading

/-- How often as many aliases may be followed as the document has places. -/
def repetitions : Nat := 100

/-- How deep the collections of a value may nest. -/
def deepest : Nat := 128

/-- What may be missing. -/
def ofOption {α : Type} (a? : Option α) : Reading α := fun _ n => a?.map fun a => (a, n)

/-- No value. -/
def fail {α : Type} : Reading α := ofOption none

/-- The node itself, or the one that an alias stands for. -/
def follow : Node → Reading Node
  | .alias mark => fun d n =>
    if repetitions * d.size < n + 1 then none
    else (d.marked.lookup mark).map fun target => (target, n + 1)
  | node => pure node

/-- The outcome of a reading of a document. -/
def run {α : Type} (r : Reading α) (d : Document) : Option α := (r d 0).map (·.1)

end Reading

/-! ### Scalars -/

/-- Whether a plain scalar is null. -/
def isNull (s : String) : Bool := s == "null" || s == "Null" || s == "NULL" || s == "~"

/-- The boolean that a plain scalar writes. -/
def bool? (s : String) : Option Bool :=
  if s == "true" || s == "True" || s == "TRUE" then some true
  else if s == "false" || s == "False" || s == "FALSE" then some false
  else none

/-- Whether the digits start with a zero that no number has in front. -/
def hasLeadingZero (cs : List Char) : Bool :=
  let cs := match cs with
    | '-' :: cs | '+' :: cs => cs
    | cs => cs
  match cs with
  | '0' :: c :: rest => (c :: rest).all Decimal.isDigit
  | _ => false

/-- The number that digits of a base write. -/
def baseNumber? (base : Nat) (cs : List Char) : Option Nat :=
  if cs.isEmpty then none
  else cs.foldlM (fun n c => do
    let v ← hexNumber? [c]
    if v < base then some (n * base + v) else none) 0

/-- The number within `0..bound` that a plain scalar writes, in base ten, or in base sixteen, eight
or two behind `0x`, `0o` or `0b`. -/
def nat? (bound : Nat) (cs : List Char) : Option Nat :=
  let cs' := match cs with
    | '+' :: r => r
    | r => r
  let n? := match cs' with
    | '0' :: 'x' :: r => baseNumber? 16 r
    | '0' :: 'o' :: r => baseNumber? 8 r
    | '0' :: 'b' :: r => baseNumber? 2 r
    | r => if hasLeadingZero cs then none else baseNumber? 10 r
  n?.filter (· ≤ bound)

/-- The number of a negative plain scalar, without its sign, at most `bound`. -/
def negative? (bound : Nat) : List Char → Option Nat
  | '-' :: '+' :: _ => none
  | '-' :: r => nat? bound r
  | _ => none

/-- The number within `-(bound + 1)..bound` that a plain scalar writes. -/
def int? (bound : Nat) (cs : List Char) : Option Int :=
  match negative? (bound + 1) cs with
  | some n => some (-n)
  | none => (nat? bound cs).map Int.ofNat

/-- Whether a plain scalar writes a double. -/
def isFloat (cs : List Char) : Bool :=
  let unsigned? := match cs with
    | '+' :: '+' :: _ | '+' :: '-' :: _ => none
    | '+' :: r => some r
    | r => some r
  let infinite (r : List Char) : Bool := [".inf", ".Inf", ".INF"].contains (String.ofList r)
  match unsigned? with
  | none => false
  | some r =>
    infinite r || (cs.head? == some '-' && infinite (cs.drop 1)) ||
      [".nan", ".NaN", ".NAN"].contains (String.ofList cs) ||
      (Decimal.readFloat? r).any Float.isFinite

/-- A value without a type that it is read for. -/
inductive Value where
  | null
  | bool (b : Bool)
  | nat (n : Nat)
  /-- A negative or broken number. -/
  | otherNumber
  | text (s : String)
  | list (items : List Value)
  | map (pairs : List (Value × Value))

/-- The largest number of one hundred and twenty-eight bits. -/
def max128 : Nat := 340282366920938463463374607431768211455

/-- The value of a plain scalar; whole numbers of more than sixty-four bits have none. -/
def plainValue? (s : String) : Option Value :=
  let cs := s.toList
  if s.isEmpty || isNull s then some .null
  else match bool? s with
    | some b => some (.bool b)
    | none =>
      match nat? max128 cs with
      | some n => if n ≤ Decimal.max64 then some (.nat n) else none
      | none =>
        match negative? (max128 / 2 + 1) cs with
        | some n => if n ≤ Decimal.maxSigned64 + 1 then some .otherNumber else none
        | none =>
          if !hasLeadingZero cs && isFloat cs then some .otherNumber else some (.text s)

/-- The full text of a standard tag. -/
def standardTag (name : String) : String := "tag:yaml.org,2002:" ++ name

/-- The value of a scalar with a standard tag. -/
def taggedValue? (tag s : String) : Option Value :=
  if tag == standardTag "bool" then (bool? s).map .bool
  else if tag == standardTag "int" then
    match nat? Decimal.max64 s.toList with
    | some n => some (.nat n)
    | none => (negative? (Decimal.maxSigned64 + 1) s.toList).map fun _ => .otherNumber
  else if tag == standardTag "float" then if isFloat s.toList then some .otherNumber else none
  else if tag == standardTag "null" then if isNull s then some .null else none
  else some (.text s)

/-- Whether a tag is one of the program's own, with an exclamation mark in front. -/
def isOwnTag (tag : Option String) : Bool := tag.any fun t => t.toList.head? == some '!'

/-- The value of a scalar. -/
def scalarValue? (tag : Option String) (style : ScalarStyle) (s : String) : Option Value :=
  match tag with
  | some t => if isOwnTag tag then none else taggedValue? t s
  | none => if style == .plain then plainValue? s else some (.text s)

/-- The value of a node whose collections nest at most `depth` deep; nodes with tags of the
program's own have none. -/
def Node.value : Nat → Node → Reading Value
  | depth, n => do
    match depth, ← Reading.follow n with
    | _, .scalar tag style s => Reading.ofOption (scalarValue? tag style s)
    | depth + 1, .sequence tag items =>
      if isOwnTag tag then Reading.fail else return .list (← items.mapM (value depth))
    | depth + 1, .mapping tag pairs =>
      if isOwnTag tag then Reading.fail
      else return .map (← pairs.mapM fun (k, v) => do return (← value depth k, ← value depth v))
    | _, _ => Reading.fail

end SuiteBench.Yaml
