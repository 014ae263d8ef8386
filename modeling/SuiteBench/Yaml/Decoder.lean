import SuiteBench.Yaml.Value

/-!
# Yaml.Decoder — values of other types from nodes

Numbers and booleans are read from plain scalars, texts from any scalar as it is written.  Where
nothing is written, a structure, a list or a map is empty.
-/

namespace SuiteBench.Yaml

namespace Node

/-- Whether nothing is written. -/
def isNothing : Node → Bool
  | .scalar _ .plain "" => true
  | _ => false

/-- The text of a plain scalar, or of a literal one with this standard tag. -/
def plainText? (tag : String) : Node → Option String
  | .scalar _ .plain s => some s
  | .scalar (some t) .literal s => if t == standardTag tag then some s else none
  | _ => none

/-- A whole number within `0..bound`. -/
def nat (bound : Nat) (n : Node) : Reading Nat := do
  Reading.ofOption (((← Reading.follow n).plainText? "int").bind fun s => Yaml.nat? bound s.toList)

/-- A whole number within `-(bound + 1)..bound`. -/
def int (bound : Nat) (n : Node) : Reading Int := do
  Reading.ofOption (((← Reading.follow n).plainText? "int").bind fun s => Yaml.int? bound s.toList)

/-- A boolean. -/
def bool (n : Node) : Reading Bool := do
  Reading.ofOption (((← Reading.follow n).plainText? "bool").bind Yaml.bool?)

/-- A text: any scalar as it is written. -/
def text (n : Node) : Reading String := do
  match ← Reading.follow n with
  | .scalar _ _ s => return s
  | _ => Reading.fail

/-- The text of a scalar, or none for null.  A scalar with a tag other than that of null is a
text. -/
def scalarOrNull? : Node → Option (Option String)
  | .scalar tag .plain s =>
    if tag == some (standardTag "null") then if isNull s then some none else none
    else if tag.isNone && (s.isEmpty || isNull s) then some none
    else some (some s)
  | .scalar _ _ s => some (some s)
  | _ => none

/-- Null for nothing, or a text. -/
def optionalText (n : Node) : Reading (Option String) := do
  Reading.ofOption (scalarOrNull? (← Reading.follow n))

/-- The items of a sequence. -/
def list {α : Type} (decode : Node → Reading α) (n : Node) : Reading (List α) := do
  match ← Reading.follow n with
  | .sequence _ items => items.mapM decode
  | n => if n.isNothing then return [] else Reading.fail

/-- The pairs of a mapping whose keys are scalars. -/
def pairs (n : Node) : Reading (List (String × Node)) := do
  match ← Reading.follow n with
  | .mapping _ ps => ps.mapM fun (k, v) => do return (← k.text, v)
  | n => if n.isNothing then return [] else Reading.fail

/-- The fields named in `names` that a mapping gives, each at most once; others are passed over. -/
def fields (names : List String) (n : Node) : Reading (List (String × Node)) := do
  let known := (← n.pairs).filter fun p => names.contains p.1
  if names.all fun n => (known.filter fun p => p.1 == n).length ≤ 1 then return known
  else Reading.fail

/-- The name that a scalar gives, or that the tag of a null gives. -/
def name? : Node → Option String
  | .scalar tag style s =>
    match tag.map String.toList with
    | some ('!' :: name) =>
      if style == .plain && (s.isEmpty || isNull s) then some (String.ofList name) else none
    | _ => some s
  | _ => none

/-- One of a set of names. -/
def named {α : Type} (ofName? : String → Option α) (n : Node) : Reading α := do
  Reading.ofOption ((← Reading.follow n).name?.bind ofName?)

end Node

/-- The value of a field, or `fallback` when the field is absent. -/
def field {α : Type} (fs : List (String × Node)) (name : String) (fallback : α)
    (decode : Node → Reading α) : Reading α :=
  match fs.lookup name with
  | some n => decode n
  | none => return fallback

namespace Value

/-- A text. -/
def text? : Value → Option String
  | .text s => some s
  | _ => none

/-- One of the things in `all`, by its name as a text; or as the only key of a map with nothing
behind it, where the number of its place does as well. -/
def named? {α : Type} (all : List α) (name : α → String) : Value → Option α
  | .text s => all.find? (name · == s)
  | .map [(.text s, .null)] | .map [(.text s, .map [])] => all.find? (name · == s)
  | .map [(.nat n, .null)] | .map [(.nat n, .map [])] => all[n]?
  | _ => none

/-- Null for nothing, or a value. -/
def nullable? {α : Type} (decode : Value → Option α) : Value → Option (Option α)
  | .null => some none
  | v => (decode v).map some

/-- The field that a key means: its name, or its number in the order of `names`. -/
def fieldName? (names : List String) : Value → Option String
  | .text s => some s
  | .nat n => some (names.getD n "")
  | _ => none

/-- The fields named in `names` that a map gives, each at most once; others are passed over. -/
def fields? (names : List String) (pairs : List (Value × Value)) :
    Option (List (String × Value)) := do
  let given ← pairs.mapM fun (k, v) => (fieldName? names k).map fun k => (k, v)
  let known := given.filter fun f => names.contains f.1
  if names.all fun n => (known.filter fun f => f.1 == n).length ≤ 1 then some known else none

end Value

end SuiteBench.Yaml
