import SuiteBench.Decimal.Layout

/-!
# Json.Value — JSON documents

A document is a tree of nulls, booleans, numbers, strings, arrays and objects.  Objects keep the
order of their fields and may repeat a name.
-/

namespace SuiteBench

/-- A JSON number, by the way it is held. -/
inductive JsonNumber where
  /-- A whole number of at most sixty-four bits. -/
  | nat (n : Nat)
  /-- A negative whole number of at most sixty-four bits. -/
  | negative (n : Nat)
  | float (x : Float)

/-- A JSON document. -/
inductive Json where
  | null
  | bool (b : Bool)
  | number (n : JsonNumber)
  | string (s : String)
  /-- What is written as a value but holds none: a numeral beyond the doubles, a string that forms
  no text, or an object with such a name. -/
  | broken
  | array (items : List Json)
  | object (fields : List (String × Json))

namespace Json

/-- A whole number. -/
def ofNat (n : Nat) : Json := .number (.nat n)

/-- A whole number with a sign. -/
def ofInt (n : Int) : Json := if n < 0 then .number (.negative n.natAbs) else .number (.nat n.natAbs)

/-- A double. -/
def ofFloat (x : Float) : Json := .number (.float x)

/-- `null` for a missing value. -/
def ofOption {α : Type} (f : α → Json) : Option α → Json
  | some a => f a
  | none => .null

/-- An array of strings. -/
def ofTexts (xs : List String) : Json := .array (xs.map .string)

/-- The fields of an object that have names in `names`. -/
def restrict (names : List String) : Json → Json
  | .object fs => .object (fs.filter fun f => names.contains f.1)
  | j => j

/-- The fields with one more in the order of the names. -/
def insertField (f : String × Json) : List (String × Json) → List (String × Json)
  | [] => [f]
  | g :: gs => if f.1 < g.1 then f :: g :: gs else g :: insertField f gs

mutual

/-- The document with the fields of every object in the order of their names. -/
def sorted : Json → Json
  | .array xs => .array (sortedItems xs)
  | .object fs => .object (sortedFields fs)
  | j => j

/-- The documents, each with its fields in order. -/
def sortedItems : List Json → List Json
  | [] => []
  | x :: xs => sorted x :: sortedItems xs

/-- The fields in the order of their names. -/
def sortedFields : List (String × Json) → List (String × Json)
  | [] => []
  | (k, v) :: fs => insertField (k, sorted v) (sortedFields fs)

end

end Json

end SuiteBench
