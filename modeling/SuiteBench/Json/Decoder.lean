import SuiteBench.Json.Value
import SuiteBench.Decimal.Natural

/-!
# Json.Decoder — values of other types from documents

A structure is written as an object with named fields, or as an array of the fields in order.  A
field that the structure does not know is passed over; one that it knows must not come twice.
-/

namespace SuiteBench.Json

/-- The fields of a structure that a document gives. -/
abbrev Fields := List (String × Json)

/-- The fields named in `names` that `j` gives: from an object those it holds, each at most once;
from an array its items in the order of `names`. -/
def structure? (names : List String) : Json → Option Fields
  | .object fs =>
    let known := fs.filter fun f => names.contains f.1
    if names.all fun n => (known.filter fun f => f.1 == n).length ≤ 1 then some known else none
  | .array xs => if xs.length ≤ names.length then some (names.zip xs) else none
  | _ => none

/-- The value of a field that has to be there. -/
def Fields.required {α : Type} (fs : Fields) (name : String) (decode : Json → Option α) :
    Option α :=
  match fs.lookup name with
  | some j => decode j
  | none => none

/-- The value of a field, or `fallback` when the field is absent. -/
def Fields.optional {α : Type} (fs : Fields) (name : String) (fallback : α)
    (decode : Json → Option α) : Option α :=
  match fs.lookup name with
  | some j => decode j
  | none => some fallback

/-- A whole number within `0..bound`. -/
def nat? (bound : Nat) : Json → Option Nat
  | .number (.nat n) => if n ≤ bound then some n else none
  | _ => none

/-- A whole number within `-(bound + 1)..bound`. -/
def int? (bound : Nat) : Json → Option Int
  | .number (.nat n) => if n ≤ bound then some n else none
  | .number (.negative n) => if n ≤ bound + 1 then some (-n) else none
  | _ => none

/-- Any number, as a double. -/
def float? : Json → Option Float
  | .number (.nat n) => some (UInt64.ofNat n).toFloat
  | .number (.negative n) => some (-(UInt64.ofNat n).toFloat)
  | .number (.float x) => some x
  | _ => none

/-- A boolean. -/
def bool? : Json → Option Bool
  | .bool b => some b
  | _ => none

/-- A string. -/
def text? : Json → Option String
  | .string s => some s
  | _ => none

/-- The items of an array. -/
def list? {α : Type} (decode : Json → Option α) : Json → Option (List α)
  | .array xs => xs.mapM decode
  | _ => none

/-- `null` for nothing, or a value. -/
def nullable? {α : Type} (decode : Json → Option α) : Json → Option (Option α)
  | .null => some none
  | j => (decode j).map some

/-- One of a set of names: the name as a string, or as the only field of an object, with `null`. -/
def named? {α : Type} (ofName : String → Option α) : Json → Option α
  | .string s => ofName s
  | .object [(s, .null)] => ofName s
  | _ => none

end SuiteBench.Json
