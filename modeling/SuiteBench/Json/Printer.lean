import SuiteBench.Json.Value

/-!
# Json.Printer — JSON text

`compact` writes a document without white space; `pretty` puts each item and field on a line of its
own, indented by two blanks a level.
-/

namespace SuiteBench.Json

/-- The text of a number; one without finite value is `null`. -/
def numberText : JsonNumber → String
  | .nat n => Decimal.ofNat n
  | .negative n => "-" ++ Decimal.ofNat n
  | .float x => Decimal.Layout.json.text x

/-- A digit of base sixteen. -/
def hexDigit (n : Nat) : Char := if n < 10 then Char.ofNat (48 + n) else Char.ofNat (87 + n)

/-- A character inside quotes. -/
def escapeChar (c : Char) : List Char :=
  if c == '"' then ['\\', '"']
  else if c == '\\' then ['\\', '\\']
  else if c == '\n' then ['\\', 'n']
  else if c == '\r' then ['\\', 'r']
  else if c == '\t' then ['\\', 't']
  else if c.toNat == 8 then ['\\', 'b']
  else if c.toNat == 12 then ['\\', 'f']
  else if c.toNat < 32 then
    ['\\', 'u', '0', '0', hexDigit (c.toNat / 16), hexDigit (c.toNat % 16)]
  else [c]

/-- `s` in quotes. -/
def quote (s : String) : String :=
  "\"" ++ String.ofList (s.toList.flatMap escapeChar) ++ "\""

/-- The texts with commas between them. -/
def commas : List String → String := String.intercalate ","

mutual

/-- A document without white space. -/
def compact : Json → String
  | .null => "null"
  | .bool b => if b then "true" else "false"
  | .number n => numberText n
  | .string s => quote s
  | .broken => "null"
  | .array xs => "[" ++ commas (compactItems xs) ++ "]"
  | .object fs => "\x7b" ++ commas (compactFields fs) ++ "\x7d"

/-- The items of an array. -/
def compactItems : List Json → List String
  | [] => []
  | x :: xs => compact x :: compactItems xs

/-- The fields of an object. -/
def compactFields : List (String × Json) → List String
  | [] => []
  | (k, v) :: fs => (quote k ++ ":" ++ compact v) :: compactFields fs

end

/-- A line break and the indentation of `depth` levels. -/
def lineBreak (depth : Nat) : String := "\n" ++ String.ofList (List.replicate (2 * depth) ' ')

/-- Brackets around `parts`, each on its own line one level deeper than `depth`. -/
def block (opening closing : String) (depth : Nat) (parts : List String) : String :=
  if parts.isEmpty then opening ++ closing
  else opening ++ lineBreak (depth + 1) ++
    String.intercalate ("," ++ lineBreak (depth + 1)) parts ++ lineBreak depth ++ closing

mutual

/-- A document with a line for each item and field, starting at the level `depth`. -/
def prettyAt (depth : Nat) : Json → String
  | .null => "null"
  | .bool b => if b then "true" else "false"
  | .number n => numberText n
  | .string s => quote s
  | .broken => "null"
  | .array xs => block "[" "]" depth (prettyItems (depth + 1) xs)
  | .object fs => block "\x7b" "\x7d" depth (prettyFields (depth + 1) fs)

/-- The items of an array. -/
def prettyItems (depth : Nat) : List Json → List String
  | [] => []
  | x :: xs => prettyAt depth x :: prettyItems depth xs

/-- The fields of an object. -/
def prettyFields (depth : Nat) : List (String × Json) → List String
  | [] => []
  | (k, v) :: fs => (quote k ++ ": " ++ prettyAt depth v) :: prettyFields depth fs

end

/-- A document with a line for each item and field. -/
def pretty (j : Json) : String := prettyAt 0 j

end SuiteBench.Json
