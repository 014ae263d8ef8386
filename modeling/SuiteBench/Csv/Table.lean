import SuiteBench.Csv.Scan
import SuiteBench.Decimal.Natural
import SuiteBench.Text.Lines
import SuiteBench.Text.Utf8

/-!
# Csv.Table — a header and rows of text

The first record is the header.  Each further record is a row or an error: a row may differ in
length from the header, where that is not allowed, or hold bytes that are no text.

When a table is written, a cell is quoted where it holds a comma, a quote or a line break, with inner
quotes doubled; a row of one empty cell is written as a pair of quotes, since a blank line would be no
row.
-/

namespace SuiteBench.Csv

/-- How a table is read. -/
structure Options where
  /-- The first byte of lines that are passed over. -/
  comment : Option UInt8
  /-- Whether blanks around every cell are dropped. -/
  trims : Bool
  /-- Whether rows may differ in length. -/
  flexible : Bool

/-- Why a record is not a row. -/
inductive ReadError where
  | unequalLengths (position : Position) (expected found : Nat)
  | notText (position : Position) (field byte : Nat)
  | missingField (position : Position) (name : String)
  | duplicateField (position : Position) (name : String)
  deriving DecidableEq, Repr

/-- The wording of a `ReadError`. -/
def ReadError.message : ReadError → String
  | .unequalLengths p expected found =>
    "CSV error: record " ++ Decimal.ofNat p.record ++ " (line: " ++ Decimal.ofNat p.line ++
      ", byte: " ++ Decimal.ofNat p.byte ++ "): found record with " ++ Decimal.ofNat found ++
      " fields, but the previous record has " ++ Decimal.ofNat expected ++ " fields"
  | .notText p field byte =>
    "CSV parse error: record " ++ Decimal.ofNat p.record ++ " (line " ++ Decimal.ofNat p.line ++
      ", field: " ++ Decimal.ofNat field ++ ", byte: " ++ Decimal.ofNat p.byte ++
      "): invalid utf-8: invalid UTF-8 in field " ++ Decimal.ofNat field ++
      " near byte index " ++ Decimal.ofNat byte
  | .missingField p name => deserialize p ("missing field \x60" ++ name ++ "\x60")
  | .duplicateField p name => deserialize p ("duplicate field \x60" ++ name ++ "\x60")
where
  deserialize (p : Position) (what : String) : String :=
    "CSV deserialize error: record " ++ Decimal.ofNat p.record ++ " (line: " ++
      Decimal.ofNat p.line ++ ", byte: " ++ Decimal.ofNat p.byte ++ "): " ++ what

/-- One row. -/
structure Row where
  position : Position
  cells : List String
  deriving DecidableEq, Repr

/-- A header and rows, each of which may be unreadable. -/
structure Table where
  header : Except ReadError (List String)
  rows : List (Except ReadError Row)

/-- The blanks among the bytes: space, tab, line feed, form feed and carriage return. -/
def isBlankByte (b : UInt8) : Bool := b == 32 || b == 9 || b == 10 || b == 12 || b == 13

/-- The bytes without blanks at either end. -/
def trimBytes (bs : List UInt8) : List UInt8 :=
  ((bs.dropWhile isBlankByte).reverse.dropWhile isBlankByte).reverse

/-- The texts of the fields, or the first field that is no text. -/
def texts (position : Position) (fields : List (List UInt8)) :
    Except ReadError (List (List Char)) :=
  fields.zipIdx.mapM fun (bs, i) =>
    match Text.Utf8.decode bs with
    | .ok cs => .ok cs
    | .error n => .error (.notText position i n)

/-- The cell of a field. -/
def cell (trims : Bool) (cs : List Char) : String :=
  String.ofList (if trims then Text.trimChars cs else cs)

/-- The row of a record whose header has `width` fields. -/
def Options.row (o : Options) (width : Nat) (r : RawRecord) : Except ReadError Row := do
  if !o.flexible && r.fields.length != width then
    throw (.unequalLengths r.position width r.fields.length)
  let fields := if o.trims then r.fields.map trimBytes else r.fields
  let cells ← texts r.position fields
  return ⟨r.position, cells.map (cell o.trims)⟩

/-- The table that `bytes` hold. -/
def Options.read (o : Options) (bytes : ByteArray) : Table :=
  match scan o.comment bytes.data.toList with
  | [] => ⟨.ok [], []⟩
  | h :: rest =>
    ⟨(texts h.position h.fields).map (·.map (cell o.trims)), rest.map (o.row h.fields.length)⟩

/-- The value of the named column, by the header. -/
def lookup (header cells : List String) (name : String) : Option String :=
  (header.zip cells).lookup name

/-! ### Tables as text -/

/-- Whether a cell has to be quoted. -/
def needsQuotes (cs : List Char) : Bool :=
  cs.any fun c => c == ',' || c == '"' || c == '\n' || c == '\r'

/-- The text between the quotes of a quoted cell. -/
def doubled : List Char → List Char
  | [] => []
  | c :: cs => if c == '"' then '"' :: '"' :: doubled cs else c :: doubled cs

/-- A cell as it is written. -/
def writeCell (cs : List Char) : List Char :=
  if needsQuotes cs then '"' :: doubled cs ++ ['"'] else cs

/-- A row as it is written, with its line feed. -/
def writeRow (cells : List String) : String :=
  if cells == [""] then "\"\"\n"
  else String.intercalate "," (cells.map fun c => String.ofList (writeCell c.toList)) ++ "\n"

/-- Rows as they are written. -/
def write (rows : List (List String)) : String := String.join (rows.map writeRow)

end SuiteBench.Csv
