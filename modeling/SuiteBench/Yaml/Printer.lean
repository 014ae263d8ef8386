import SuiteBench.Yaml.Value
import SuiteBench.Json.Value
import SuiteBench.Text.Lines

/-!
# Yaml.Printer — documents as YAML

Collections are written as indented blocks, sequences at the column of the mapping they stand in.  A
text is written plain where it reads back as itself, in single quotes where it would read as
something else, as a literal block where it has several lines, and in double quotes where it holds
characters that need an escape.
-/

namespace SuiteBench.Yaml

/-- Whether a character is written as it is. -/
def isPrintable (c : Char) : Bool :=
  let n := c.toNat
  n == 0x0A || (0x20 ≤ n && n ≤ 0x7E) || (0xA0 ≤ n && n ≤ 0xD7FF) ||
    (0xE000 ≤ n && n ≤ 0xFFFD && n != 0xFEFF) || 0x10000 ≤ n

/-- What a text allows, found in one pass over its characters. -/
structure ScalarTraits where
  /-- Whether an indicator stands where a plain scalar may not have it. -/
  indicators : Bool
  special : Bool
  breaks : Bool
  /-- A space or break at either end. -/
  looseEnds : Bool
  trailingSpace : Bool
  /-- A space right behind a break. -/
  breakSpace : Bool
  /-- A break right behind a space. -/
  spaceBreak : Bool

namespace ScalarTraits

/-- The indicators that no plain scalar starts with. -/
def firstIndicators : List Char := "#,[]\x7b\x7d&*!|>'\"%@\x60".toList

/-- Whether the character `c` between `before` and `after` keeps a text from being plain. -/
def isIndicator (before after : Option Char) (c : Char) : Bool :=
  let gap (x : Option Char) : Bool := x.all fun c => isSpace c || isBreak c
  match before with
  | none => firstIndicators.contains c || ((c == '?' || c == ':' || c == '-') && gap after)
  | some _ => (c == ':' && gap after) || (c == '#' && gap before)

/-- Neighbours of each character of a text. -/
def neighbours : Option Char → List Char → List (Option Char × Char × Option Char)
  | _, [] => []
  | before, c :: cs => (before, c, cs.head?) :: neighbours (some c) cs

/-- The traits of a text. -/
def of (cs : List Char) : ScalarTraits :=
  let ns := neighbours none cs
  let marker := Text.startsWith "---".toList cs || Text.startsWith "...".toList cs
  let loose (c : Option Char) : Bool := c.any fun c => c == ' ' || isBreak c
  { indicators := marker || ns.any fun (b, c, a) => isIndicator b a c
    special := cs.any (!isPrintable ·)
    breaks := cs.any isBreak
    looseEnds := loose cs.head? || loose cs.getLast?
    trailingSpace := cs.getLast? == some ' '
    breakSpace := ns.any fun (b, c, _) => c == ' ' && b.any isBreak
    spaceBreak := ns.any fun (b, c, _) => isBreak c && b == some ' ' }

/-- Whether a text may be written plain. -/
def plainAllowed (t : ScalarTraits) : Bool :=
  !(t.indicators || t.special || t.breaks || t.looseEnds || t.breakSpace || t.spaceBreak)

/-- Whether a text may be written in single quotes. -/
def quotesAllowed (t : ScalarTraits) : Bool := !(t.special || t.breakSpace || t.spaceBreak)

/-- Whether a text may be written as a block. -/
def blockAllowed (t : ScalarTraits) : Bool := !(t.special || t.spaceBreak || t.trailingSpace)

end ScalarTraits

/-- Whether a text, written plain, would read as something else. -/
def readsOtherwise (s : String) : Bool :=
  hasLeadingZero s.toList || match plainValue? s with
    | some (.text _) => false
    | _ => true

/-- How a text is written; a key stays on one line. -/
def styleOf (isKey : Bool) (s : String) : ScalarStyle :=
  let cs := s.toList
  let t := ScalarTraits.of cs
  let wanted : ScalarStyle :=
    if cs.contains '\n' then .literal else if readsOtherwise s then .singleQuoted else .plain
  if cs.isEmpty then .singleQuoted
  else if isKey && t.breaks then .doubleQuoted
  else match wanted with
    | .literal => if !t.blockAllowed || isKey then .doubleQuoted else .literal
    | .plain =>
      if t.plainAllowed then .plain else if t.quotesAllowed then .singleQuoted else .doubleQuoted
    | _ => if t.quotesAllowed then .singleQuoted else .doubleQuoted

/-- The digits of base sixteen of `n`, `width` of them. -/
def upperHex (width n : Nat) : List Char :=
  let ds := (Nat.toDigits 16 n).map Char.toUpper
  List.replicate (width - ds.length) '0' ++ ds

/-- A character between double quotes. -/
def escapeChar (c : Char) : List Char :=
  if isPrintable c && !isBreak c && c != '"' && c != '\\' then [c]
  else
    let n := c.toNat
    '\\' :: match n with
      | 0x00 => ['0']
      | 0x07 => ['a']
      | 0x08 => ['b']
      | 0x09 => ['t']
      | 0x0A => ['n']
      | 0x0B => ['v']
      | 0x0C => ['f']
      | 0x0D => ['r']
      | 0x1B => ['e']
      | 0x22 => ['"']
      | 0x5C => ['\\']
      | 0x85 => ['N']
      | 0x2028 => ['L']
      | 0x2029 => ['P']
      | n => if n ≤ 0xFF then 'x' :: upperHex 2 n
        else if n ≤ 0xFFFF then 'u' :: upperHex 4 n else 'U' :: upperHex 8 n

/-- Blanks up to a column. -/
def blanks (n : Nat) : List Char := List.replicate n ' '

/-- The characters of a text with an indentation behind every line break, where more follows on the
line; `started` says whether the line has begun. -/
def indented (indent : Nat) : Bool → List Char → List Char
  | _, [] => []
  | started, c :: cs =>
    if isBreak c then c :: indented indent false cs
    else (if started then [] else blanks indent) ++ c :: indented indent true cs

/-- The marks of a literal block: an indentation where the text starts blank, and what becomes of
the line breaks at its end. -/
def literalMarks (cs : List Char) : List Char :=
  let start := if (cs.head?).any fun c => c == ' ' || isBreak c then ['2'] else []
  let chomp := match cs.reverse with
    | [] => ['-']
    | [_] => if cs.any isBreak then ['+'] else ['-']
    | c :: d :: _ => if !isBreak c then ['-'] else if isBreak d then ['+'] else []
  start ++ chomp

/-- A text as it is written with further lines at column `indent`. -/
def writeText (indent : Nat) (isKey : Bool) (s : String) : String :=
  let cs := s.toList
  String.ofList (match styleOf isKey s with
    | .plain => cs
    | .singleQuoted =>
      '\'' :: indented indent true (cs.flatMap fun c => if c == '\'' then ['\'', '\''] else [c]) ++
        (if cs.getLast?.any isBreak then blanks indent else []) ++ ['\'']
    | .literal => '|' :: literalMarks cs ++ '\n' :: indented indent false cs
    | _ => '"' :: cs.flatMap escapeChar ++ ['"'])

/-- The written text with its last line ended; a literal block may have ended it. -/
def endLine (written : String) : String :=
  if written.toList.getLast?.any isBreak then written else written ++ "\n"

/-- Pieces, each but the first at a column of a line of its own. -/
def onLines (indent : Nat) : List String → String
  | [] => ""
  | [piece] => piece
  | piece :: pieces => endLine piece ++ String.ofList (blanks indent) ++ onLines indent pieces

/-- Pieces, each at a column of a line of its own. -/
def onNewLines (indent : Nat) (pieces : List String) : String := onLines indent ("" :: pieces)

/-- The longest key written in front of a colon on its line, in bytes. -/
def longestSimpleKey : Nat := 128

/-- A key in a mapping at column `indent`, up to its colon. -/
def writeKey (indent : Nat) (k : String) : String :=
  if (ScalarTraits.of k.toList).breaks || longestSimpleKey < k.utf8ByteSize then
    onLines indent ["? " ++ writeText (indent + 2) false k, ":"]
  else writeText indent true k ++ ":"

mutual

/-- What stands behind the colon of a key in a mapping at column `indent`. -/
def writeValue (indent : Nat) : Json → String
  | .null => " null"
  | .bool b => if b then " true" else " false"
  | .number n => " " ++ writeNumber n
  | .string s => " " ++ writeText (indent + 2) false s
  | .broken => " null"
  | .array xs =>
    if xs.isEmpty then " []"
    else onNewLines indent ((writeItems indent xs).map ("-" ++ ·))
  | .object fs =>
    if fs.isEmpty then " \x7b\x7d"
    else onNewLines (indent + 2) (writeFields (indent + 2) fs)

/-- What stands behind the dash of each item of a sequence at column `indent`. -/
def writeItems (indent : Nat) : List Json → List String
  | [] => []
  | x :: xs => writeItem indent x :: writeItems indent xs

/-- What stands behind the dash of an item of a sequence at column `indent`. -/
def writeItem (indent : Nat) : Json → String
  | .object (f :: fs) =>
    " " ++ onLines (indent + 2) (writeFields (indent + 2) (f :: fs))
  | .array (x :: xs) =>
    " " ++ onLines (indent + 2) ((writeItems (indent + 2) (x :: xs)).map ("-" ++ ·))
  | j => writeValue indent j

/-- The fields of a mapping at column `indent`. -/
def writeFields (indent : Nat) : List (String × Json) → List String
  | [] => []
  | (k, v) :: fs => (writeKey indent k ++ writeValue indent v) :: writeFields indent fs

/-- A number. -/
def writeNumber : JsonNumber → String
  | .nat n => Decimal.ofNat n
  | .negative n => "-" ++ Decimal.ofNat n
  | .float x => Decimal.Layout.json.text x

end

/-- A document whose fields stand at the start of their lines. -/
def write : Json → String
  | .object (f :: fs) => endLine (onLines 0 (writeFields 0 (f :: fs)))
  | j => endLine (String.ofList ((writeValue 0 j).toList.drop 1))

end SuiteBench.Yaml
