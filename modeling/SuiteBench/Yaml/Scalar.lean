import SuiteBench.Yaml.Source

/-!
# Yaml.Scalar — the texts of scalars

Plain, quoted and block scalars.  A single line break inside a plain, quoted or folded scalar reads
as a space and further ones stand for themselves.
-/

namespace SuiteBench.Yaml

/-- How a scalar is written. -/
inductive ScalarStyle where
  | plain
  | singleQuoted
  | doubleQuoted
  | literal
  | folded
  deriving DecidableEq, Repr

/-- White space inside a scalar that spans lines: blanks on the current line, or the line breaks. -/
structure Gap where
  blanks : List Char
  /-- The first line break. -/
  first : Option Char
  /-- The line breaks after the first. -/
  further : List Char

namespace Gap

/-- No white space. -/
def none : Gap := ⟨[], .none, []⟩

/-- Whether the gap is nothing. -/
def isNothing (g : Gap) : Bool := g.first.isNone && g.blanks.isEmpty

/-- What the gap reads as. -/
def text (g : Gap) : List Char :=
  match g.first with
  | .none => g.blanks
  | some '\n' => if g.further.isEmpty then [' '] else g.further
  | some c => c :: g.further

/-- The gap with one more line break. -/
def addBreak (g : Gap) (c : Char) : Gap :=
  match g.first with
  | .none => ⟨[], some c, []⟩
  | some _ => { g with further := g.further ++ [c] }

/-- Reads blanks and line breaks; after a line break a tab in front of the column `indent` is
refused. -/
def read? (indent : Nat) : Nat → Gap → Source → Option (Gap × Source)
  | 0, _, _ => .none
  | fuel + 1, g, s =>
    match s.peek? 0 with
    | some c =>
      if isSpace c then
        match g.first with
        | .none => read? indent fuel { g with blanks := g.blanks ++ [c] } (s.advance 1)
        | some _ =>
          if c == '\t' && s.column < indent then .none else read? indent fuel g (s.advance 1)
      else match s.lineBreak? with
        | some (b, s) => read? indent fuel (g.addBreak b) s
        | .none => some (g, s)
    | .none => some (g, s)

end Gap

/-! ### Plain scalars -/

/-- Whether the plain scalar ends in front of the character at this place. -/
def plainEnds (inFlow : Bool) (s : Source) : Bool :=
  (s.sees ':' 0 && s.gapAt 1) ||
    (inFlow && (s.peek? 0).any fun c => c == ',' || c == '[' || c == ']' || c == '{' || c == '}')

/-- A colon in front of a flow indicator, which no plain scalar may hold. -/
def strayColon (s : Source) : Bool :=
  s.sees ':' 0 && (s.peek? 1).any fun c =>
    c == ',' || c == '?' || c == '[' || c == ']' || c == '{' || c == '}'

/-- The characters of a plain scalar up to the next gap or its end. -/
def plainWord? (inFlow : Bool) : Nat → List Char → Source → Option (List Char × Source)
  | 0, _, _ => none
  | fuel + 1, acc, s =>
    if s.gapAt 0 then some (acc.reverse, s)
    else if inFlow && strayColon s then none
    else if plainEnds inFlow s then some (acc.reverse, s)
    else match s.peek? 0 with
      | some c => plainWord? inFlow fuel (c :: acc) (s.advance 1)
      | none => none

/-- Reads a plain scalar whose further lines start at column `indent` or behind it.  The last part
says whether a line break follows the scalar. -/
def plain? (inFlow : Bool) (indent : Nat) :
    Nat → List Char → Gap → Source → Option (List Char × Source × Bool)
  | 0, _, _, _ => none
  | fuel + 1, acc, g, s => do
    if s.atMarker || s.sees '#' 0 then return (acc, s, g.first.isSome)
    let (word, s) ← plainWord? inFlow (s.rest.length + 1) [] s
    let (acc, g) := if word.isEmpty then (acc, g) else (acc ++ g.text ++ word, Gap.none)
    if s.atEnd || !s.gapAt 0 then return (acc, s, g.first.isSome)
    let (g, s) ← Gap.read? indent (s.rest.length + 1) g s
    if !inFlow && s.column < indent then return (acc, s, g.first.isSome)
    plain? inFlow indent fuel acc g s

/-! ### Quoted scalars -/

/-- The value of digits of base sixteen. -/
def hexNumber? (ds : List Char) : Option Nat :=
  ds.foldlM (fun n d => do
    let v ← if '0' ≤ d && d ≤ '9' then some (d.toNat - 48)
      else if 'a' ≤ d && d ≤ 'f' then some (d.toNat - 87)
      else if 'A' ≤ d && d ≤ 'F' then some (d.toNat - 55) else none
    some (n * 16 + v)) 0

/-- The character with a number, if there is one. -/
def charOf? (n : Nat) : Option Char := if n.isValidChar then some (Char.ofNat n) else none

/-- The character that an escape stands for, and how many characters the escape has. -/
def escape? (s : Source) : Option (Char × Nat) := do
  let numbered (n : Nat) : Option (Char × Nat) := do
    let ds := (s.rest.drop 2).take n
    if ds.length == n then return (← charOf? (← hexNumber? ds), n + 2) else none
  match ← s.peek? 1 with
  | '0' => some ('\x00', 2)
  | 'a' => some ('\x07', 2)
  | 'b' => some ('\x08', 2)
  | 't' | '\t' => some ('\t', 2)
  | 'n' => some ('\n', 2)
  | 'v' => some ('\x0b', 2)
  | 'f' => some ('\x0c', 2)
  | 'r' => some ('\r', 2)
  | 'e' => some ('\x1b', 2)
  | ' ' => some (' ', 2)
  | '"' => some ('"', 2)
  | '/' => some ('/', 2)
  | '\\' => some ('\\', 2)
  | 'N' => some ('\u0085', 2)
  | '_' => some ('\u00a0', 2)
  | 'L' => some ('\u2028', 2)
  | 'P' => some ('\u2029', 2)
  | 'x' => numbered 2
  | 'u' => numbered 4
  | 'U' => numbered 8
  | _ => none

/-- The characters of a quoted scalar up to the next gap or the closing quote; the last part says
whether an escaped line break came. -/
def quotedWord? (single : Bool) : Nat → List Char → Source → Option (List Char × Source × Bool)
  | 0, _, _ => none
  | fuel + 1, acc, s =>
    if s.gapAt 0 then some (acc.reverse, s, false)
    else if single && s.sees '\'' 0 && s.sees '\'' 1 then
      quotedWord? single fuel ('\'' :: acc) (s.advance 2)
    else if s.sees (if single then '\'' else '"') 0 then some (acc.reverse, s, false)
    else if !single && s.sees '\\' 0 then
      match (s.advance 1).lineBreak? with
      | some (_, s) => some (acc.reverse, s, true)
      | none => do
        let (c, n) ← escape? s
        quotedWord? single fuel (c :: acc) (s.advance n)
    else match s.peek? 0 with
      | some c => quotedWord? single fuel (c :: acc) (s.advance 1)
      | none => none

/-- Blanks and line breaks inside a quoted scalar; after an escaped line break the blanks in front
of the next line are dropped. -/
def quotedGap? (escaped : Bool) (s : Source) : Option (List Char × Source) := do
  let fuel := s.rest.length + 1
  if escaped then
    let (g, s) ← Gap.read? 0 fuel Gap.none (s.skipWhile isSpace)
    return (match g.first with
      | none => []
      | some c => c :: g.further, s)
  else
    let (g, s) ← Gap.read? 0 fuel Gap.none s
    return (g.text, s)

/-- Reads a quoted scalar from behind its opening quote. -/
def quoted? (single : Bool) : Nat → List Char → Source → Option (List Char × Source)
  | 0, _, _ => none
  | fuel + 1, acc, s => do
    if s.atMarker || s.atEnd then none
    let (word, s, escaped) ← quotedWord? single (s.rest.length + 1) [] s
    if s.sees (if single then '\'' else '"') 0 then return (acc ++ word, s.advance 1)
    let (gap, s) ← quotedGap? escaped s
    quoted? single fuel (acc ++ word ++ gap) s

/-! ### Block scalars -/

/-- What becomes of the line breaks at the end of a block scalar. -/
inductive Chomping where
  | strip
  | clip
  | keep
  deriving DecidableEq, Repr

/-- The chomping mark at this place. -/
def chomping? (s : Source) : Option Chomping :=
  match s.peek? 0 with
  | some '+' => some .keep
  | some '-' => some .strip
  | _ => none

/-- The digit at this place. -/
def digit? (s : Source) : Option Nat :=
  (s.peek? 0).bind fun c => if '0' ≤ c && c ≤ '9' then some (c.toNat - 48) else none

/-- Reads the marks behind the indicator: chomping and indentation in either order. -/
def blockHeader? (s : Source) : Option (Chomping × Nat × Source) := do
  match chomping? s with
  | some c =>
    let s := s.advance 1
    match digit? s with
    | some 0 => none
    | some d => return (c, d, s.advance 1)
    | none => return (c, 0, s)
  | none =>
    match digit? s with
    | some 0 => none
    | some d =>
      let s := s.advance 1
      match chomping? s with
      | some c => return (c, d, s.advance 1)
      | none => return (.clip, d, s)
    | none => return (.clip, 0, s)

/-- Reads indentation and empty lines; `indent` is zero while it is not known.  Yields the deepest
column reached, the line breaks and the place behind. -/
def blockBreaks? (indent : Nat) : Nat → Nat → Source → Option (Nat × List Char × Source)
  | 0, _, _ => none
  | fuel + 1, deepest, s =>
    let spaces := (s.rest.takeWhile (· == ' ')).length
    let s := s.advance (if indent == 0 then spaces else min spaces (indent - s.column))
    let deepest := max deepest s.column
    if (indent == 0 || s.column < indent) && s.sees '\t' 0 then none
    else match s.lineBreak? with
      | none => some (deepest, [], s)
      | some (b, s) => (blockBreaks? indent fuel deepest s).map fun (d, bs, s) => (d, b :: bs, s)

/-- A block scalar while it is read. -/
structure BlockText where
  text : List Char
  /-- The line break behind the last line. -/
  lineEnd : List Char
  /-- The line breaks of the empty lines behind it. -/
  empties : List Char
  /-- Whether the last line starts with a blank. -/
  startsBlank : Bool

/-- The text with the line breaks in front of the next line joined to it. -/
def BlockText.joined (b : BlockText) (folds : Bool) (nextBlank : Bool) : List Char :=
  if folds && b.lineEnd.head? == some '\n' && !b.startsBlank && !nextBlank then
    b.text ++ (if b.empties.isEmpty then [' '] else []) ++ b.empties
  else b.text ++ b.lineEnd ++ b.empties

/-- Reads the lines of a block scalar that stand at column `indent`. -/
def blockLines? (folds : Bool) (indent : Nat) :
    Nat → BlockText → Source → Option (BlockText × Source)
  | 0, _, _ => none
  | fuel + 1, b, s =>
    if s.column != indent || s.atEnd then some (b, s)
    else do
      let blank := (s.peek? 0).any isSpace
      let text := b.joined folds blank
      let (line, s) := s.span (!isBreak ·)
      let (lineEnd, s) := match s.lineBreak? with
        | some (c, s) => ([c], s)
        | none => ([], s)
      let (_, empties, s) ← blockBreaks? indent (s.rest.length + 1) 0 s
      blockLines? folds indent fuel ⟨text ++ line, lineEnd, empties, blank⟩ s

/-- Reads a block scalar from behind its indicator, inside a block at column `parent`. -/
def block? (folds : Bool) (parent : Int) (s : Source) : Option (List Char × Source) := do
  let (chomp, increment, s) ← blockHeader? s
  let s ← s.restOfLine?
  let fuel := s.rest.length + 1
  let given := if increment == 0 then 0 else (max parent 0).toNat + increment
  let (deepest, empties, s) ← blockBreaks? given fuel 0 s
  let indent := if given == 0 then max (max deepest (parent + 1).toNat) 1 else given
  let (b, s) ← blockLines? folds indent fuel ⟨[], [], empties, false⟩ s
  let tail := match chomp with
    | .strip => []
    | .clip => b.lineEnd
    | .keep => b.lineEnd ++ b.empties
  return (b.text ++ tail, s)

end SuiteBench.Yaml
