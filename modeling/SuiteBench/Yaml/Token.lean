import SuiteBench.Yaml.Scalar
import SuiteBench.Decimal.Natural
import SuiteBench.Text.Utf8

/-!
# Yaml.Token — the tokens of a YAML text

Indentation opens and closes blocks, so that the tokens carry the structure of the text.  A mapping
key that needs no mark in front is only seen at its colon: the tokens for it are then put in before
the tokens that it consists of.
-/

namespace SuiteBench.Yaml

/-- A token. -/
inductive Token where
  | textEnd
  | version (major minor : Nat)
  /-- A directive that gives tags with this handle a common beginning. -/
  | handle (name start : String)
  | documentStart
  | documentEnd
  | blockSequence
  | blockMapping
  | blockEnd
  | openSequence
  | closeSequence
  | openMapping
  | closeMapping
  | item
  | comma
  | key
  | value
  | alias (name : String)
  | anchor (name : String)
  | tag (handle suffix : String)
  | scalar (style : ScalarStyle) (text : String)
  deriving DecidableEq, Repr

/-- A place where a key without a mark may have started. -/
structure KeyStart where
  /-- The number of tokens in front of it. -/
  tokens : Nat
  index : Nat
  line : Nat
  column : Nat
  /-- Whether the text is wrong if no colon follows. -/
  required : Bool

/-- The state of a scan. -/
structure Scan where
  source : Source
  tokens : List Token
  /-- The columns of the open blocks, the innermost first. -/
  indents : List Nat
  /-- The possible key of each open flow collection, the innermost first. -/
  flow : List (Option KeyStart)
  /-- The possible key outside of flow collections. -/
  key : Option KeyStart
  /-- Whether a key may start here. -/
  keyAllowed : Bool

namespace Scan

/-- The start of a text. -/
def start (cs : List Char) : Scan := ⟨.start cs, [], [], [], none, true⟩

/-- Whether the place is inside a flow collection. -/
def inFlow (s : Scan) : Bool := !s.flow.isEmpty

/-- The column of the innermost block, `-1` outside of all. -/
def indent (s : Scan) : Int :=
  match s.indents with
  | [] => -1
  | n :: _ => n

/-- The possible key of the innermost collection. -/
def possibleKey (s : Scan) : Option KeyStart :=
  match s.flow with
  | [] => s.key
  | k :: _ => k

/-- The scan with another possible key in the innermost collection. -/
def setKey (s : Scan) (k : Option KeyStart) : Scan :=
  match s.flow with
  | [] => { s with key := k }
  | _ :: rest => { s with flow := k :: rest }

/-- The scan with one more token. -/
def push (s : Scan) (t : Token) : Scan := { s with tokens := s.tokens ++ [t] }

/-- The scan with a token put in behind the first `n`. -/
def insertAt (s : Scan) (n : Nat) (t : Token) : Scan :=
  { s with tokens := s.tokens.take n ++ t :: s.tokens.drop n }

/-- The scan, `n` characters on. -/
def advance (s : Scan) (n : Nat) : Scan := { s with source := s.source.advance n }

/-- The scan with a rule whether a key may start next. -/
def allowKey (s : Scan) (b : Bool) : Scan := { s with keyAllowed := b }

/-- Drops the possible key; a required one must not be dropped. -/
def dropKey? (s : Scan) : Option Scan :=
  match s.possibleKey with
  | some k => if k.required then none else some (s.setKey none)
  | none => some s

/-- Remembers that a key may start here. -/
def saveKey? (s : Scan) : Option Scan :=
  if s.keyAllowed then do
    let required := !s.inFlow && s.indent == s.source.column
    let s ← s.dropKey?
    return s.setKey (some ⟨s.tokens.length, s.source.index, s.source.line, s.source.column, required⟩)
  else some s

/-- The longest key without a mark, in characters. -/
def longestKey : Nat := 1024

/-- Whether a key that started at `k` can no longer end: a key stays on one line. -/
def isStale (s : Scan) (k : KeyStart) : Bool :=
  k.line < s.source.line || k.index + longestKey < s.source.index

/-- Drops the possible keys that can no longer end. -/
def dropStale? (s : Scan) : Option Scan := do
  let fresh (k : Option KeyStart) : Option (Option KeyStart) :=
    match k with
    | some k => if s.isStale k then (if k.required then none else some none) else some (some k)
    | none => some none
  return { s with key := ← fresh s.key, flow := ← s.flow.mapM fresh }

/-- Opens a block at a column, if that lies deeper; its token goes behind the first `n`. -/
def openBlock (s : Scan) (column : Nat) (n : Nat) (t : Token) : Scan :=
  if !s.inFlow && s.indent < column then
    { s.insertAt n t with indents := column :: s.indents }
  else s

/-- Closes the blocks deeper than a column. -/
def closeBlocks (column : Int) (s : Scan) : Scan :=
  if s.inFlow then s
  else
    let deeper := s.indents.takeWhile fun (n : Nat) => column < (n : Int)
    { s with
      indents := s.indents.drop deeper.length
      tokens := s.tokens ++ List.replicate deeper.length .blockEnd }

/-- The place behind blanks, comments and line breaks, and whether a key may start there.  A byte
order mark may start a line, where it takes up a column. -/
def toNextToken : Nat → Scan → Scan
  | 0, s => s
  | fuel + 1, s =>
    let src := if s.source.column == 0 && s.source.sees '\ufeff' 0 then s.source.advance 1
      else s.source
    let src := src.skipWhile fun c => c == ' ' || (c == '\t' && (s.inFlow || !s.keyAllowed))
    let src := if src.sees '#' 0 then src.skipWhile (!isBreak ·) else src
    match src.lineBreak? with
    | some (_, src) =>
      toNextToken fuel { s with source := src, keyAllowed := s.keyAllowed || !s.inFlow }
    | none => { s with source := src }

/-! ### Directives, anchors and tags -/

/-- A number of at most nine digits. -/
def versionNumber? (s : Source) : Option (Nat × Source) :=
  let (ds, s) := s.span Decimal.isDigit
  if ds.isEmpty || 9 < ds.length then none
  else some (ds.foldl (fun n d => n * 10 + (d.toNat - 48)) 0, s)

/-- The bytes of percent escapes and the place behind them. -/
def escapedBytes : Nat → Source → List UInt8 × Source
  | 0, s => ([], s)
  | fuel + 1, s =>
    match s.rest with
    | '%' :: a :: b :: _ =>
      match hexNumber? [a, b] with
      | some n =>
        let (bs, s) := escapedBytes fuel (s.advance 3)
        (UInt8.ofNat n :: bs, s)
      | none => ([], s)
    | _ => ([], s)

/-- Whether `c` may stand in a tag; some characters only where the tag is bracketed. -/
def isTagChar (wide : Bool) (c : Char) : Bool :=
  isNameChar c || ";/?:@&=+$.!~*'()".toList.contains c || (wide && (c == ',' || c == '[' || c == ']'))

/-- The text of a tag, with its escapes resolved. -/
def tagText? (wide : Bool) : Nat → Source → Option (List Char × Source)
  | 0, _ => none
  | fuel + 1, s =>
    if s.sees '%' 0 then do
      let (bytes, s') := escapedBytes s.rest.length s
      if bytes.isEmpty then none
      let cs ← (Text.Utf8.decode bytes).toOption
      let (more, s) ← tagText? wide fuel s'
      return (cs ++ more, s)
    else
      let (cs, s') := s.span (isTagChar wide)
      if cs.isEmpty then some ([], s)
      else (tagText? wide fuel s').map fun (more, s) => (cs ++ more, s)

/-- The handle of a tag: an exclamation mark, a name, and a second mark where there is one. -/
def handle? (directive : Bool) (s : Source) : Option (List Char × Source) :=
  if !s.sees '!' 0 then none
  else
    let (name, s) := (s.advance 1).span isNameChar
    if s.sees '!' 0 then some ('!' :: name ++ ['!'], s.advance 1)
    else if directive && !name.isEmpty then none
    else some ('!' :: name, s)

/-- Reads a directive from behind its percent sign. -/
def directive? (s : Source) : Option (Token × Source) := do
  let (name, s) := s.span isNameChar
  if name.isEmpty || !s.gapAt 0 then none
  let s := s.skipWhile isSpace
  let (token, s) ← match String.ofList name with
    | "YAML" => do
      let (major, s) ← versionNumber? s
      if !s.sees '.' 0 then none
      let (minor, s) ← versionNumber? (s.advance 1)
      some (Token.version major minor, s)
    | "TAG" => do
      let (name, s) ← handle? true s
      if !(s.peek? 0).any isSpace then none
      let (text, s) ← tagText? true (s.rest.length + 1) (s.skipWhile isSpace)
      if text.isEmpty || !s.gapAt 0 then none
      some (Token.handle (String.ofList name) (String.ofList text), s)
    | _ => none
  return (token, ← s.restOfLine?)

/-- Reads the name of an anchor or an alias from behind its mark. -/
def anchorName? (s : Source) : Option (String × Source) :=
  let (name, s) := s.span isNameChar
  let ended := s.gapAt 0 || (s.peek? 0).any fun c => "?:,]\x7d%@\x60".toList.contains c
  if name.isEmpty || !ended then none else some (String.ofList name, s)

/-- Reads a tag. -/
def tag? (inFlow : Bool) (s : Source) : Option (Token × Source) := do
  let fuel := s.rest.length + 1
  let (handle, suffix, s) ←
    if s.sees '<' 1 then do
      let (text, s) ← tagText? true fuel (s.advance 2)
      if text.isEmpty || !s.sees '>' 0 then none
      some ([], text, s.advance 1)
    else do
      let (h, s) ← handle? false s
      let (text, s) ← tagText? false fuel s
      if 1 < h.length && h.getLast? == some '!' then
        if text.isEmpty then none
        some (h, text, s)
      else
        let text := h.drop 1 ++ text
        some (if text.isEmpty then ([], ['!'], s) else (['!'], text, s))
  if !(inFlow && s.sees ',' 0) && !s.gapAt 0 then none
  return (.tag (String.ofList handle) (String.ofList suffix), s)

/-! ### Steps -/

/-- The scan with a token that no key holds, `n` characters long. -/
def mark? (s : Scan) (n : Nat) (t : Token) (allow : Bool) : Option Scan := do
  let s ← s.dropKey?
  return ((s.allowKey allow).advance n).push t

/-- A directive or a document marker closes every block. -/
def outermost? (s : Scan) : Option Scan := do
  let s ← (s.closeBlocks (-1)).dropKey?
  return s.allowKey false

/-- The bracket that opens a flow collection. -/
def openFlow? (s : Scan) (t : Token) : Option Scan := do
  let s ← s.saveKey?
  return (({ s with flow := none :: s.flow }.allowKey true).advance 1).push t

/-- The bracket that closes a flow collection. -/
def closeFlow? (s : Scan) (t : Token) : Option Scan := do
  let s ← s.dropKey?
  return (({ s with flow := s.flow.drop 1 }.allowKey false).advance 1).push t

/-- An indicator that opens a block of its own where none is open at this column. -/
def blockMark? (s : Scan) (block : Token) : Option Scan :=
  if s.inFlow then some s
  else if !s.keyAllowed then none
  else some (s.openBlock s.source.column s.tokens.length block)

/-- The mark of a value. -/
def value? (s : Scan) : Option Scan :=
  match s.possibleKey with
  | some k =>
    let s := (s.setKey none).insertAt k.tokens .key
    some (((s.openBlock k.column k.tokens .blockMapping).allowKey false).advance 1 |>.push .value)
  | none => do
    let s ← s.blockMark? .blockMapping
    return ((s.allowKey (!s.inFlow)).advance 1).push .value

/-- A token that may be or start a key. -/
def keyLike? (s : Scan) (read : Source → Option (Token × Source)) : Option Scan := do
  let s ← s.saveKey?
  let (t, src) ← read s.source
  return ({ s with source := src }.allowKey false).push t

/-- A quoted scalar. -/
def quotedToken? (single : Bool) (s : Source) : Option (Token × Source) :=
  (quoted? single (s.rest.length + 1) [] (s.advance 1)).map fun (cs, s) =>
    (.scalar (if single then .singleQuoted else .doubleQuoted) (String.ofList cs), s)

/-- A plain scalar. -/
def plainToken? (s : Scan) : Option Scan := do
  let s ← s.saveKey?
  let (cs, src, broken) ← plain? s.inFlow (s.indent + 1).toNat (s.source.rest.length + 1) [] .none
    s.source
  return ({ s with source := src }.allowKey broken).push (.scalar .plain (String.ofList cs))

/-- A block scalar. -/
def blockToken? (folds : Bool) (s : Scan) : Option Scan := do
  let s ← s.dropKey?
  let (cs, src) ← block? folds s.indent (s.source.advance 1)
  return ({ s with source := src }.allowKey true).push
    (.scalar (if folds then .folded else .literal) (String.ofList cs))

/-- The characters that no plain scalar starts with. -/
def indicators : List Char := "-?:,[]\x7b\x7d#&*!|>'\"%@\x60".toList

/-- Whether a plain scalar may start here. -/
def startsPlain (s : Scan) : Bool :=
  match s.source.peek? 0 with
  | none => false
  | some c =>
    !(s.source.gapAt 0 || indicators.contains c) ||
      (c == '-' && !(s.source.peek? 1).any isSpace) ||
      (!s.inFlow && (c == '?' || c == ':') && !s.source.gapAt 1)

/-- Reads one token.  The token of the end is the last. -/
def step? (s : Scan) : Option Scan := do
  let s ← (s.toNextToken (s.source.rest.length + 1)).dropStale?
  let s := s.closeBlocks s.source.column
  let src := s.source
  let gapNext := src.gapAt 1
  match src.peek? 0 with
  | none => return (← s.outermost?).push .textEnd
  | some c =>
    if c == '%' && src.column == 0 then do
      let s ← s.outermost?
      let (t, src) ← directive? (src.advance 1)
      return { s with source := src }.push t
    else if src.marker '-' then return ((← s.outermost?).advance 3).push .documentStart
    else if src.marker '.' then return ((← s.outermost?).advance 3).push .documentEnd
    else if c == '[' then s.openFlow? .openSequence
    else if c == '{' then s.openFlow? .openMapping
    else if c == ']' then s.closeFlow? .closeSequence
    else if c == '}' then s.closeFlow? .closeMapping
    else if c == ',' then s.mark? 1 .comma true
    else if c == '-' && gapNext then (← s.blockMark? .blockSequence).mark? 1 .item true
    else if c == '?' && (s.inFlow || gapNext) then
      (← s.blockMark? .blockMapping).mark? 1 .key (!s.inFlow)
    else if c == ':' && (s.inFlow || gapNext) then s.value?
    else if c == '*' then
      s.keyLike? fun src => (anchorName? (src.advance 1)).map fun (n, src) => (.alias n, src)
    else if c == '&' then
      s.keyLike? fun src => (anchorName? (src.advance 1)).map fun (n, src) => (.anchor n, src)
    else if c == '!' then s.keyLike? (tag? s.inFlow)
    else if c == '|' && !s.inFlow then s.blockToken? false
    else if c == '>' && !s.inFlow then s.blockToken? true
    else if c == '\'' then s.keyLike? (quotedToken? true)
    else if c == '"' then s.keyLike? (quotedToken? false)
    else if s.startsPlain then s.plainToken?
    else none

/-- Reads tokens up to the end, at most `fuel` of them. -/
def run? : Nat → Scan → Option (List Token)
  | 0, _ => none
  | fuel + 1, s => do
    let s ← s.step?
    if s.tokens.getLast? == some .textEnd then return s.tokens
    run? fuel s

end Scan

/-- The tokens of a text. -/
def Token.ofText? (cs : List Char) : Option (List Token) :=
  if cs.all isAllowed then Scan.run? (cs.length + 2) (.start cs) else none

end SuiteBench.Yaml
