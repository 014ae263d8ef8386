/-!
# Yaml.Source — a place in a YAML text

What is left of the text with the line and column reached.  Line breaks are line feed, carriage
return, both together, next line, and the line and paragraph separators; all but the separators read
as a line feed.
-/

namespace SuiteBench.Yaml

/-- Whether `c` ends a line. -/
def isBreak (c : Char) : Bool :=
  c == '\n' || c == '\r' || c == '\u0085' || c == '\u2028' || c == '\u2029'

/-- Whether `c` is a space or a tab. -/
def isSpace (c : Char) : Bool := c == ' ' || c == '\t'

/-- Whether `c` may stand in the name of an anchor or a directive. -/
def isNameChar (c : Char) : Bool :=
  ('0' ≤ c && c ≤ '9') || ('A' ≤ c && c ≤ 'Z') || ('a' ≤ c && c ≤ 'z') || c == '_' || c == '-'

/-- Whether `c` may stand in a YAML text at all. -/
def isAllowed (c : Char) : Bool :=
  let n := c.toNat
  n == 9 || n == 10 || n == 13 || (0x20 ≤ n && n ≤ 0x7E) || n == 0x85 ||
    (0xA0 ≤ n && n ≤ 0xD7FF) || (0xE000 ≤ n && n ≤ 0xFFFD) || 0x10000 ≤ n

/-- A place in a text. -/
structure Source where
  /-- The text from the place on. -/
  rest : List Char
  /-- The number of characters before the place. -/
  index : Nat
  line : Nat
  column : Nat

namespace Source

/-- The start of a text. -/
def start (cs : List Char) : Source := ⟨cs, 0, 0, 0⟩

/-- The character `n` places on. -/
def peek? (s : Source) (n : Nat) : Option Char := s.rest[n]?

/-- Whether the character `n` places on is `c`. -/
def sees (s : Source) (c : Char) (n : Nat) : Bool := s.peek? n == some c

/-- Whether nothing is left. -/
def atEnd (s : Source) : Bool := s.rest.isEmpty

/-- Whether a line break or the end of the text stands `n` places on. -/
def breakOrEndAt (s : Source) (n : Nat) : Bool := (s.peek? n).all isBreak

/-- Whether a blank, a line break or the end of the text stands `n` places on. -/
def gapAt (s : Source) (n : Nat) : Bool := (s.peek? n).all fun c => isSpace c || isBreak c

/-- The place `n` characters on, on the same line. -/
def advance (s : Source) (n : Nat) : Source :=
  { s with rest := s.rest.drop n, index := s.index + n, column := s.column + n }

/-- The characters from here on that satisfy `p`, and the place behind them. -/
def span (s : Source) (p : Char → Bool) : List Char × Source :=
  let t := s.rest.takeWhile p
  (t, s.advance t.length)

/-- The place behind the characters that satisfy `p`. -/
def skipWhile (s : Source) (p : Char → Bool) : Source := (s.span p).2

/-- The line break that stands here, and the place behind it. -/
def lineBreak? (s : Source) : Option (Char × Source) :=
  match s.rest with
  | '\r' :: '\n' :: r => some ('\n', ⟨r, s.index + 2, s.line + 1, 0⟩)
  | c :: r =>
    if c == '\u2028' || c == '\u2029' then some (c, ⟨r, s.index + 1, s.line + 1, 0⟩)
    else if isBreak c then some ('\n', ⟨r, s.index + 1, s.line + 1, 0⟩)
    else none
  | [] => none

/-- The place behind blanks and a comment up to the end of the line; anything else is refused. -/
def restOfLine? (s : Source) : Option Source :=
  let s := s.skipWhile isSpace
  let s := if s.sees '#' 0 then s.skipWhile (!isBreak ·) else s
  if s.atEnd then some s else s.lineBreak?.map (·.2)

/-- Whether a document marker of three times `c` stands at the start of this line. -/
def marker (s : Source) (c : Char) : Bool :=
  s.column == 0 && s.sees c 0 && s.sees c 1 && s.sees c 2 && s.gapAt 3

/-- Whether a document starts or ends here. -/
def atMarker (s : Source) : Bool := s.marker '-' || s.marker '.'

end Source

end SuiteBench.Yaml
