import SuiteBench.Pattern.CharSet

/-!
# Pattern.Basic — patterns over text and where they match

`Pattern.reach` takes a set of places to the places where matches from them end; a text holds a
match if anything is reached from all of its places.  `Pattern.ends` lists the ends of matches from a
single place, preferred ones first: a search takes the first place from which there is a match and
the preferred end.
-/

namespace SuiteBench

/-- A place in a text. -/
structure Cursor where
  /-- The number of characters before the place. -/
  index : Nat
  /-- The character before the place. -/
  before : Option Char
  /-- The text after the place. -/
  rest : List Char
  deriving DecidableEq, Repr

namespace Cursor

/-- The start of a text. -/
def start (cs : List Char) : Cursor := ⟨0, none, cs⟩

/-- The place behind a character of `s`, if one follows. -/
def step? (s : CharSet) (c : Cursor) : Option Cursor :=
  match c.rest with
  | x :: rest => if s.has x then some ⟨c.index + 1, some x, rest⟩ else none
  | [] => none

/-- The places from here on as long as characters of `s` follow, in front of the place with index
`limit`; they are put in front of `acc`, the farthest first. -/
def runOnto (s : CharSet) (limit : Nat) (acc : List Cursor) (index : Nat) (before : Option Char) :
    List Char → List Cursor
  | [] => ⟨index, before, []⟩ :: acc
  | x :: rest =>
    if index + 1 < limit && s.has x then
      runOnto s limit (⟨index, before, x :: rest⟩ :: acc) (index + 1) (some x) rest
    else ⟨index, before, x :: rest⟩ :: acc

/-- The places from here on as long as characters of `s` follow, the farthest first. -/
def run (s : CharSet) (c : Cursor) : List Cursor :=
  runOnto s (c.index + c.rest.length + 1) [] c.index c.before c.rest

/-- All places from here on. -/
def onwards (c : Cursor) : List Cursor := (c.run .all).reverse

end Cursor

/-- A relation of a place to the words around it. -/
inductive WordSide where
  /-- Between a word character and none. -/
  | edge
  | noEdge
  /-- In front of the first character of a word. -/
  | start
  /-- Behind the last character of a word. -/
  | finish
  /-- Behind no word character. -/
  | startHalf
  /-- In front of no word character. -/
  | finishHalf
  deriving DecidableEq, Repr

/-- A condition on a place. -/
inductive Place where
  | textStart
  | textEnd
  /-- Where a line starts; `returns` says whether carriage returns end lines too. -/
  | lineStart (returns : Bool)
  | lineEnd (returns : Bool)
  /-- A relation to words, whose characters `basic` limits to letters without marks, digits and
  low lines. -/
  | word (side : WordSide) (basic : Bool)
  deriving DecidableEq, Repr

namespace Place

/-- Whether `c` is a letter from A to Z, a digit or a low line. -/
def isBasicWord (c : Char) : Bool := c.isAlphanum || c == '_'

/-- Whether a place between such characters stands in a relation to words. -/
def holdsBetween (side : WordSide) (before after : Bool) : Bool :=
  match side with
  | .edge => before != after
  | .noEdge => before == after
  | .start => !before && after
  | .finish => before && !after
  | .startHalf => !before
  | .finishHalf => !after

/-- Whether the condition holds at `c`. -/
def holds : Place → Cursor → Bool
  | textStart, c => c.before.isNone
  | textEnd, c => c.rest.isEmpty
  | lineStart returns, c =>
    c.before.isNone || c.before == some '\n' ||
      (returns && c.before == some '\r' && c.rest.head? != some '\n')
  | lineEnd false, c => c.rest.isEmpty || c.rest.head? == some '\n'
  | lineEnd true, c =>
    c.rest.isEmpty || c.rest.head? == some '\r' ||
      (c.rest.head? == some '\n' && c.before != some '\r')
  | word side basic, c =>
    let isWord := if basic then isBasicWord else Text.isWord
    holdsBetween side (c.before.any isWord) (c.rest.head?.any isWord)

end Place

/-- A pattern. -/
inductive Pattern where
  | empty
  | char (s : CharSet)
  | place (p : Place)
  | seq (a b : Pattern)
  | alt (a b : Pattern)
  /-- Any number of characters of a set. -/
  | many (s : CharSet)
  /-- Any number of matches of a pattern. -/
  | star (a : Pattern)
  deriving DecidableEq, Repr

namespace Pattern

/-! ### Sets of places -/

/-- The places of two lists in the order of the text, each once, put in front of `acc` with the last
first. -/
def mergeOnto (acc : List Cursor) : List Cursor → List Cursor → List Cursor
  | [], bs => bs.reverse ++ acc
  | as, [] => as.reverse ++ acc
  | a :: as, b :: bs =>
    if a.index < b.index then mergeOnto (a :: acc) as (b :: bs)
    else if b.index < a.index then mergeOnto (b :: acc) (a :: as) bs
    else mergeOnto (a :: acc) as bs
termination_by as bs => as.length + bs.length

/-- The places of two lists in the order of the text, each once. -/
def merge (as bs : List Cursor) : List Cursor := (mergeOnto [] as bs).reverse

/-- The places of the first list that the second lacks, put in front of `acc` with the last
first. -/
def minusOnto (acc : List Cursor) : List Cursor → List Cursor → List Cursor
  | [], _ => acc
  | as, [] => as.reverse ++ acc
  | a :: as, b :: bs =>
    if a.index < b.index then minusOnto (a :: acc) as (b :: bs)
    else if b.index < a.index then minusOnto acc (a :: as) bs
    else minusOnto acc as bs
termination_by as bs => as.length + bs.length

/-- The places of the first list, in the order of the text, that the second lacks. -/
def minus (as bs : List Cursor) : List Cursor := (minusOnto [] as bs).reverse

/-- The places reached by any number of steps, at most `fuel` of them, from `seen`, of which those
in `fresh` have not been gone on from. -/
def closure (step : List Cursor → List Cursor) : Nat → List Cursor → List Cursor → List Cursor
  | 0, seen, _ => seen
  | fuel + 1, seen, fresh =>
    let next := minus (step fresh) seen
    if next.isEmpty then seen else closure step fuel (merge seen next) next

/-- The places reached from any of a list by taking characters of `s`, put in front of `acc` with
the last first. -/
def runsOnto (s : CharSet) : List Cursor → List Cursor → List Cursor
  | acc, [] => acc
  | acc, [c] => c.run s ++ acc
  | acc, c :: d :: cs => runsOnto s (Cursor.runOnto s d.index acc c.index c.before c.rest) (d :: cs)

/-- The places reached from any of `cs` by taking characters of `s`. -/
def runs (s : CharSet) (cs : List Cursor) : List Cursor := (runsOnto s [] cs).reverse

/-- The places where matches end that start at any of `cs`, in the order of the text. -/
def reach : Pattern → List Cursor → List Cursor
  | empty, cs => cs
  | char s, cs => cs.filterMap (Cursor.step? s)
  | place p, cs => cs.filter p.holds
  | seq a b, cs =>
    match a.reach cs with
    | [] => []
    | ds => b.reach ds
  | alt a b, cs => merge (a.reach cs) (b.reach cs)
  | many s, cs => runs s cs
  | star a, cs => closure a.reach ((cs.head?.map (·.rest.length)).getD 0 + 1) cs cs

/-- Whether the pattern matches somewhere in a text. -/
def isIn (p : Pattern) (cs : List Char) : Bool := !(p.reach (Cursor.start cs).onwards).isEmpty

/-! ### Matches in order of preference -/

/-- The list without later copies of a place. -/
def distinct (cs : List Cursor) : List Cursor :=
  cs.foldr (fun c acc => c :: acc.filter fun d => d.index != c.index) []

/-- The places reached by at most `fuel` steps, each of which gets ahead; more steps first. -/
def repeatEnds (step : Cursor → List Cursor) : Nat → Cursor → List Cursor
  | 0, c => [c]
  | fuel + 1, c =>
    distinct (((step c).filter fun d => c.index < d.index).flatMap (repeatEnds step fuel)) ++ [c]

/-- The places where a match from a place can end, preferred ones first: the left alternative before
the right, more repetitions before fewer. -/
def ends : Pattern → Cursor → List Cursor
  | empty, c => [c]
  | char s, c => (c.step? s).toList
  | place p, c => if p.holds c then [c] else []
  | seq a b, c => (ends a c).flatMap (ends b)
  | alt a b, c => ends a c ++ ends b c
  | many s, c => c.run s
  | star a, c => repeatEnds (ends a) c.rest.length c

/-- The first match from a place or a later one: where it starts and the preferred end. -/
def findFrom (p : Pattern) (index : Nat) (before : Option Char) :
    List Char → Option (Cursor × Cursor)
  | [] => (p.ends ⟨index, before, []⟩).head?.map fun e => (⟨index, before, []⟩, e)
  | c :: rest =>
    match (p.ends ⟨index, before, c :: rest⟩).head? with
    | some e => some (⟨index, before, c :: rest⟩, e)
    | none => findFrom p (index + 1) (some c) rest

/-- The first match in a text: where it starts and ends. -/
def find? (p : Pattern) (cs : List Char) : Option (Cursor × Cursor) := p.findFrom 0 none cs

/-- The text between two places of one text. -/
def between (a b : Cursor) : List Char := a.rest.take (b.index - a.index)

/-- The texts of the matches that follow one another without overlap, at most `fuel` of them; the
search goes on behind each match. -/
def matchesAux (p : Pattern) : Nat → Cursor → List (List Char)
  | 0, _ => []
  | fuel + 1, c =>
    match p.findFrom c.index c.before c.rest with
    | none => []
    | some (a, b) => between a b :: (if c.index < b.index then matchesAux p fuel b else [])

/-- The texts of the matches that follow one another without overlap. -/
def allMatches (p : Pattern) (cs : List Char) : List (List Char) :=
  p.matchesAux (cs.length + 1) (.start cs)

/-- The number of matches that follow one another without overlap. -/
def count (p : Pattern) (cs : List Char) : Nat := (p.allMatches cs).length

/-! ### Building patterns -/

/-- The patterns one after another. -/
def seqs : List Pattern → Pattern
  | [] => empty
  | [p] => p
  | p :: ps => seq p (seqs ps)

/-- Any of the patterns, earlier ones preferred. -/
def anyOf : List Pattern → Pattern
  | [] => char .none
  | [p] => p
  | p :: ps => alt p (anyOf ps)

/-- The characters of `s`. -/
def text (s : String) : Pattern := seqs (s.toList.map fun c => char (.one c))

/-- The characters of `s` in any case. -/
def folded (s : String) : Pattern := seqs (s.toList.map fun c => char (.ignoringCase (.one c)))

/-- The pattern or nothing. -/
def optional (p : Pattern) : Pattern := alt p empty

/-- One or more characters of a set. -/
def several (s : CharSet) : Pattern := seq (char s) (many s)

/-- The edge of a word. -/
def edge : Pattern := place (.word .edge false)

end Pattern

end SuiteBench
