import SuiteBench.Pattern.Segment
import SuiteBench.Pattern.Basic

/-!
# Pattern.Written — patterns as they are written

The tree of a written pattern, before flags and names have been given their meaning.  Its depth and
its weight are bounded: `depth` counts what stands inside one another, `weight` estimates the room
that a machine for the pattern takes.
-/

namespace SuiteBench

/-- What a letter behind a backslash names, and the class of the same name in brackets. -/
inductive Shorthand where
  | digit
  | blank
  | word
  deriving DecidableEq, Repr

/-- A character as it is written. -/
structure WrittenChar where
  char : Char
  /-- Whether it is written as the number of a byte. -/
  asByte : Bool
  deriving DecidableEq, Repr

/-- A property as it is written: a name, with a value where one is given. -/
structure WrittenProperty where
  name : String
  value : Option String
  negated : Bool
  deriving DecidableEq, Repr

/-- How two sets in brackets are combined. -/
inductive SetOperation where
  | both
  | butNot
  | notBoth
  deriving DecidableEq, Repr

/-- What stands between brackets. -/
inductive WrittenSet where
  | nothing
  | char (c : WrittenChar)
  | range (first last : WrittenChar)
  /-- A class with a name between colons. -/
  | named (members : CharSet) (negated : Bool)
  | shorthand (s : Shorthand) (negated : Bool)
  | property (p : WrittenProperty)
  | bracketed (negated : Bool) (s : WrittenSet)
  | union (ss : List WrittenSet)
  | combined (op : SetOperation) (a b : WrittenSet)

/-- A flag that is set or taken back. -/
structure FlagChange where
  letter : Char
  on : Bool
  deriving DecidableEq, Repr

/-- A condition on a place as it is written. -/
inductive WrittenPlace where
  /-- The start of the text, or of a line. -/
  | caret
  /-- The end of the text, or of a line. -/
  | dollar
  | textStart
  | textEnd
  | word (side : WordSide)
  deriving DecidableEq, Repr

/-- What stands in front of the content of a group. -/
inductive GroupKind where
  /-- Nothing: the group is known by its number. -/
  | numbered
  | named (name : String)
  /-- A change of flags, perhaps of none: the group is not counted. -/
  | uncounted (changes : List FlagChange)
  deriving DecidableEq, Repr

namespace GroupKind

/-- The name of a group, if it has one. -/
def name? : GroupKind → Option String
  | named name => some name
  | _ => none

/-- The flags that a group changes. -/
def changes : GroupKind → List FlagChange
  | uncounted changes => changes
  | _ => []

/-- Whether a group has a number. -/
def isCounted : GroupKind → Bool
  | uncounted _ => false
  | _ => true

end GroupKind

/-- A written pattern. -/
inductive Written where
  | empty
  | flags (changes : List FlagChange)
  | char (c : WrittenChar)
  | anyChar
  | place (p : WrittenPlace)
  | shorthand (s : Shorthand) (negated : Bool)
  | property (p : WrittenProperty)
  | set (negated : Bool) (s : WrittenSet)
  | repeated (least : Nat) (most : Option Nat) (w : Written)
  | group (kind : GroupKind) (w : Written)
  | sequence (ws : List Written)
  | choice (ws : List Written)

namespace WrittenSet

/-- The set of several items. -/
def ofItems : List WrittenSet → WrittenSet
  | [] => nothing
  | [s] => s
  | ss => union ss

mutual

/-- How deep the parts of a set stand inside one another. -/
def depth : WrittenSet → Nat
  | bracketed _ s => s.depth + 1
  | union ss => depthOfAll ss + 1
  | combined _ a b => max a.depth b.depth + 1
  | _ => 0

/-- The depth of the deepest of several sets. -/
def depthOfAll : List WrittenSet → Nat
  | [] => 0
  | s :: ss => max s.depth (depthOfAll ss)

end

end WrittenSet

namespace Written

/-- The pattern of several items one after another. -/
def ofItems : List Written → Written
  | [] => empty
  | [w] => w
  | ws => sequence ws

/-- The pattern of several alternatives. -/
def ofChoices : List Written → Written
  | [w] => w
  | ws => choice ws

mutual

/-- How deep the parts of a pattern stand inside one another. -/
def depth : Written → Nat
  | set _ s => s.depth + 1
  | repeated _ _ w => w.depth + 1
  | group _ w => w.depth + 1
  | sequence ws => depthOfAll ws + 1
  | choice ws => depthOfAll ws + 1
  | _ => 0

/-- The depth of the deepest of several patterns. -/
def depthOfAll : List Written → Nat
  | [] => 0
  | w :: ws => max w.depth (depthOfAll ws)

end

mutual

/-- The names of the groups. -/
def names : Written → List String
  | repeated _ _ w => w.names
  | group kind w => kind.name?.toList ++ w.names
  | sequence ws => namesOfAll ws
  | choice ws => namesOfAll ws
  | _ => []

/-- The names of the groups of several patterns. -/
def namesOfAll : List Written → List String
  | [] => []
  | w :: ws => w.names ++ namesOfAll ws

end

mutual

/-- Whether nothing but the empty text can match. -/
def takesNothing : Written → Bool
  | empty | flags _ | place _ => true
  | repeated _ most w => most == some 0 || w.takesNothing
  | group _ w => w.takesNothing
  | sequence ws => allTakeNothing ws
  | choice ws => allTakeNothing ws
  | _ => false

/-- Whether nothing but the empty text can match any of several patterns. -/
def allTakeNothing : List Written → Bool
  | [] => true
  | w :: ws => w.takesNothing && allTakeNothing ws

end

/-- The bounds of a repetition: more than one match of the empty text adds nothing. -/
def bounds (least : Nat) (most : Option Nat) (w : Written) : Nat × Option Nat :=
  if w.takesNothing then (min least 1, some (min (most.getD 1) 1)) else (least, most)

end Written

/-! ### Weight

A pattern is run by two machines, one for each direction of the text.  A state of a machine takes
`stateWeight` bytes, and each character beyond ASCII a state for each byte of its UTF-8 form.
-/

/-- The room for one state of a machine, in bytes. -/
def stateWeight : Nat := 32

/-- The directions in which a machine goes over the text. -/
inductive Direction where
  | forwards
  | backwards
  deriving DecidableEq, Repr

/-- The weight of a set that holds single ASCII characters and ranges of them. -/
def plainWeight (ranges : Nat) : Nat := 2 * stateWeight + 8 * ranges

/-- The weight of a set of about so many ranges beyond ASCII. -/
def wideWeight (d : Direction) (ranges : Nat) : Nat :=
  match d with
  | .forwards => 416 + 24 * ranges
  | .backwards => 900 + 62 * ranges

/-- The weight of what a letter behind a backslash names, or of its complement. -/
def Shorthand.weight (d : Direction) (s : Shorthand) (negated : Bool) : Nat :=
  match d, s, negated with
  | .forwards, digit, false => 1584
  | .forwards, digit, true => 2464
  | .forwards, blank, false => 424
  | .forwards, blank, true => 824
  | .forwards, word, false => 20592
  | .forwards, word, true => 20008
  | .backwards, digit, false => 5116
  | .backwards, digit, true => 12720
  | .backwards, blank, false => 680
  | .backwards, blank, true => 1924
  | .backwards, word, false => 49836
  | .backwards, word, true => 46420

/-- The number of ranges that a set is put together from. -/
def CharSet.rangeCount : CharSet → Nat
  | table rs => rs.length
  | union a b | inter a b => a.rangeCount + b.rangeCount
  | complement a | ignoringCase a | ignoringBasicCase a => a.rangeCount
  | _ => 1

/-- The weight of a property. -/
def WrittenProperty.weight (d : Direction) (p : WrittenProperty) : Nat :=
  let s := match p.value with
    | some value => CharSet.ofValue? p.name value
    | none => CharSet.ofName? p.name
  wideWeight d ((s.map CharSet.rangeCount).getD 0)

namespace WrittenSet

/-- Whether a set holds ASCII characters alone, as far as its parts show. -/
def isPlain : WrittenSet → Bool
  | nothing => true
  | char c => c.char.toNat < 128
  | range _ last => last.char.toNat < 128
  | named _ negated => !negated
  | _ => false

mutual

/-- The weight of a set. -/
def weight (d : Direction) : WrittenSet → Nat
  | nothing => plainWeight 0
  | char c => if c.char.toNat < 128 then plainWeight 1 else wideWeight d 1
  | range _ last => if last.char.toNat < 128 then plainWeight 1 else wideWeight d 1
  | named _ negated => if negated then wideWeight d 2 else plainWeight 2
  | shorthand s negated => s.weight d negated
  | property p => p.weight d
  | bracketed negated s => s.weight d + (if negated then wideWeight d 0 else 0)
  | union ss => if ss.all isPlain then plainWeight ss.length else weightOfAll d ss
  | combined _ a b => a.weight d + b.weight d

/-- The weight of several sets. -/
def weightOfAll (d : Direction) : List WrittenSet → Nat
  | [] => 0
  | s :: ss => s.weight d + weightOfAll d ss

end

end WrittenSet

namespace Written

mutual

/-- The weight of a pattern: each repetition that is asked for counts. -/
def weight (d : Direction) : Written → Nat
  | char c => c.char.utf8Size * stateWeight
  | anyChar => wideWeight d 1
  | shorthand s negated => s.weight d negated
  | property p => p.weight d
  | set negated s => s.weight d + (if negated then wideWeight d 0 else 0)
  | repeated least most w =>
    let (least, most) := bounds least most w
    let each := w.weight d
    match most with
    | some most => least * each + (most - least) * (each + stateWeight + 8) + stateWeight
    | none => max least 1 * each + stateWeight + 8
  | group kind w => w.weight d + (if kind.isCounted && d == .forwards then 2 * stateWeight else 0)
  | sequence ws => weightOfAll d ws
  | choice ws => weightOfAll d ws + 2 * stateWeight + 4 * ws.length
  | empty | flags _ | place _ => stateWeight

/-- The weight of several patterns. -/
def weightOfAll (d : Direction) : List Written → Nat
  | [] => 0
  | w :: ws => w.weight d + weightOfAll d ws

end

end Written

end SuiteBench
