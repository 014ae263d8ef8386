import SuiteBench.Pattern.Reader

/-!
# Pattern.Meaning — what written patterns match

Flags hold from where they are set to the end of their group.  With the flag `u` taken back, a
pattern speaks of bytes: then it must not match a part of a character alone, so that complements and
anything beyond the basic characters are refused in sets.  A search only asks whether there is a
match, so that eager and reluctant repetitions mean the same.
-/

namespace SuiteBench

/-- The flags in force. -/
structure PatternFlags where
  ignoresCase : Bool
  multiLine : Bool
  dotTakesAll : Bool
  /-- Whether carriage returns end lines too. -/
  returns : Bool
  /-- Whether the pattern speaks of bytes. -/
  bytes : Bool

namespace PatternFlags

/-- The flags at the start of a pattern. -/
def initial : PatternFlags := ⟨false, false, false, false, false⟩

/-- The flags after a change. -/
def change (f : PatternFlags) (c : FlagChange) : PatternFlags :=
  match c.letter with
  | 'i' => { f with ignoresCase := c.on }
  | 'm' => { f with multiLine := c.on }
  | 's' => { f with dotTakesAll := c.on }
  | 'R' => { f with returns := c.on }
  | 'u' => { f with bytes := !c.on }
  | _ => f

/-- A set, without regard to case where the flags say so. -/
def folded (f : PatternFlags) (s : CharSet) : CharSet :=
  if !f.ignoresCase then s else if f.bytes then .ignoringBasicCase s else .ignoringCase s

/-- A set or its complement; sets of bytes have no complement that holds whole characters only. -/
def negated? (f : PatternFlags) (negated : Bool) (s : CharSet) : Option CharSet :=
  if !negated then some s else if f.bytes then none else some (.complement s)

/-- The set of a character in a set. -/
def setChar? (f : PatternFlags) (c : WrittenChar) : Option Char :=
  if f.bytes && 128 ≤ c.char.toNat then none else some c.char

end PatternFlags

/-- The characters that a letter behind a backslash names. -/
def Shorthand.members (s : Shorthand) (bytes : Bool) : CharSet :=
  match s, bytes with
  | digit, false => .digit
  | blank, false => .blank
  | word, false => .word
  | digit, true => .range '0' '9'
  | blank, true => .union (.range '\t' '\r') (.one ' ')
  | word, true => .unions [.range '0' '9', .range 'a' 'z', .range 'A' 'Z', .one '_']

/-- The set that a letter behind a backslash means. -/
def Shorthand.set? (f : PatternFlags) (s : Shorthand) (negated : Bool) : Option CharSet :=
  f.negated? negated (s.members f.bytes)

/-- The set that a property means. -/
def WrittenProperty.set? (f : PatternFlags) (p : WrittenProperty) : Option CharSet := do
  if f.bytes then none
  let s ← match p.value with
    | some value => CharSet.ofValue? p.name value
    | none => CharSet.ofName? p.name
  f.negated? p.negated (f.folded s)

/-- Two sets combined. -/
def SetOperation.apply (op : SetOperation) (a b : CharSet) : CharSet :=
  match op with
  | both => .inter a b
  | butNot => a.without b
  | notBoth => .union (a.without b) (b.without a)

namespace WrittenSet

mutual

/-- The characters that a set between brackets means. -/
def meaning? (f : PatternFlags) : WrittenSet → Option CharSet
  | nothing => some .none
  | char c => (f.setChar? c).map .one
  | range a b => do return .range (← f.setChar? a) (← f.setChar? b)
  | named s negated => f.negated? negated (f.folded s)
  | shorthand s negated => s.set? f negated
  | property p => p.set? f
  | bracketed negated s => do f.negated? negated (f.folded (← s.meaning? f))
  | union ss => unionOf? f ss
  | combined op a b => do return op.apply (f.folded (← a.meaning? f)) (f.folded (← b.meaning? f))

/-- The characters that any of several sets means. -/
def unionOf? (f : PatternFlags) : List WrittenSet → Option CharSet
  | [] => some .none
  | s :: ss => do return .union (← s.meaning? f) (← unionOf? f ss)

end

end WrittenSet

namespace Pattern

/-- `n` copies of a pattern one after another. -/
def copies (p : Pattern) : Nat → Pattern
  | 0 => empty
  | 1 => p
  | n + 2 =>
    let half := copies p ((n + 2) / 2)
    if n % 2 == 0 then seq half half else seq (seq half half) p
termination_by n => n
decreasing_by omega

/-- Any number of matches of a pattern. -/
def anyNumber : Pattern → Pattern
  | char s => many s
  | p => star p

/-- At least `least` and, where there is a bound, at most `most` matches of a pattern. -/
def repeated (p : Pattern) (least : Nat) (most : Option Nat) : Pattern :=
  match most with
  | some most => seq (copies p least) (copies (optional p) (most - least))
  | none => seq (copies p least) (anyNumber p)

/-- Whether a condition of the pattern asks for words of any script. -/
def asksForWords : Pattern → Bool
  | place (.word _ basic) => !basic
  | seq a b | alt a b => a.asksForWords || b.asksForWords
  | star a => a.asksForWords
  | _ => false

end Pattern

/-- The condition that a written one means. -/
def WrittenPlace.meaning (f : PatternFlags) : WrittenPlace → Place
  | caret => if f.multiLine then .lineStart f.returns else .textStart
  | dollar => if f.multiLine then .lineEnd f.returns else .textEnd
  | textStart => .textStart
  | textEnd => .textEnd
  | word side => .word side f.bytes

namespace Written

open Pattern

/-- The characters that a dot means. -/
def dotSet (f : PatternFlags) : CharSet :=
  if f.dotTakesAll then .all
  else if f.returns then .complement (.ofText "\r\n")
  else .inLine

mutual

/-- What a written pattern matches, and the flags that hold behind it. -/
def meaning? (f : PatternFlags) : Written → Option (Pattern × PatternFlags)
  | empty => some (.empty, f)
  | flags changes => some (.empty, changes.foldl PatternFlags.change f)
  | char c =>
    if f.bytes && c.asByte && 128 ≤ c.char.toNat then none
    else some (.char (f.folded (.one c.char)), f)
  | anyChar => if f.bytes then none else some (.char (dotSet f), f)
  | place p => some (.place (p.meaning f), f)
  | shorthand s negated => (s.set? f negated).map fun s => (.char s, f)
  | property p => (p.set? f).map fun s => (.char s, f)
  | set negated s => do
    let s ← f.negated? negated (f.folded (← s.meaning? f))
    return (.char s, f)
  | repeated least most w => do
    let (p, f) ← w.meaning? f
    let (least, most) := bounds least most w
    return (p.repeated least most, f)
  | group kind w => do
    let (p, _) ← w.meaning? (kind.changes.foldl PatternFlags.change f)
    return (p, f)
  | sequence ws => inSequence? f ws
  | choice ws => anyOf? f ws

/-- What written patterns match one after another, and the flags that hold behind them. -/
def inSequence? (f : PatternFlags) : List Written → Option (Pattern × PatternFlags)
  | [] => some (.empty, f)
  | w :: ws => do
    let (p, f) ← w.meaning? f
    let (q, f) ← inSequence? f ws
    return (.seq p q, f)

/-- What any of several written patterns matches, and the flags that hold behind them. -/
def anyOf? (f : PatternFlags) : List Written → Option (Pattern × PatternFlags)
  | [] => some (.char .none, f)
  | w :: ws => do
    let (p, f) ← w.meaning? f
    if ws.isEmpty then return (p, f)
    let (q, f) ← anyOf? f ws
    return (.alt p q, f)

end

end Written

namespace Pattern

/-- The largest weight of a pattern. -/
def heaviest : Nat := 10485760

/-- The pattern that a text writes, whatever its weight. -/
def readHeavy? (s : String) : Option Pattern := do
  return (← (← Written.ofText? s).meaning? .initial).1

/-- The pattern that a text writes. -/
def read? (s : String) : Option Pattern := do
  let w ← Written.ofText? s
  if heaviest < max (w.weight .forwards) (w.weight .backwards) then none
  else return (← w.meaning? .initial).1

end Pattern

end SuiteBench
