import SuiteBench.Shell.Arithmetic

/-!
# Shell.Regular — regular expressions of the search programs

Expressions come in two notations that differ in which marks need a backslash.  A match is found by
trying the alternatives in order, the longest repetition first.
-/

namespace SuiteBench.Shell.Regular

/-- A piece of an expression. -/
inductive Piece where
  | one (admits : Char → Bool)
  | lineStart
  | lineEnd
  | wordEdge (opens closes : Bool)
  | group (number : Nat) (choices : List (List Piece))
  | again (number : Nat)
  | repeated (p : Piece) (least : Nat) (most : Option Nat)
  /-- The end of a group that was entered at a place. -/
  | leave (number start : Nat)
  /-- A repetition goes on only behind a place. -/
  | beyond (start : Nat)

/-- Characters of words. -/
def isWordChar (c : Char) : Bool := c.isAlphanum || c == '_'

/-- The class of a name in brackets. -/
def classOf (name : String) (c : Char) : Bool :=
  match name with
  | "alpha" => c.isAlpha
  | "digit" => c.isDigit
  | "alnum" => c.isAlphanum
  | "lower" => c.isLower
  | "upper" => c.isUpper
  | "space" => Arithmetic.isSpace c
  | "blank" => c == ' ' || c == '\t'
  | "punct" => 32 < c.toNat && c.toNat < 127 && !c.isAlphanum
  | "print" => 32 ≤ c.toNat && c.toNat < 127
  | "xdigit" => (Arithmetic.digit? 16 c).isSome
  | _ => false

/-! ### Reading -/

/-- The members of a bracket after its opening and the text behind it. -/
def members : Nat → Bool → List Char → Option ((Char → Bool) × List Char)
  | 0, _, _ => none
  | n + 1, first, cs =>
    match cs with
    | [] => none
    | ']' :: r => if first then add n (· == ']') r else some (fun _ => false, r)
    | '[' :: ':' :: r =>
      let name := r.takeWhile (· != ':')
      match r.drop name.length with
      | ':' :: ']' :: r => add n (classOf (String.ofList name)) r
      | _ => none
    | a :: '-' :: b :: r =>
      if b == ']' then add n (· == a) ('-' :: b :: r) else add n (fun c => a ≤ c && c ≤ b) r
    | a :: r => add n (· == a) r
where
  /-- One more member. -/
  add (n : Nat) (f : Char → Bool) (r : List Char) : Option ((Char → Bool) × List Char) :=
    (members n false r).map fun (g, r) => (fun c => f c || g c, r)

/-- A bracket after its opening. -/
def bracket (cs : List Char) : Option (Piece × List Char) :=
  match cs with
  | '^' :: r => (members (r.length + 1) true r).map fun (f, r) => (.one fun c => !f c, r)
  | r => (members (r.length + 1) true r).map fun (f, r) => (.one f, r)

/-- The bounds of a repetition up to their closing mark. -/
def bounds (close cs : List Char) : Option (Nat × Option Nat × List Char) :=
  let (least, r) := Arithmetic.digits 10 cs
  let (most, r) : Option Nat × List Char := match r with
    | ',' :: r =>
      if (r.head?.any Char.isDigit) then let (m, r) := Arithmetic.digits 10 r; (some m, r)
      else (none, r)
    | r => (some least, r)
  (Text.stripFront? close r).map fun r => (least, most, r)

/-- What an expression is read to: its alternatives, the number of its groups, and the rest. -/
abbrev Draft := List (List Piece) × Nat × List Char

/-- Puts a piece at the end of the last alternative. -/
def push (p : Piece) (done : List (List Piece)) : List (List Piece) :=
  match done with
  | last :: more => (p :: last) :: more
  | [] => [[p]]

/-- Applies a repetition to the last piece. -/
def repeatLast (least : Nat) (most : Option Nat) (done : List (List Piece)) : List (List Piece) :=
  match done with
  | (p :: last) :: more => (.repeated p least most :: last) :: more
  | other => other

/-- Whether a repetition may stand here: something stands in front of it. -/
def follows (done : List (List Piece)) : Bool :=
  match done with
  | (.lineStart :: _) :: _ => false
  | (_ :: _) :: _ => true
  | _ => false

/-- The alternatives of a draft in order. -/
def finish (done : List (List Piece)) : List (List Piece) := (done.map List.reverse).reverse

/-- Reads an expression up to its end or to the mark that closes a group. -/
def read (extended : Bool) : Nat → Bool → List (List Piece) → Nat → List Char → Option Draft
  | 0, _, _, _, _ => none
  | n + 1, inside, done, groups, cs =>
    let starts := done.head?.all (·.isEmpty)
    let plain (c : Char) (r : List Char) : Option Draft :=
      read extended n inside (push (.one (· == c)) done) groups r
    let open_ (r : List Char) : Option Draft := do
      let (inner, last, r) ← read extended n true [[]] (groups + 1) r
      read extended n inside (push (.group (groups + 1) inner) done) last r
    let times (least : Nat) (most : Option Nat) (r : List Char) : Option Draft :=
      read extended n inside (repeatLast least most done) groups r
    let other (r : List Char) : Option Draft := read extended n inside ([] :: done) groups r
    match cs with
    | [] => if inside then none else some (finish done, groups, [])
    | '.' :: r => read extended n inside (push (.one fun _ => true) done) groups r
    | '[' :: r => do
      let (p, r) ← bracket r
      read extended n inside (push p done) groups r
    | '*' :: r => if follows done then times 0 none r else plain '*' r
    | '^' :: r =>
      if extended || starts then read extended n inside (push .lineStart done) groups r
      else plain '^' r
    | '$' :: r =>
      let ends := r.isEmpty || extended || (Text.stripFront? ['\\', ')'] r).isSome ||
        (Text.stripFront? ['\\', '|'] r).isSome
      if ends then read extended n inside (push .lineEnd done) groups r else plain '$' r
    | '\\' :: c :: r =>
      if c == '(' && !extended then open_ r
      else if c == ')' && !extended then
        if inside then some (finish done, groups, r) else none
      else if c == '|' && !extended then other r
      else if c == '\x7b' && !extended then
        match bounds ['\\', '\x7d'] r with
        | some (least, most, r) => times least most r
        | none => none
      else if c == '+' && !extended then times 1 none r
      else if c == '?' && !extended then times 0 (some 1) r
      else if c == 'w' then read extended n inside (push (.one isWordChar) done) groups r
      else if c == 'W' then
        read extended n inside (push (.one fun c => !isWordChar c) done) groups r
      else if c == 's' then read extended n inside (push (.one Arithmetic.isSpace) done) groups r
      else if c == 'S' then
        read extended n inside (push (.one fun c => !Arithmetic.isSpace c) done) groups r
      else if c == 'b' then
        read extended n inside (push (.wordEdge true true) done) groups r
      else if c == '<' then
        read extended n inside (push (.wordEdge true false) done) groups r
      else if c == '>' then
        read extended n inside (push (.wordEdge false true) done) groups r
      else if c == 'n' then plain '\n' r
      else if c == 't' then plain '\t' r
      else if '1' ≤ c && c ≤ '9' then
        read extended n inside (push (.again (c.toNat - 48)) done) groups r
      else plain c r
    | c :: r =>
      if !extended then plain c r
      else if c == '(' then open_ r
      else if c == ')' && inside then some (finish done, groups, r)
      else if c == '|' then other r
      else if c == '+' && follows done then times 1 none r
      else if c == '?' && follows done then times 0 (some 1) r
      else if c == '\x7b' && follows done then
        match bounds ['\x7d'] r with
        | some (least, most, r) => times least most r
        | none => plain c r
      else plain c r

/-- The expression that a text writes. -/
def ofText? (extended : Bool) (cs : List Char) : Option Piece :=
  (read extended (cs.length + 1) false [[]] 0 cs).map fun (choices, _, _) => .group 0 choices

/-- The expression that stands for a text itself. -/
def literal (cs : List Char) : Piece := .group 0 [cs.map fun c => .one (· == c)]

/-- The same expression without regard to case. -/
def foldCase : Nat → Piece → Piece
  | 0, p => p
  | _ + 1, .one f => .one fun c => f c.toLower || f c.toUpper
  | n + 1, .group i choices => .group i (choices.map fun ps => ps.map (foldCase n))
  | n + 1, .repeated p least most => .repeated (foldCase n p) least most
  | _ + 1, p => p

/-! ### Matching -/

/-- Where a match stands: the text behind it, the last character first, and the text in front. -/
structure Place where
  behind : List Char
  ahead : List Char
  /-- What the groups matched: number, start and end. -/
  groups : List (Nat × Nat × Nat)

/-- The number of characters in front of a place. -/
def Place.offset (s : Place) : Nat := s.behind.length

/-- The text that a group matched. -/
def Place.groupText (s : Place) (number : Nat) : List Char :=
  match s.groups.find? (·.1 == number) with
  | some (_, a, b) => ((s.behind.reverse ++ s.ahead).drop a).take (b - a)
  | none => []

/-- The place where a sequence of pieces ends, if it matches here. -/
def run : Nat → List Piece → Place → Option Place
  | 0, _, _ => none
  | _ + 1, [], s => some s
  | n + 1, p :: ps, s =>
    match p with
    | .one f => match s.ahead with
      | c :: r => if f c then run n ps { s with behind := c :: s.behind, ahead := r } else none
      | [] => none
    | .lineStart => if s.behind.isEmpty then run n ps s else none
    | .lineEnd => if s.ahead.isEmpty then run n ps s else none
    | .wordEdge opens closes =>
      let before := s.behind.head?.any isWordChar
      let after := s.ahead.head?.any isWordChar
      if (opens && !before && after) || (closes && before && !after) then run n ps s else none
    | .group i choices =>
      choices.findSome? fun c => run n (c ++ .leave i s.offset :: ps) s
    | .leave i start =>
      run n ps { s with groups := (i, start, s.offset) :: s.groups.filter (·.1 != i) }
    | .again i =>
      run n ((s.groupText i).map (fun c => Piece.one (· == c)) ++ ps) s
    | .beyond start => if start < s.offset then run n ps s else none
    | .repeated q least most =>
      if most = some 0 then run n ps s
      else
        let next := Piece.repeated q (least - 1) (most.map (· - 1))
        if 0 < least then run n (q :: next :: ps) s
        else match run n (q :: .beyond s.offset :: next :: ps) s with
          | some t => some t
          | none => run n ps s

/-- How deep a match may go. -/
def depth (cs : List Char) : Nat := 400 * (cs.length + 10)

/-- The first match in a text from a place on, with the place where it starts. -/
def findFrom (p : Piece) : Nat → Place → Option (Nat × Place)
  | 0, _ => none
  | n + 1, s =>
    match run (depth s.ahead) [p] { s with groups := [] } with
    | some t => some (s.offset, t)
    | none => match s.ahead with
      | c :: r => findFrom p n { s with behind := c :: s.behind, ahead := r }
      | [] => none

/-- The first match in a text. -/
def find? (p : Piece) (cs : List Char) : Option (Nat × Place) :=
  findFrom p (cs.length + 1) ⟨[], cs, []⟩

/-- Whether an expression matches somewhere in a text. -/
def occurs (p : Piece) (cs : List Char) : Bool := (find? p cs).isSome

/-- All matches in a text, from the left and without overlaps: start and end place. -/
def findAll (p : Piece) : Nat → Place → List (Nat × Place)
  | 0, _ => []
  | n + 1, s =>
    match findFrom p (s.ahead.length + 1) s with
    | none => []
    | some (a, t) =>
      if a < t.offset then (a, t) :: findAll p n t
      else match t.ahead with
        | c :: r => (a, t) :: findAll p n { t with behind := c :: t.behind, ahead := r }
        | [] => [(a, t)]

end SuiteBench.Shell.Regular
