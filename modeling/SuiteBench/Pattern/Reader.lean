import SuiteBench.Pattern.Written
import SuiteBench.Text.Lines

/-!
# Pattern.Reader — written patterns from their text

Characters and escapes, sets in brackets, groups, alternatives, repetitions and flags.  Where the
flag `x` is set, blanks and comments between the parts are passed over, also inside of sets and
repetition counts; `spaced` says so below.
-/

namespace SuiteBench.Written

/-! ### Blanks and comments -/

/-- The text behind blanks and comments; `inComment` says whether a comment is open. -/
def skipBlanks (inComment : Bool) : List Char → List Char
  | [] => []
  | c :: r =>
    if inComment then skipBlanks (c != '\n') r
    else if Text.isBlank c then skipBlanks false r
    else if c == '#' then skipBlanks true r
    else c :: r

/-- The text from the next part on. -/
def next (spaced : Bool) (cs : List Char) : List Char :=
  if spaced then skipBlanks false cs else cs

/-- The character behind the next one, as far as a range in a set looks ahead. -/
def lookAhead? (spaced : Bool) (cs : List Char) : Option Char :=
  let r := cs.drop 1
  if spaced then
    match r.dropWhile Text.isBlank with
    | '#' :: r' => (r'.dropWhile Text.isBlank).head?.or r.head?
    | r' => r'.head?.or r.head?
  else r.head?

/-! ### Escapes -/

/-- The value of a digit of base sixteen. -/
def hexDigit? (c : Char) : Option Nat :=
  if '0' ≤ c && c ≤ '9' then some (c.toNat - 48)
  else if 'a' ≤ c && c ≤ 'f' then some (c.toNat - 87)
  else if 'A' ≤ c && c ≤ 'F' then some (c.toNat - 55) else none

/-- The character with a number, if there is one. -/
def charOf? (n : Nat) : Option Char := if n.isValidChar then some (Char.ofNat n) else none

/-- The number that exactly `count` digits of base sixteen write. -/
def hexDigits? (spaced : Bool) : Nat → Nat → List Char → Option (Nat × List Char)
  | 0, n, cs => some (n, cs)
  | _ + 1, _, [] => none
  | count + 1, n, c :: r => do
    hexDigits? spaced count (n * 16 + (← hexDigit? c)) (next spaced r)

/-- The number that the digits of base sixteen up to a closing brace write. -/
def bracedHex? (spaced : Bool) : Nat → Option Nat → List Char → Option (Nat × List Char)
  | 0, _, _ => none
  | fuel + 1, n?, cs =>
    match cs with
    | [] => none
    | '}' :: r => n?.map fun n => (n, next spaced r)
    | c :: r => do bracedHex? spaced fuel (some (n?.getD 0 * 16 + (← hexDigit? c))) (next spaced r)

/-- The character whose number stands behind one of the letters `x`, `u` and `U`, which call for two,
four and eight digits where there are no braces. -/
def numbered? (spaced : Bool) (letter : Char) (cs : List Char) :
    Option (WrittenChar × List Char) := do
  match next spaced cs with
  | '{' :: r =>
    let (n, r) ← bracedHex? spaced (r.length + 1) none (next spaced r)
    return (⟨← charOf? n, false⟩, r)
  | cs =>
    let count := if letter == 'x' then 2 else if letter == 'u' then 4 else 8
    let (n, r) ← hexDigits? spaced count 0 cs
    return (⟨← charOf? n, letter == 'x'⟩, r)

/-- The text up to a closing brace, and the rest behind it. -/
def braced? (spaced : Bool) : Nat → List Char → List Char → Option (List Char × List Char)
  | 0, _, _ => none
  | fuel + 1, acc, cs =>
    match cs with
    | [] => none
    | '}' :: r => some (acc.reverse, r)
    | c :: r => braced? spaced fuel (c :: acc) (next spaced r)

/-- The property that a text between braces names: by itself, or with a value behind a sign. -/
def propertyOf (negated : Bool) (cs : List Char) : WrittenProperty :=
  let split (sign : String) := (Text.splitAtFirst? sign.toList cs).map fun (n, v) =>
    (⟨String.ofList n, some (String.ofList v), negated⟩ : WrittenProperty)
  ((split "!=").or ((split ":").or (split "="))).getD ⟨String.ofList cs, none, negated⟩

/-- The property that stands behind the letter `p`. -/
def property? (spaced negated : Bool) (cs : List Char) : Option (WrittenProperty × List Char) :=
  match next spaced cs with
  | [] => none
  | '{' :: r =>
    (braced? spaced (r.length + 1) [] (next spaced r)).map fun (cs, r) => (propertyOf negated cs, r)
  | '\\' :: _ => none
  | c :: r => some (⟨c.toString, none, negated⟩, next spaced r)

/-- The relation to words that a name in braces gives; nothing if no name stands in the braces, and
no answer if the name is wrong. -/
def namedSide? (spaced : Bool) (cs : List Char) : Option (Option (WordSide × List Char)) :=
  let isNameChar (c : Char) : Bool := c.isAlpha || c == '-'
  match next spaced cs with
  | [] => none
  | c :: r =>
    if !isNameChar c then some none
    else do
      let (name, rest) ← braced? spaced (r.length + 2) [] (c :: r)
      let side ← match String.ofList name with
        | "start" => some WordSide.start
        | "end" => some .finish
        | "start-half" => some .startHalf
        | "end-half" => some .finishHalf
        | _ => none
      return some (side, rest)

/-- What a letter behind a backslash names. -/
def shorthand? : Char → Option (Shorthand × Bool)
  | 'd' => some (.digit, false)
  | 'D' => some (.digit, true)
  | 's' => some (.blank, false)
  | 'S' => some (.blank, true)
  | 'w' => some (.word, false)
  | 'W' => some (.word, true)
  | _ => none

/-- The control character that a letter behind a backslash stands for. -/
def control? : Char → Option Char
  | 'a' => some '\x07'
  | 'f' => some '\x0c'
  | 't' => some '\t'
  | 'n' => some '\n'
  | 'r' => some '\r'
  | 'v' => some '\x0b'
  | _ => none

/-- Whether a backslash in front of `c` makes it stand for itself. -/
def isEscapable (c : Char) : Bool := c.toNat < 128 && !c.isAlphanum && c != '<' && c != '>'

/-- What stands behind a backslash. -/
def escape? (spaced : Bool) : List Char → Option (Written × List Char)
  | [] => none
  | c :: r =>
    if c == 'x' || c == 'u' || c == 'U' then
      (numbered? spaced c r).map fun (d, r) => (char d, r)
    else if c == 'p' || c == 'P' then
      (property? spaced (c == 'P') r).map fun (p, r) => (property p, r)
    else match shorthand? c, control? c with
      | some (s, negated), _ => some (shorthand s negated, r)
      | none, some d => some (char ⟨d, false⟩, r)
      | none, none =>
        if isEscapable c then some (char ⟨c, false⟩, r)
        else match c with
          | 'A' => some (place .textStart, r)
          | 'z' => some (place .textEnd, r)
          | 'B' => some (place (.word .noEdge), r)
          | '<' => some (place (.word .start), r)
          | '>' => some (place (.word .finish), r)
          | 'b' =>
            match r with
            | '{' :: r' => do
              match ← namedSide? spaced r' with
              | some (side, rest) => return (place (.word side), rest)
              | none => return (place (.word .edge), r)
            | _ => some (place (.word .edge), r)
          | _ => none

/-! ### Sets -/

/-- The members of the classes with names between colons. -/
def namedClass? (name : String) : Option CharSet :=
  let digits : CharSet := .range '0' '9'
  let lower : CharSet := .range 'a' 'z'
  let upper : CharSet := .range 'A' 'Z'
  let letters : CharSet := .union lower upper
  match name with
  | "alnum" => some (.union digits letters)
  | "alpha" => some letters
  | "ascii" => some (.range '\x00' '\x7f')
  | "blank" => some (.ofText " \t")
  | "cntrl" => some (.union (.range '\x00' '\x1f') (.one '\x7f'))
  | "digit" => some digits
  | "graph" => some (.range '!' '~')
  | "lower" => some lower
  | "print" => some (.range ' ' '~')
  | "punct" => some ((CharSet.range '!' '~').without (.union digits letters))
  | "space" => some (.union (.range '\t' '\r') (.one ' '))
  | "upper" => some upper
  | "word" => some (.unions [digits, letters, .one '_'])
  | "xdigit" => some (.unions [digits, .range 'a' 'f', .range 'A' 'F'])
  | _ => none

/-- A class with a name between colons, from behind its opening bracket. -/
def colonClass? : List Char → Option (WrittenSet × List Char)
  | ':' :: r =>
    let (negated, r) := match r with
      | '^' :: r => (true, r)
      | r => (false, r)
    match r.dropWhile (· != ':') with
    | ':' :: ']' :: rest =>
      (namedClass? (String.ofList (r.takeWhile (· != ':')))).map fun s => (.named s negated, rest)
    | _ => none
  | _ => none

/-- One character of a set, or an escape. -/
def setItem? (spaced : Bool) : List Char → Option (Written × List Char)
  | [] => none
  | '\\' :: r => escape? spaced r
  | c :: r => some (char ⟨c, false⟩, r)

/-- The set that a character or an escape stands for. -/
def asSet? : Written → Option WrittenSet
  | char c => some (.char c)
  | shorthand s negated => some (.shorthand s negated)
  | property p => some (.property p)
  | _ => none

/-- One character, an escape or a range of a set. -/
def setRange? (spaced : Bool) (cs : List Char) : Option (WrittenSet × List Char) := do
  let (first, r) ← setItem? spaced cs
  match next spaced r with
  | [] => none
  | '-' :: r =>
    let ahead := lookAhead? spaced ('-' :: r)
    if ahead == some ']' || ahead == some '-' then return (← asSet? first, '-' :: r)
    let (last, rest) ← setItem? spaced (next spaced r)
    match first, last with
    | char a, char b => if a.char ≤ b.char then return (.range a b, rest) else none
    | _, _ => none
  | r => return (← asSet? first, r)

/-- The hyphens at the start of a set, which stand for themselves. -/
def leadingHyphens (spaced : Bool) : Nat → List WrittenSet → List Char →
    List WrittenSet × List Char
  | 0, acc, cs => (acc, cs)
  | fuel + 1, acc, cs =>
    match cs with
    | '-' :: r => leadingHyphens spaced fuel (.char ⟨'-', false⟩ :: acc) (next spaced r)
    | cs => (acc, cs)

/-- A set that is combined with the one in front of it, if one waits there. -/
def combine (waiting : Option (SetOperation × WrittenSet)) (items : List WrittenSet) : WrittenSet :=
  let s := WrittenSet.ofItems items.reverse
  match waiting with
  | some (op, first) => .combined op first s
  | none => s

mutual

/-- A set from behind its opening bracket: whether it is negated, its content and the rest. -/
def set? (spaced : Bool) : Nat → List Char → Option (Bool × WrittenSet × List Char)
  | 0, _ => none
  | fuel + 1, cs => do
    let (negated, cs) := match next spaced cs with
      | '^' :: r => (true, next spaced r)
      | cs => (false, cs)
    let (items, cs) := leadingHyphens spaced cs.length [] cs
    let (items, cs) := match items, cs with
      | [], ']' :: r => ([WrittenSet.char ⟨']', false⟩], next spaced r)
      | items, cs => (items, cs)
    let (s, r) ← setItems? spaced fuel none items cs
    return (negated, s, r)

/-- The items of a set up to its closing bracket; those read are in `items`, the latest first. -/
def setItems? (spaced : Bool) : Nat → Option (SetOperation × WrittenSet) → List WrittenSet →
    List Char → Option (WrittenSet × List Char)
  | 0, _, _, _ => none
  | fuel + 1, waiting, items, cs =>
    match next spaced cs with
    | [] => none
    | '[' :: r =>
      match colonClass? r with
      | some (s, r) => setItems? spaced fuel waiting (s :: items) r
      | none => do
        let (negated, s, r) ← set? spaced fuel r
        setItems? spaced fuel waiting (.bracketed negated s :: items) r
    | ']' :: r => some (combine waiting items, r)
    | '&' :: '&' :: r => setItems? spaced fuel (some (.both, combine waiting items)) [] r
    | '-' :: '-' :: r => setItems? spaced fuel (some (.butNot, combine waiting items)) [] r
    | '~' :: '~' :: r => setItems? spaced fuel (some (.notBoth, combine waiting items)) [] r
    | cs => do
      let (s, r) ← setRange? spaced cs
      setItems? spaced fuel waiting (s :: items) r

end

/-! ### Repetitions -/

/-- The largest number of a repetition. -/
def largestCount : Nat := 4294967295

/-- The digits in front of `cs`. -/
def countDigits (spaced : Bool) : Nat → List Char → List Char × List Char
  | 0, cs => ([], cs)
  | fuel + 1, cs =>
    match cs with
    | c :: r =>
      if '0' ≤ c && c ≤ '9' then
        let (ds, r) := countDigits spaced fuel (next spaced r)
        (c :: ds, r)
      else ([], cs)
    | [] => ([], [])

/-- A number of a repetition, with blanks around it. -/
def count? (spaced : Bool) (cs : List Char) : Option (Nat × List Char) :=
  let (ds, r) := countDigits spaced cs.length (cs.dropWhile Text.isBlank)
  let n := ds.foldl (fun n d => n * 10 + (d.toNat - 48)) 0
  if ds.isEmpty || largestCount < n then none
  else some (n, next spaced (r.dropWhile Text.isBlank))

/-- The bounds of a repetition from behind its opening brace, and the rest behind the closing
one. -/
def counts? (spaced : Bool) (cs : List Char) : Option (Nat × Option Nat × List Char) := do
  let (least, r) ← count? spaced (next spaced cs)
  match r with
  | '}' :: r => return (least, some least, r)
  | ',' :: r =>
    match next spaced r with
    | '}' :: r => return (least, none, r)
    | r =>
      let (most, r) ← count? spaced r
      match r with
      | '}' :: r => if least ≤ most then return (least, some most, r) else none
      | _ => none
  | _ => none

/-- The text behind the mark of a reluctant repetition: a search only asks whether there is a
match. -/
def reluctant : List Char → List Char
  | '?' :: r => r
  | r => r

/-- The items with the last one repeated; flags cannot be. -/
def repeatLast? (least : Nat) (most : Option Nat) : List Written → Option (List Written)
  | [] | flags _ :: _ => none
  | w :: ws => some (repeated least most w :: ws)

/-! ### Groups -/

/-- Whether a character may stand in the name of a group. -/
def isNameChar (first : Bool) (c : Char) : Bool :=
  c == '_' || CharSet.alphabetic.has c ||
    (!first && (c == '.' || c == '[' || c == ']' || (CharSet.categories ["Nd", "Nl", "No"]).has c))

/-- The name of a group and what follows its closing bracket. -/
def groupName? (cs : List Char) : Option (String × List Char) :=
  match cs.takeWhile (· != '>'), cs.dropWhile (· != '>') with
  | c :: name, _ :: r =>
    if isNameChar true c && name.all (isNameChar false) then some (String.ofList (c :: name), r)
    else none
  | _, _ => none

/-- The flags up to a colon or a closing parenthesis: each once, and a sign in front of those that
are taken back. -/
def flags? : Bool → List FlagChange → List Char → Option (List FlagChange × List Char)
  | _, _, [] => none
  | on, acc, c :: r =>
    if c == ':' || c == ')' then
      if !on && acc.all (·.on) then none else some (acc.reverse, c :: r)
    else if c == '-' then if on then flags? false acc r else none
    else if "ismRUux".toList.contains c && acc.all (·.letter != c) then
      flags? on (⟨c, on⟩ :: acc) r
    else none

/-- Whether blanks are passed over after a change of flags. -/
def spacedAfter (spaced : Bool) (changes : List FlagChange) : Bool :=
  ((changes.find? (·.letter == 'x')).map (·.on)).getD spaced

mutual

/-- Alternatives up to a closing parenthesis or the end, and whether blanks are passed over behind
them. -/
def choices? : Nat → Bool → List Char → Option (List Written × Bool × List Char)
  | 0, _, _ => none
  | fuel + 1, spaced, cs => do
    let (items, spaced, r) ← items? fuel spaced [] cs
    match r with
    | '|' :: r =>
      let (ws, spaced, r) ← choices? fuel spaced r
      return (ofItems items :: ws, spaced, r)
    | r => return ([ofItems items], spaced, r)

/-- Items one after another; those read are in `acc`, the latest first. -/
def items? : Nat → Bool → List Written → List Char → Option (List Written × Bool × List Char)
  | 0, _, _, _ => none
  | fuel + 1, spaced, acc, cs =>
    match next spaced cs with
    | [] => some (acc.reverse, spaced, [])
    | '|' :: r => some (acc.reverse, spaced, '|' :: r)
    | ')' :: r => some (acc.reverse, spaced, ')' :: r)
    | '(' :: r => do
      let (w, spaced, r) ← group? fuel spaced (next spaced r)
      items? fuel spaced (w :: acc) r
    | '[' :: r => do
      let (negated, s, r) ← set? spaced (2 * r.length + 2) r
      items? fuel spaced (set negated s :: acc) r
    | '?' :: r => do items? fuel spaced (← repeatLast? 0 (some 1) acc) (reluctant r)
    | '*' :: r => do items? fuel spaced (← repeatLast? 0 none acc) (reluctant r)
    | '+' :: r => do items? fuel spaced (← repeatLast? 1 none acc) (reluctant r)
    | '{' :: r => do
      let (least, most, r) ← counts? spaced r
      items? fuel spaced (← repeatLast? least most acc) (reluctant (next spaced r))
    | '.' :: r => items? fuel spaced (anyChar :: acc) r
    | '^' :: r => items? fuel spaced (place .caret :: acc) r
    | '$' :: r => items? fuel spaced (place .dollar :: acc) r
    | '\\' :: r => do
      let (w, r) ← escape? spaced r
      items? fuel spaced (w :: acc) r
    | c :: r => items? fuel spaced (char ⟨c, false⟩ :: acc) r

/-- A group from behind its opening parenthesis, or a change of flags for what follows. -/
def group? : Nat → Bool → List Char → Option (Written × Bool × List Char)
  | 0, _, _ => none
  | fuel + 1, spaced, cs =>
    match cs with
    | '?' :: '=' :: _ | '?' :: '!' :: _ | '?' :: '<' :: '=' :: _ | '?' :: '<' :: '!' :: _ => none
    | '?' :: 'P' :: '<' :: r | '?' :: '<' :: r => do
      let (name, r) ← groupName? r
      inGroup? fuel spaced (.named name) r
    | '?' :: r => do
      match ← flags? true [] r with
      | ([], ')' :: _) => none
      | (changes, ')' :: r) => return (flags changes, spacedAfter spaced changes, r)
      | (changes, _ :: r) => inGroup? fuel spaced (.uncounted changes) r
      | _ => none
    | r => inGroup? fuel spaced .numbered r

/-- The content of a group and its closing parenthesis. -/
def inGroup? : Nat → Bool → GroupKind → List Char → Option (Written × Bool × List Char)
  | 0, _, _, _ => none
  | fuel + 1, spaced, kind, cs => do
    let (ws, _, r) ← choices? fuel (spacedAfter spaced kind.changes) cs
    match r with
    | ')' :: r => return (group kind (ofChoices ws), spaced, r)
    | _ => none

end

/-- How deep the parts of a pattern may stand inside one another. -/
def deepest : Nat := 250

/-- The pattern that a text writes. -/
def ofText? (s : String) : Option Written := do
  match ← choices? (4 * s.length + 8) false s.toList with
  | (ws, _, []) =>
    let w := ofChoices ws
    if w.depth ≤ deepest && w.names.Nodup then some w else none
  | _ => none

end SuiteBench.Written
