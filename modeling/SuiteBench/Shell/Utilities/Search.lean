import SuiteBench.Shell.Regular
import SuiteBench.Shell.Utilities.Operands

/-!
# Shell.Utilities.Search — programs that look for patterns and edit what they find
-/

namespace SuiteBench.Shell.Utilities

open Process

/-- The characters of bytes, one each. -/
def charsOf (bytes : List UInt8) : List Char := bytes.map fun b => Char.ofNat b.toNat

/-- The bytes of such characters. -/
def bytesOf (cs : List Char) : List UInt8 := cs.map fun c => UInt8.ofNat c.toNat

/-- The characters of the bytes of a text. -/
def byteChars (s : String) : List Char := charsOf s.toUTF8.toList

/-! ### Searching -/

/-- The expression of a search, by its options. -/
def expressionOf? (fs : Flags) (pattern : String) : Option Regular.Piece :=
  let alternatives := Text.splitOnP (· == '\n') (byteChars pattern)
  let one (cs : List Char) : Option Regular.Piece :=
    if fs.has 'F' then some (.group 0 [cs.map fun c => .one (· == c)])
    else Regular.ofText? (fs.has 'E') cs
  (alternatives.mapM one).map fun ps =>
    let p : Regular.Piece := match ps with
      | [p] => p
      | _ => .group 0 (ps.map ([·]))
    let p : Regular.Piece := if fs.has 'x' then .group 0 [[.lineStart, p, .lineEnd]]
      else if fs.has 'w' then .group 0 [[.wordEdge true false, p, .wordEdge false true]] else p
    if fs.has 'i' then Regular.foldCase (2 * pattern.length + 16) p else p

/-- Searches files for lines with a pattern. -/
def search (args : List String) (p : Process) : Process :=
  let (fs, operands) := options ['e', 'f', 'm', 'A', 'B', 'C'] args
  let (pattern?, files) : Option String × List String :=
    match fs.filter (·.1 == 'e') with
    | [] => (operands.head?, operands.drop 1)
    | es => (some (Text.join "\n" (es.map (·.2))), operands)
  match pattern? with
  | none => (p.say 2 "Usage: grep [OPTION]... PATTERNS [FILE]...\nTry 'grep --help' for more information.\n").withStatus 2
  | some pattern =>
    match expressionOf? fs pattern with
    | none => (p.complain "grep" "Invalid regular expression").withStatus 2
    | some e =>
      let titled := (1 < files.length || fs.has 'H' || fs.has 'r') && !fs.has 'h'
      let most := (fs.value? 'm').bind natOf?
      let (p, found, failed) := (if files.isEmpty then ["-"] else files).foldl
        (fun (p, found, failed) a =>
          let content : Except FileError (List UInt8) := if a == "-" then .ok p.input else p.contentOf a
          let p := if a == "-" then { p with input := [] } else p
          match content with
          | .error .isADirectory =>
            (p.say 2 ("grep: " ++ a ++ ": Is a directory\n"), found, failed)
          | .error why =>
            ((if fs.has 's' then p else p.say 2 ("grep: " ++ a ++ ": " ++ reason why ++ "\n")), found, true)
          | .ok bytes =>
            let title := if titled then (if a == "-" then "(standard input)" else a) ++ ":" else ""
            let hits := ((bareLines bytes).zipIdx 1).filter fun (l, _) =>
              Regular.occurs e (charsOf l) != fs.has 'v'
            let hits := match most with
              | some m => hits.take m
              | none => hits
            let found := found || !hits.isEmpty
            if fs.has 'q' then (p, found, failed)
            else if fs.has 'l' then
              ((if hits.isEmpty then p else p.say 1 (a ++ "\n")), found, failed)
            else if fs.has 'c' then
              (p.say 1 (title ++ Decimal.ofNat hits.length ++ "\n"), found, failed)
            else
              let rows := hits.flatMap fun (l, i) =>
                let front := (title ++ if fs.has 'n' then Decimal.ofNat i ++ ":" else "").toUTF8.toList
                if fs.has 'o' then
                  ((Regular.findAll e (l.length + 2) ⟨[], charsOf l, []⟩).filter fun (a, t) =>
                    a < t.offset).map fun (a, t) => front ++ ((l.drop a).take (t.offset - a))
                else [front ++ l]
              (p.write 1 (joinLines rows), found, failed))
        (p, false, false)
      p.withStatus (if failed && !(found && fs.has 'q') then 2 else if found then 0 else 1)

/-! ### Editing -/

/-- Where an edit applies. -/
inductive Address where
  | line (n : Nat)
  | last
  | holds (e : Regular.Piece)

/-- What an edit does. -/
inductive EditAction where
  | substitute (e : Regular.Piece) (replacement : List Char) (every printed : Bool) (nth : Nat)
  | delete
  | print
  | quit
  | number
  | exchange (a b : List Char)

/-- An edit with the lines to which it applies. -/
structure Edit where
  addresses : List Address
  negated : Bool
  action : EditAction

/-- The text up to a mark that is not protected by a backslash. -/
def delimited (mark : Char) : List Char → Option (List Char × List Char)
  | [] => none
  | '\\' :: c :: r =>
    (delimited mark r).map fun (t, r) => (if c == mark then c :: t else '\\' :: c :: t, r)
  | c :: r => if c == mark then some ([], r) else (delimited mark r).map fun (t, r) => (c :: t, r)

/-- An address at the front of a script. -/
def address? (extended : Bool) (cs : List Char) : Option (Address × List Char) :=
  match cs with
  | '$' :: r => some (.last, r)
  | '/' :: r => do
    let (t, r) ← delimited '/' r
    let e ← Regular.ofText? extended t
    some (.holds e, r)
  | c :: _ =>
    if c.isDigit then let (n, r) := Arithmetic.digits 10 cs; some (.line n, r) else none
  | [] => none

/-- The commands of an editing script. -/
def editsOf (extended : Bool) : Nat → List Char → Option (List Edit)
  | 0, _ => none
  | n + 1, cs =>
    match cs.dropWhile fun c => c == ' ' || c == ';' || c == '\n' || c == '\t' with
    | [] => some []
    | cs => do
      let (addresses, r) := match address? extended cs with
        | none => ([], cs)
        | some (a, ',' :: r) => match address? extended r with
          | some (b, r) => ([a, b], r)
          | none => ([a], ',' :: r)
        | some (a, r) => ([a], r)
      let r := r.dropWhile (· == ' ')
      let negated := r.head? == some '!'
      let edit (action : EditAction) (r : List Char) : Option (List Edit) :=
        (editsOf extended n r).map fun more => ⟨addresses, negated, action⟩ :: more
      match (if negated then r.drop 1 else r) with
      | 'd' :: r => edit .delete r
      | 'p' :: r => edit .print r
      | 'q' :: r => edit .quit r
      | '=' :: r => edit .number r
      | 's' :: mark :: r => do
        let (pattern, r) ← delimited mark r
        let (replacement, r) ← delimited mark r
        let flags := r.takeWhile fun c => c.isAlphanum
        let e ← Regular.ofText? extended pattern
        let folds := flags.contains 'i' || flags.contains 'I'
        let e := if folds then Regular.foldCase (2 * pattern.length + 16) e else e
        let nth := (Arithmetic.digits 10 (flags.filter Char.isDigit)).1
        edit (.substitute e replacement (flags.contains 'g') (flags.contains 'p') (max nth 1))
          (r.drop flags.length)
      | 'y' :: mark :: r => do
        let (a, r) ← delimited mark r
        let (b, r) ← delimited mark r
        edit (.exchange a b) r
      | _ => none

/-- The text that stands in for a match. -/
def replacementText (t : Regular.Place) : List Char → List Char
  | '\\' :: c :: r =>
    (if c.isDigit then t.groupText (c.toNat - 48)
      else if c == 'n' then ['\n'] else if c == 't' then ['\t'] else [c]) ++ replacementText t r
  | '&' :: r => t.groupText 0 ++ replacementText t r
  | c :: r => c :: replacementText t r
  | [] => []

/-- A line with its matches replaced from one of them on, and whether there was one. -/
def substituted (e : Regular.Piece) (replacement : List Char) (every : Bool) (nth : Nat)
    (l : List Char) : List Char × Bool :=
  let hits := (Regular.findAll e (l.length + 2) ⟨[], l, []⟩).drop (nth - 1)
  let hits := if every then hits else hits.take 1
  let (done, at_) := hits.foldl (fun (done, at_) (a, t) =>
    (done ++ (l.drop at_).take (a - at_) ++ replacementText t replacement, t.offset)) ([], 0)
  (done ++ l.drop at_, !hits.isEmpty)

/-- Whether an address is that of a line. -/
def Address.fits (a : Address) (l : List Char) (i : Nat) (isLast : Bool) : Bool :=
  match a with
  | .line n => i == n
  | .last => isLast
  | .holds e => Regular.occurs e l

/-- Edits files line by line. -/
def edit (args : List String) (p : Process) : Process :=
  let (fs, operands) := options ['e', 'f'] args
  let scripts := (fs.filter (·.1 == 'e')).map (·.2)
  let (script, files) := if scripts.isEmpty then (operands.head?.getD "", operands.drop 1)
    else (Text.join "\n" scripts, operands)
  let extended := fs.has 'E' || fs.has 'r'
  match editsOf extended (script.utf8ByteSize + 2) (byteChars script) with
  | none => p.complain "sed" "-e expression #1, char 0: unknown command"
  | some edits =>
    let perform (bytes : List UInt8) : List UInt8 :=
      let lines := byteLines bytes
      let total := lines.length
      let (out, _, _) := (lines.zipIdx 1).foldl
        (fun (out, open_, stopped) (line, i) =>
          if stopped then (out, open_, stopped)
          else
            let ended := line.getLast? == some 10
            let written (cs : List Char) : List UInt8 := bytesOf cs ++ (if ended then [10] else [])
            let isLast := i == total
            let (l, out, open_, gone, stopped) := (edits.zipIdx).foldl
              (fun (l, out, open_, gone, stopped) (e, k) =>
                if gone || stopped then (l, out, open_, gone, stopped)
                else
                  let (hit, open_) : Bool × List Nat := match e.addresses with
                    | [] => (true, open_)
                    | [a] => (a.fits l i isLast, open_)
                    | a :: b :: _ =>
                      if open_.contains k then
                        let ends : Bool := match b with
                          | .line n => n ≤ i
                          | b => b.fits l i isLast
                        let within : Bool := match b with
                          | .line n => i ≤ n
                          | _ => true
                        (within, if ends then open_.filter (· != k) else open_)
                      else if a.fits l i isLast then
                        let single : Bool := match b with
                          | .line n => n ≤ i
                          | .last => isLast
                          | _ => false
                        (true, if single then open_ else k :: open_)
                      else (false, open_)
                  if hit == e.negated then (l, out, open_, gone, stopped)
                  else match e.action with
                    | .delete => (l, out, open_, true, stopped)
                    | .print => (l, out ++ written l, open_, gone, stopped)
                    | .quit => (l, out, open_, gone, true)
                    | .number => (l, out ++ (Decimal.ofNat i ++ "\n").toUTF8.toList, open_, gone, stopped)
                    | .substitute x r every printed nth =>
                      let (l, changed) := substituted x r every nth l
                      (l, if changed && printed then out ++ written l else out, open_, gone, stopped)
                    | .exchange a b =>
                      (l.map fun c => ((a.zip b).lookup c).getD c, out, open_, gone, stopped))
              (charsOf (line.filter (· != 10)), out, open_, false, false)
            (if gone || fs.has 'n' then out else out ++ written l, open_, stopped))
        ([], ([] : List Nat), false)
      out
    if fs.has 'i' then
      each files (fun a p => match p.contentOf a, p.target a with
        | .ok bytes, .ok l =>
          let executable := match p.tree.find? l with
            | some (.file _ x) => x
            | _ => false
          p.act (.put l (.file ⟨(perform bytes).toArray⟩ executable))
        | _, _ => (p.complain "sed" ("can't read " ++ a ++ ": No such file or directory")).withStatus 2) p
    else
      let missing := files.filter fun a => a != "-" && (p.contentOf a).toOption.isNone
      let q := missing.foldl (fun p a =>
        p.complain "sed" ("can't read " ++ a ++ ": No such file or directory")) p
      let present := files.filter fun a => !missing.contains a
      let (bytes, q) := if present.isEmpty && !missing.isEmpty then ([], q) else gather "sed" present q
      (q.write 1 (perform bytes)).withStatus (if missing.isEmpty then 0 else 2)

/-! ### Expressions -/

/-- Operators of expressions by strength, the weakest first. -/
def expressionLevels : List (List String) :=
  [["|"], ["&"], ["<", "<=", "=", "==", "!=", ">=", ">"], ["+", "-"], ["*", "/", "%"], [":"]]

/-- Whether a value counts as nothing. -/
def isNull (s : String) : Bool := s.isEmpty || Arithmetic.numberOf? (Arithmetic.digits 10) s == some 0

/-- The value of an operator between two values. -/
def combine (op a b : String) : Except String String :=
  let x := Arithmetic.numberOf? (Arithmetic.digits 10) a
  let y := Arithmetic.numberOf? (Arithmetic.digits 10) b
  let said (t : Bool) : Except String String := .ok (if t then "1" else "0")
  let order : Ordering := match x, y with
    | some x, some y => compare x y
    | _, _ => compare a b
  match op with
  | "|" => .ok (if isNull a then (if isNull b then "0" else b) else a)
  | "&" => .ok (if isNull a || isNull b then "0" else a)
  | "<" => said (order == .lt)
  | "<=" => said (order != .gt)
  | "=" => said (order == .eq)
  | "==" => said (order == .eq)
  | "!=" => said (order != .eq)
  | ">=" => said (order != .lt)
  | ">" => said (order == .gt)
  | ":" =>
    match Regular.ofText? false (byteChars b) with
    | none => .error "Invalid regular expression"
    | some e =>
      let grouped := (Text.splitAtFirst? ['\\', '('] b.toList).isSome
      match Regular.run (Regular.depth (byteChars a)) [e] ⟨[], byteChars a, []⟩ with
      | some t => .ok (if grouped then String.ofList (t.groupText 1) else Decimal.ofNat t.offset)
      | none => .ok (if grouped then "" else "0")
  | _ =>
    match x, y with
    | some x, some y =>
      match op with
      | "+" => .ok (toString (x + y))
      | "-" => .ok (toString (x - y))
      | "*" => .ok (toString (x * y))
      | "/" => if y = 0 then .error "division by zero" else .ok (toString (Int.tdiv x y))
      | _ => if y = 0 then .error "division by zero" else .ok (toString (Int.tmod x y))
    | _, _ => .error "non-integer argument"

mutual

/-- The value of an expression over the operators of some levels. -/
def expression : Nat → List (List String) → List String → Except String (String × List String)
  | 0, _, _ => .error "syntax error"
  | n + 1, [], args =>
    match args with
    | "(" :: r => do
      let (v, r) ← expression n expressionLevels r
      match r with
      | ")" :: r => return (v, r)
      | _ => .error "syntax error: expecting ')'"
    | "length" :: s :: r => .ok (Decimal.ofNat s.length, r)
    | "substr" :: s :: a :: b :: r =>
      .ok (String.ofList ((s.toList.drop ((natOf? a).getD 1 - 1)).take ((natOf? b).getD 0)), r)
    | "index" :: s :: cs :: r =>
      .ok (Decimal.ofNat (((s.toList.findIdx? fun c => cs.toList.contains c).map (· + 1)).getD 0), r)
    | s :: r => .ok (s, r)
    | [] => .error "syntax error: missing argument"
  | n + 1, ops :: weaker, args => do
    let (a, r) ← expression n weaker args
    expressionTail n ops weaker a r

/-- More operands behind a value, from the left. -/
def expressionTail : Nat → List String → List (List String) → String → List String →
    Except String (String × List String)
  | 0, _, _, _, _ => .error "syntax error"
  | n + 1, ops, weaker, a, args =>
    match args with
    | op :: r =>
      if ops.contains op then do
        let (b, r) ← expression n weaker r
        let v ← combine op a b
        expressionTail n ops weaker v r
      else .ok (a, args)
    | [] => .ok (a, [])

end

/-- Evaluates an expression over its arguments. -/
def evaluateExpression (args : List String) (p : Process) : Process :=
  if args.isEmpty then (missingOperand "expr" p).withStatus 2
  else match expression (16 * args.length + 32) expressionLevels args with
    | .ok (v, []) => (p.say 1 (v ++ "\n")).withStatus (if isNull v then 1 else 0)
    | .ok (_, a :: _) =>
      (p.complain "expr" ("syntax error: unexpected argument '" ++ a ++ "'")).withStatus 2
    | .error why => (p.complain "expr" why).withStatus 2

end SuiteBench.Shell.Utilities
