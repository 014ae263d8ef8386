import SuiteBench.Shell.Lexis

/-!
# Shell.Reader — commands from text

Every function takes the text that is left and gives what it read with the rest, or the fault at which
it stopped.  The first argument is the number of line ends of the whole text, from which lines are
numbered; the second bounds the depth of the recursion and is taken from the length of the text.
-/

namespace SuiteBench.Shell.Reader

open Lexis

/-- Stops at a place in the text. -/
def stop {α : Type} (total : Nat) (cause : FaultCause) (left : List Char) : Except Fault α :=
  .error ⟨cause, lineAt total left⟩

/-- Stops at a mark that may not stand here. -/
def unexpected {α : Type} (total : Nat) (reserved : Bool) (expected : Option Mark)
    (left : List Char) : Except Fault α :=
  let found := markOf reserved left
  stop total (.unexpected found expected) (if found = .lineEnd then left.drop 1 else left)

/-- The text after a reserved word that has to stand next, on this line or a later one. -/
def expectWord (total : Nat) (w : String) (cs : List Char) : Except Fault (List Char) :=
  let cs := skipLines cs
  if markOf true cs = .reserved w then .ok (cs.drop w.length)
  else unexpected total true (some (.reserved w)) cs

/-- The text after an operator that has to stand next, on this line or a later one. -/
def expectOperator (total : Nat) (o : String) (cs : List Char) : Except Fault (List Char) :=
  let cs := skipLines cs
  if markOf true cs = .operator o then .ok (cs.drop o.length)
  else unexpected total true (some (.operator o)) cs

/-- Puts something in front of what was read. -/
def cons {α : Type} (a : α) : Except Fault (List α × List Char) → Except Fault (List α × List Char)
  | .ok (as, r) => .ok (a :: as, r)
  | .error f => .error f

/-- The text of a word that is written plainly, without quotes and substitutions. -/
def plainText? (w : Word) : Option String :=
  let texts : Option (List (List Char)) := w.mapM fun (part : WordPart) => match part with
    | .text cs false => some cs
    | _ => none
  texts.map fun ts => String.ofList ts.flatten

/-- The names that no function may have: they belong to commands that the language itself needs. -/
def reservedCommands : List String :=
  [":", ".", "break", "continue", "eval", "exec", "exit", "export", "readonly", "return", "set",
    "shift", "times", "trap", "unset"]

mutual

/-- A substitution after its dollar sign. -/
def dollar (total : Nat) : Nat → Bool → List Char → Except Fault (WordPart × List Char)
  | 0, _, cs => stop total .openBrace cs
  | n + 1, quoted, cs =>
    match cs with
    | '(' :: '(' :: r => do
      let (e, r) ← formula total n 0 r
      .ok (.arithmetic e quoted, r)
    | '(' :: r => do
      let (c, r) ← commands total n true r
      let r ← expectOperator total ")" r
      .ok (.output c quoted, r)
    | '\x7b' :: '#' :: '\x7d' :: r => .ok (.parameter "#" .plain [] quoted, r)
    | '\x7b' :: '#' :: r =>
      match parameterName? r with
      | some (name, '\x7d' :: r) => .ok (.parameter name .length [] quoted, r)
      | _ => braced total n quoted r
    | '\x7b' :: r => braced total n quoted r
    | c :: r =>
      if c.isDigit || isSpecial c then .ok (.parameter c.toString .plain [] quoted, r)
      else if startsName c then
        let name := cs.takeWhile isNameChar
        .ok (.parameter (String.ofList name) .plain [] quoted, cs.drop name.length)
      else .ok (.text ['$'] quoted, cs)
    | [] => .ok (.text ['$'] quoted, [])

/-- A parameter in braces with its use. -/
def braced (total : Nat) : Nat → Bool → List Char → Except Fault (WordPart × List Char)
  | 0, _, cs => stop total .openBrace cs
  | n + 1, quoted, cs =>
    match parameterName? cs with
    | some (name, '\x7d' :: r) => .ok (.parameter name .plain [] quoted, r)
    | some (name, r) =>
      match parameterUse? r with
      | some (use, r) => do
        let (operand, r) ← operandParts total n quoted r
        .ok (.parameter name use operand quoted, r)
      | none => do
        let (_, r) ← operandParts total n quoted (r.drop 1)
        .ok (.parameter name .unknown [] quoted, r)
    | none => do
      let (_, r) ← operandParts total n quoted cs
      .ok (.parameter "" .unknown [] quoted, r)

/-- Commands between grave accents. -/
def graveSubstitution (total : Nat) : Nat → Bool → List Char → Except Fault (WordPart × List Char)
  | 0, _, cs => stop total .openSubstitution cs
  | n + 1, quoted, cs =>
    match graveText cs with
    | none => stop total .openSubstitution []
    | some (t, r) => do
      let (c, _) ← commands (lineAt total cs - 1 + lineEnds t) n true t
      .ok (.output c quoted, r)

/-- The parts of an arithmetic formula; the count is that of open parentheses. -/
def formula (total : Nat) : Nat → Nat → List Char → Except Fault (List WordPart × List Char)
  | 0, _, cs => stop total .openFormula cs
  | n + 1, depth, cs =>
    match cs with
    | [] => stop total .openFormula []
    | '(' :: r => cons (.text ['('] true) (formula total n (depth + 1) r)
    | ')' :: r =>
      if 0 < depth then cons (.text [')'] true) (formula total n (depth - 1) r)
      else match r with
        | ')' :: r => .ok ([], r)
        | _ => stop total .openFormula []
    | '$' :: r => do
      let (p, r) ← dollar total n true r
      cons p (formula total n depth r)
    | '\\' :: '\n' :: r => formula total n depth r
    | c :: r =>
      if c == grave then do
        let (p, r) ← graveSubstitution total n true r
        cons p (formula total n depth r)
      else cons (.text [c] true) (formula total n depth r)

/-- The operand of a parameter up to its closing brace. -/
def operandParts (total : Nat) : Nat → Bool → List Char → Except Fault (List WordPart × List Char)
  | 0, _, cs => stop total .openBrace cs
  | n + 1, quoted, cs =>
    match cs with
    | [] => stop total (if quoted then .openQuote else .openBrace) []
    | '\x7d' :: r => .ok ([], r)
    | '\\' :: '\n' :: r => operandParts total n quoted r
    | '\\' :: c :: r =>
      if quoted && !("$\\\"\x7d".toList.contains c) && c != grave
      then cons (.text ['\\', c] true) (operandParts total n quoted r)
      else cons (.text [c] true) (operandParts total n quoted r)
    | '\'' :: r =>
      if quoted then cons (.text ['\''] true) (operandParts total n quoted r)
      else
        let t := r.takeWhile (· != '\'')
        match r.drop t.length with
        | _ :: r => cons (.text t true) (operandParts total n quoted r)
        | [] => stop total .openQuote []
    | '"' :: r => do
      let (ps, r) ← quotedParts total n true r
      let (rest, r) ← operandParts total n quoted r
      .ok (.text [] true :: ps ++ rest, r)
    | '$' :: r => do
      let (p, r) ← dollar total n quoted r
      cons p (operandParts total n quoted r)
    | c :: r =>
      if c == grave then do
        let (p, r) ← graveSubstitution total n quoted r
        cons p (operandParts total n quoted r)
      else cons (.text [c] quoted) (operandParts total n quoted r)

/-- The parts in double quotes, or of a document that no quote closes. -/
def quotedParts (total : Nat) : Nat → Bool → List Char → Except Fault (List WordPart × List Char)
  | 0, _, cs => stop total .openQuote cs
  | n + 1, closed, cs =>
    match cs with
    | [] => if closed then stop total .openQuote [] else .ok ([], [])
    | '"' :: r =>
      if closed then .ok ([], r) else cons (.text ['"'] true) (quotedParts total n closed r)
    | '\\' :: '\n' :: r => quotedParts total n closed r
    | '\\' :: c :: r =>
      if c == '$' || c == '\\' || c == grave || (closed && c == '"')
      then cons (.text [c] true) (quotedParts total n closed r)
      else cons (.text ['\\', c] true) (quotedParts total n closed r)
    | '$' :: r => do
      let (p, r) ← dollar total n true r
      cons p (quotedParts total n closed r)
    | c :: r =>
      if c == grave then do
        let (p, r) ← graveSubstitution total n true r
        cons p (quotedParts total n closed r)
      else if isPlainInQuotes c then
        let t := cs.takeWhile isPlainInQuotes
        cons (.text t true) (quotedParts total n closed (cs.drop t.length))
      else cons (.text [c] true) (quotedParts total n closed r)

/-- The parts of a word. -/
def wordParts (total : Nat) : Nat → List Char → Except Fault (Word × List Char)
  | 0, cs => stop total .openQuote cs
  | n + 1, cs =>
    match cs with
    | [] => .ok ([], [])
    | '\\' :: '\n' :: r => wordParts total n r
    | '\\' :: c :: r => cons (.text [c] true) (wordParts total n r)
    | '\'' :: r =>
      let t := r.takeWhile (· != '\'')
      match r.drop t.length with
      | _ :: r => cons (.text t true) (wordParts total n r)
      | [] => stop total .openQuote []
    | '"' :: r => do
      let (ps, r) ← quotedParts total n true r
      let (rest, r) ← wordParts total n r
      .ok (.text [] true :: ps ++ rest, r)
    | '$' :: r => do
      let (p, r) ← dollar total n false r
      cons p (wordParts total n r)
    | c :: r =>
      if endsWord c then .ok ([], cs)
      else if c == grave then do
        let (p, r) ← graveSubstitution total n false r
        cons p (wordParts total n r)
      else if isPlain c then
        let t := cs.takeWhile isPlain
        cons (.text t false) (wordParts total n (cs.drop t.length))
      else cons (.text [c] false) (wordParts total n r)

/-- The operand of a redirection. -/
def redirection (total : Nat) : Nat → Nat → RedirectionMark → List Char → Except Fault (Redirection × List Char)
  | 0, _, _, cs => stop total .openQuote cs
  | n + 1, fd, mark, cs => do
    let cs := skipBlanks cs
    if markOf false cs ≠ .word then unexpected total false none cs
    else
    let (w, r) ← wordParts total n cs
    match mark with
    | .file how => .ok (.open fd how w, r)
    | .copy => .ok (.copy fd w, r)
    | .document strip =>
      let plain := w.all fun p => match p with
        | .text _ quoted => !quoted
        | _ => false
      let stop := w.flatMap fun p => match p with
        | .text cs _ => cs
        | _ => []
      let (body, left) := takeDocument stop strip r
      if plain then do
        let first := lineAt total (r.dropWhile (· != '\n'))
        let (ps, _) ← quotedParts (first + lineEnds body) n false body
        .ok (.here fd ps, left)
      else .ok (.here fd [.text body true], left)

/-- The redirections that stand next. -/
def redirections (total : Nat) : Nat → List Char → Except Fault (List Redirection × List Char)
  | 0, cs => stop total .openQuote cs
  | n + 1, cs =>
    match redirectionStart? (skipBlanks cs) with
    | none => .ok ([], cs)
    | some (fd, mark, r) => do
      let (x, r) ← redirection total n fd mark r
      cons x (redirections total n r)

/-- The elements of a simple command; its line is not known before the first of them is read. -/
def simple (total : Nat) : Nat → Option Nat → List (String × Word) → List Word →
    List Redirection → List Char → Except Fault (Command × List Char)
  | 0, _, _, _, _, cs => stop total .openQuote cs
  | n + 1, line, assignments, words, redirs, cs =>
    let cs := skipBlanks cs
    let finished : Except Fault (Command × List Char) :=
      .ok (.simple (line.getD 0) assignments.reverse words.reverse redirs.reverse, cs)
    match redirectionStart? cs with
    | some (fd, mark, r) => do
      let (x, r) ← redirection total n fd mark r
      simple total n (some (line.getD (lineAt total r))) assignments words (x :: redirs) r
    | none =>
      match markOf false cs, words, assignments, redirs with
      | .operator "(", [w], [], [] => do
        let r ← expectOperator total ")" (cs.drop 1)
        match plainText? w with
        | some name =>
          if isName name.toList && !reservedCommands.contains name then do
            let (body, r) ← command total n (skipLines r)
            .ok (.define name body, r)
          else stop total .badFunctionName r
        | none => stop total .badFunctionName r
      | .word, _, _, _ =>
        match (if words.isEmpty then assignment? cs else none) with
        | some (name, r) => do
          let (w, r) ← wordParts total n r
          simple total n (some (line.getD (lineAt total r))) ((name, w) :: assignments) words redirs r
        | none => do
          let (w, r) ← wordParts total n cs
          simple total n (some (line.getD (lineAt total r))) assignments (w :: words) redirs r
      | _, _, _, _ => finished

/-- Words up to the end of a line or a semicolon, which is taken as well. -/
def wordList (total : Nat) : Nat → List Char → Except Fault (List Word × List Char)
  | 0, cs => stop total .openQuote cs
  | n + 1, cs =>
    let cs := skipBlanks cs
    match markOf false cs with
    | .word => do
      let (w, r) ← wordParts total n cs
      cons w (wordList total n r)
    | .lineEnd => .ok ([], cs.drop 1)
    | .operator ";" => .ok ([], cs.drop 1)
    | _ => unexpected total false none cs

/-- The patterns of a case, between bars. -/
def patterns (total : Nat) : Nat → List Char → Except Fault (List Word × List Char)
  | 0, cs => stop total .openQuote cs
  | n + 1, cs =>
    let cs := skipBlanks cs
    if markOf false cs ≠ .word then unexpected total false (some (.operator ")")) cs
    else do
    let (w, r) ← wordParts total n cs
    let r := skipBlanks r
    match markOf false r with
    | .operator "|" => cons w (patterns total n (r.drop 1))
    | .operator ")" => .ok ([w], r.drop 1)
    | _ => unexpected total false (some (.operator ")")) r

/-- The cases of a selection up to its closing word. -/
def cases (total : Nat) : Nat → List Char → Except Fault ((List (List Word × Command)) × List Char)
  | 0, cs => stop total .openQuote cs
  | n + 1, cs =>
    let cs := skipLines cs
    match markOf true cs with
    | .reserved "esac" => .ok ([], cs.drop 4)
    | m => do
      let (ps, r) ← patterns total n (if m = .operator "(" then cs.drop 1 else cs)
      let (c, r) ← commands total n true r
      let r := skipLines r
      match markOf true r with
      | .operator ";;" => cons (ps, c) (cases total n (r.drop 2))
      | .reserved "esac" => .ok ([(ps, c)], r.drop 4)
      | _ => unexpected total true (some (.operator ";;")) r

/-- The branches of a condition after its opening word. -/
def branches (total : Nat) : Nat → List Char → Except Fault ((List (Command × Command) × Command) × List Char)
  | 0, cs => stop total .openQuote cs
  | n + 1, cs => do
    let (condition, r) ← commands total n false cs
    let r ← expectWord total "then" r
    let (body, r) ← commands total n false r
    let r := skipLines r
    match markOf true r with
    | .reserved "elif" => do
      let ((more, otherwise), r) ← branches total n (r.drop 4)
      .ok (((condition, body) :: more, otherwise), r)
    | .reserved "else" => do
      let (otherwise, r) ← commands total n false (r.drop 4)
      let r ← expectWord total "fi" r
      .ok (([(condition, body)], otherwise), r)
    | _ => do
      let r ← expectWord total "fi" r
      .ok (([(condition, body)], .nothing), r)

/-- A loop after its opening word. -/
def loopOf (total : Nat) : Nat → Bool → List Char → Except Fault (Command × List Char)
  | 0, _, cs => stop total .openQuote cs
  | n + 1, untilTrue, cs => do
    let (condition, r) ← commands total n false cs
    let r ← expectWord total "do" r
    let (body, r) ← commands total n false r
    let r ← expectWord total "done" r
    .ok (.loop untilTrue condition body, r)

/-- A loop over words after its opening word. -/
def loopOverWords (total : Nat) : Nat → Nat → List Char → Except Fault (Command × List Char)
  | 0, _, cs => stop total .openQuote cs
  | n + 1, line, cs =>
    let cs := skipBlanks cs
    let name := leadingWord cs
    if !isName name.toList then stop total .badLoopVariable cs
    else do
    let r := cs.drop name.length
    let (words, r) ← (if markOf true (skipLines r) = .reserved "in" then do
        let (ws, r) ← wordList total n ((skipLines r).drop 2)
        .ok (some ws, r)
      else
        let r := skipLines r
        .ok (none, if markOf true r = .operator ";" then r.drop 1 else r) :
      Except Fault (Option (List Word) × List Char))
    let r ← expectWord total "do" r
    let (body, r) ← commands total n false r
    let r ← expectWord total "done" r
    .ok (.forEach line name words body, r)

/-- A selection after its opening word. -/
def selection (total : Nat) : Nat → Nat → List Char → Except Fault (Command × List Char)
  | 0, _, cs => stop total .openQuote cs
  | n + 1, line, cs =>
    let cs := skipBlanks cs
    if markOf false cs ≠ .word then unexpected total false (some .word) cs
    else do
    let (w, r) ← wordParts total n cs
    let r ← expectWord total "in" r
    let (cs, r) ← cases total n r
    .ok (.select line w cs, r)

/-- One command with its redirections. -/
def command (total : Nat) : Nat → List Char → Except Fault (Command × List Char)
  | 0, cs => stop total .openQuote cs
  | n + 1, cs =>
    let line := lineAt total cs
    let redirected (c : Command) (r : List Char) : Except Fault (Command × List Char) := do
      let (rs, r) ← redirections total n r
      .ok (if rs.isEmpty then c else .redirected line c rs, r)
    match markOf true cs with
    | .reserved "if" => do
      let ((bs, otherwise), r) ← branches total n (cs.drop 2)
      redirected (.choose bs otherwise) r
    | .reserved "while" => do
      let (c, r) ← loopOf total n false (cs.drop 5)
      redirected c r
    | .reserved "until" => do
      let (c, r) ← loopOf total n true (cs.drop 5)
      redirected c r
    | .reserved "for" => do
      let (c, r) ← loopOverWords total n line (cs.drop 3)
      redirected c r
    | .reserved "case" => do
      let (c, r) ← selection total n line (cs.drop 4)
      redirected c r
    | .reserved "\x7b" => do
      let (c, r) ← commands total n false (cs.drop 1)
      let r ← expectWord total "\x7d" r
      redirected c r
    | .operator "(" => do
      let (c, r) ← commands total n false (cs.drop 1)
      let r ← expectOperator total ")" r
      redirected (.subshell c) r
    | .word => simple total n none [] [] [] cs
    | .redirection => simple total n none [] [] [] cs
    | _ => unexpected total true none cs

/-- The commands of a pipeline. -/
def pipes (total : Nat) : Nat → List Char → Except Fault (List Command × List Char)
  | 0, cs => stop total .openQuote cs
  | n + 1, cs => do
    let (c, r) ← command total n cs
    let r := skipBlanks r
    if markOf false r = .operator "|" then cons c (pipes total n (skipLines (r.drop 1)))
    else .ok ([c], r)

/-- A pipeline, which an exclamation mark may negate. -/
def pipeline (total : Nat) : Nat → List Char → Except Fault (Command × List Char)
  | 0, cs => stop total .openQuote cs
  | n + 1, cs => do
    let negated := markOf true cs = .reserved "!"
    let (xs, r) ← pipes total n (if negated then skipBlanks (cs.drop 1) else cs)
    let c : Command := match xs with
      | [c] => c
      | _ => .pipeline xs
    .ok (if negated then .negated c else c, r)

/-- Pipelines joined from the left by conjunctions. -/
def joined (total : Nat) : Nat → Command → List Char → Except Fault (Command × List Char)
  | 0, _, cs => stop total .openQuote cs
  | n + 1, left, cs =>
    let cs := skipBlanks cs
    match markOf false cs with
    | .operator "&&" => do
      let (c, r) ← pipeline total n (skipLines (cs.drop 2))
      joined total n (.both left c) r
    | .operator "||" => do
      let (c, r) ← pipeline total n (skipLines (cs.drop 2))
      joined total n (.either left c) r
    | _ => .ok (left, cs)

/-- Commands inside another one, up to a mark that ends their list; unless it may be empty, the first
mark ends nothing. -/
def commandList (total : Nat) : Nat → Bool → List Char → Except Fault (List Command × List Char)
  | 0, _, cs => stop total .openQuote cs
  | n + 1, mayEnd, cs =>
    let cs := skipLines cs
    let m := markOf true cs
    if m = .textEnd || (mayEnd && endsList m) then .ok ([], cs)
    else do
      let (c, r) ← pipeline total n cs
      let (c, r) ← joined total n c r
      match markOf false r with
      | .operator ";" => cons c (commandList total n true (r.drop 1))
      | .operator "&" => cons (.background c) (commandList total n true (r.drop 1))
      | .lineEnd => cons c (commandList total n true (r.drop 1))
      | _ => .ok ([c], r)

/-- Commands inside another one, as one command. -/
def commands (total : Nat) : Nat → Bool → List Char → Except Fault (Command × List Char)
  | 0, _, cs => stop total .openQuote cs
  | n + 1, mayEnd, cs => do
    let (xs, r) ← commandList total n mayEnd cs
    .ok (.sequence xs, r)

end

/-- The commands of one line of a script, which ends where no command is open. -/
def line (total fuel : Nat) : Nat → List Char → Except Fault (List Command × List Char)
  | 0, cs => .ok ([], cs)
  | n + 1, cs =>
    let cs := skipBlanks cs
    match markOf true cs with
    | .textEnd => .ok ([], [])
    | .lineEnd => .ok ([], cs.drop 1)
    | _ => do
      let (c, r) ← pipeline total fuel cs
      let (c, r) ← joined total fuel c r
      match markOf false r with
      | .operator ";" => cons c (line total fuel n (r.drop 1))
      | .operator "&" => cons (.background c) (line total fuel n (r.drop 1))
      | .lineEnd => .ok ([c], r.drop 1)
      | .textEnd => .ok ([c], [])
      | _ => unexpected total false none r

/-- The lines of a script up to its first fault. -/
def linesFrom (total fuel : Nat) : Nat → List Char → List Command × Option Fault
  | 0, _ => ([], none)
  | n + 1, cs =>
    if cs.isEmpty then ([], none)
    else match line total fuel (cs.length + 1) cs with
      | .ok (xs, r) =>
        let (more, fault) := linesFrom total fuel n r
        (.sequence xs :: more, fault)
      | .error f => ([], some f)

/-- The commands of a script, a line each, and the fault that ends it. -/
def script (text : List Char) : List Command × Option Fault :=
  let cs := text.filter (· != counter)
  linesFrom (lineEnds cs) (4 * cs.length + 64) (cs.length + 1) cs

end SuiteBench.Shell.Reader
