import SuiteBench.Shell.Builtins
import SuiteBench.Shell.Reader
import SuiteBench.Shell.Utilities.Callers

/-!
# Shell.Evaluator — running the commands of a script

Running a command takes a process to a process.  The first argument bounds how deep commands may
nest; loops have a bound of their own.  A script that exceeds either is taken to go on for ever.
-/

namespace SuiteBench.Shell

/-- Whether a location is that of a program of the system. -/
def systemProgram? (l : Location) : Option String :=
  match l with
  | ["bin", n] => some n
  | ["usr", "bin", n] => some n
  | _ => none

/-- Programs that run scripts. -/
def interpreters : List String := ["sh", "dash", "bash"]

/-- What the first line of a script names: a program and one argument for it. -/
def interpreter? (content : List UInt8) : Option (String × Option String) :=
  match content with
  | 35 :: 33 :: r =>
    let isGap (c : Char) : Bool := c == ' ' || c == '\t'
    let line := ((Text.Utf8.lossyChars (r.takeWhile (· != 10))).dropWhile isGap)
    let program := line.takeWhile fun c => !isGap c
    let rest := ((line.drop program.length).dropWhile isGap).reverse.dropWhile isGap
    some (String.ofList program, if rest.isEmpty then none else some (String.ofList rest.reverse))
  | _ => none

/-- Whether the start of a file shows that it is no text. -/
def isBinary (content : List UInt8) : Bool :=
  let start := content.take 256
  (start.takeWhile (· != 10)).contains 0 || start.take 4 == [127, 69, 76, 70]

/-- How often a loop is followed. -/
def mostRounds : Nat := 20000

/-- Repeats a step until it says to stop; tells whether it never did.  Whoever asked for the output of an
endless loop has had enough of it some time. -/
def repeatRounds (step : Process → Process × Bool) : Nat → Process → Process × Bool
  | 0, p =>
    if p.sinks.lookup 1 == some .capture && !p.captured.isEmpty then (p.halt (.killed 13), false)
    else (p.hang, true)
  | n + 1, p =>
    match step p with
    | (p, true) => repeatRounds step n p
    | (p, false) => (p, false)

/-- The process after the body of a loop, and whether the loop goes on. -/
def afterRound (p : Process) : Process × Bool :=
  match p.halted with
  | some (.left n) => ({ p with halted := if n ≤ 1 then none else some (.left (n - 1)) }, false)
  | some (.resumed n) =>
    if n ≤ 1 then ({ p with halted := none }, true)
    else ({ p with halted := some (.resumed (n - 1)) }, false)
  | some _ => (p, false)
  | none => (p, true)

/-- Runs the body of the first branch whose condition holds. -/
def firstBranch (check run : Command → Process → Process) (otherwise : Command) :
    List (Command × Command) → Process → Process
  | [], p => run otherwise (p.withStatus 0)
  | (condition, body) :: more, p =>
    let q := check condition p
    if q.halted.isSome then q
    else if q.status = 0 then run body (q.withStatus 0) else firstBranch check run otherwise more q

/-- Runs the body of the first case one of whose patterns covers the value. -/
def firstCase (covers : Word → Process → Bool × Process) (run : Command → Process → Process) :
    List (List Word × Command) → Process → Process
  | [], p => p.withStatus 0
  | (patterns, body) :: more, p =>
    let (hit, p) := patterns.foldl (fun (hit, p) w =>
      if hit then (hit, p) else covers w p) (false, p)
    if hit then run body (p.withStatus 0) else firstCase covers run more p

/-- Runs something on behalf of a command that is named in complaints. -/
def within (name : String) (f : Process → Process) (p : Process) : Process :=
  { f { p with context := some name } with context := p.context }

/-- The words that the grammar reserves, as a question about names shows them. -/
def describe (p : Process) (path : Option String) (name : String) : Option String :=
  if Lexis.reservedWords.contains name then some "is a shell keyword"
  else if (p.functions.lookup name).isSome then some "is a shell function"
  else if Reader.reservedCommands.contains name then some "is a special shell builtin"
  else if (Utilities.builtin? name).isSome ||
      ["cd", "read", "kill", "wait", "type", "command", "hash", "umask", "ulimit", "getopts", "alias",
        "unalias", "jobs", "local"].contains name then some "is a shell builtin"
  else path.map fun x => "is " ++ x

/-- Options of a script interpreter up to its script: letters, whether the script is an argument, and
the rest. -/
def interpreterOptions : Nat → Options → List String → Except Char (Options × Bool × List String)
  | 0, o, args => .ok (o, false, args)
  | _ + 1, o, [] => .ok (o, false, [])
  | n + 1, o, a :: r =>
    match a.toList with
    | ['-'] => .ok (o, false, r)
    | ['-', '-'] => .ok (o, false, r)
    | '-' :: cs =>
      match cs.foldl (fun (acc : Except Char (Options × Bool × Bool)) c => match acc with
          | .error c => .error c
          | .ok (o, isText, fromInput) =>
            if c == 'c' then .ok (o, true, fromInput)
            else if c == 's' then .ok (o, isText, true)
            else if c == 'i' || c == 'l' then .ok (o, isText, fromInput)
            else match Process.setOption true c o with
              | some o => .ok (o, isText, fromInput)
              | none => .error c) (.ok (o, false, false)) with
      | .error c => .error c
      | .ok (o, isText, fromInput) =>
        if isText then .ok (o, true, r)
        else if fromInput then .ok (o, false, "-" :: r)
        else interpreterOptions n o r
    | _ => .ok (o, false, a :: r)

mutual

/-- Expands the parts of a word. -/
def expandParts : Nat → List WordPart → Fields → Process → Fields × Process
  | 0, _, f, p => (f, p.halt .stuck)
  | n + 1, parts, f, p =>
    parts.foldl (fun (f, p) part =>
      if p.halted.isSome then (f, p) else expandPart n part f p) (f, p)

/-- Expands a word; a tilde at its front stands for the home directory. -/
def expandWord : Nat → Word → Fields → Process → Fields × Process
  | 0, _, f, p => (f, p.halt .stuck)
  | n + 1, w, f, p =>
    match w with
    | .text cs false :: rest =>
      match (if cs == ['~'] && !rest.isEmpty then none else p.withHome cs) with
      | some (home, cs) => expandParts n (.text cs false :: rest) (f.add home true) p
      | none => expandParts n w f p
    | _ => expandParts n w f p

/-- Expands one part of a word. -/
def expandPart : Nat → WordPart → Fields → Process → Fields × Process
  | 0, _, f, p => (f, p.halt .stuck)
  | _ + 1, .text cs quoted, f, p => (f.add cs quoted, p)
  | n + 1, .output c quoted, f, p =>
    let (bytes, p) := captureOutput n c p
    let cs := ((Text.Utf8.lossyChars (bytes.filter (· != 0))).reverse.dropWhile (· == '\n')).reverse
    (f.addValue (String.ofList cs) quoted, p)
  | n + 1, .arithmetic e quoted, f, p =>
    let (g, p) := expandParts n e (.empty none) p
    if p.halted.isSome then (f, p) else
    match Arithmetic.evaluate p.vars g.text.toList with
    | .ok (v, vs) => (f.addValue (Arithmetic.valueText v) quoted, { p with vars := vs })
    | .error why => (f, p.fail (why.message g.text))
  | n + 1, .parameter name use operand quoted, f, p =>
    let value := p.parameter? name
    let many := name == "@" || name == "*"
    let missing (colon : Bool) : Bool := value.isNone || (colon && value == some "")
    let plain (p : Process) : Fields × Process :=
      if value.isNone && p.options.demanding && !many then
        (f, p.fail (name ++ ": parameter not set"))
      else if name == "@" || (name == "*" && !quoted) then (f.addEach quoted p.args, p)
      else (f.addValue (value.getD "") quoted, p)
    match use with
    | .plain => plain p
    | .unknown => (f, p.fail "Bad substitution")
    | .length =>
      if value.isNone && p.options.demanding && !many then
        (f, p.fail (name ++ ": parameter not set"))
      else (f.addValue (Decimal.ofNat (value.getD "").utf8ByteSize) quoted, p)
    | .fallback colon =>
      if missing colon then expandParts n operand f p else plain p
    | .assign colon =>
      if missing colon then
        let (g, p) := expandParts n operand (.empty none) p
        (f.addValue g.text quoted, p.assign name g.text)
      else plain p
    | .demand colon =>
      if missing colon then
        let (g, p) := expandParts n operand (.empty none) p
        let why := if operand.isEmpty
          then "parameter not set" ++ (if colon then " or null" else "") else g.text
        (f, if p.halted.isSome then p else p.fail (name ++ ": " ++ why))
      else plain p
    | .alternative colon =>
      if missing colon then (f, p) else expandParts n operand f p
    | .cutFront longest =>
      let (g, p) := expandParts n operand (.empty none) p
      (f.addValue (String.ofList
        (Process.cutFront g.pattern longest (value.getD "").toList)) quoted, p)
    | .cutBack longest =>
      let (g, p) := expandParts n operand (.empty none) p
      (f.addValue (String.ofList
        (Process.cutBack g.pattern longest (value.getD "").toList)) quoted, p)

/-- Expands words to fields, patterns to the names they cover. -/
def expandWords : Nat → List Word → Process → List String × Process
  | 0, _, p => ([], p.halt .stuck)
  | n + 1, ws, p =>
    ws.foldl (fun (done, p) w =>
      if p.halted.isSome then (done, p)
      else
        let (f, p) := expandWord n w (.empty (some p.separators)) p
        (done ++ f.all.flatMap (fun x =>
          if p.options.literal then [String.ofList (x.map (·.1))]
          else Wildcard.expand p.tree p.cwd x), p)) ([], p)

/-- Expands a word to one text. -/
def expandText : Nat → Word → Process → String × Process
  | 0, _, p => ("", p.halt .stuck)
  | n + 1, w, p =>
    let (f, p) := expandWord n w (.empty none) p
    (f.text, p)

/-- The output of a command that runs on its own. -/
def captureOutput : Nat → Command → Process → List UInt8 × Process
  | 0, _, p => ([], p.halt .stuck)
  | n + 1, c, p =>
    let inner := finish n (run n c (p.fork.setSink 1 (some .capture)))
    let q := p.resume inner
    (inner.captured.reverse, { q with captured := p.captured, answer := q.status, status := p.status })

/-- Applies redirections in order; tells whether all of them could be. -/
def redirect : Nat → List Redirection → Process → Process × Bool
  | 0, _, p => (p.halt .stuck, false)
  | n + 1, rs, p =>
    rs.foldl (fun (p, good) r =>
      if !good then (p, good)
      else match r with
        | .open fd how w =>
          let (path, p) := expandText n w p
          if p.halted.isSome then (p, false) else
          match how with
          | .read =>
            match p.contentOf path with
            | .ok bytes => (if fd = 0 then { p with input := bytes } else p, true)
            | .error .isADirectory => (if fd = 0 then { p with input := [] } else p, true)
            | .error .permissionDenied =>
              ((p.warn ("cannot open " ++ path ++ ": Permission denied")).withStatus 2, false)
            | .error _ => ((p.warn ("cannot open " ++ path ++ ": No such file")).withStatus 2, false)
          | _ => match p.openForWriting fd (how == .append) path with
            | .ok p => (p, true)
            | .error e =>
              let why := match e with
                | .notFound => "Directory nonexistent"
                | e => Process.reason e
              ((p.warn ("cannot create " ++ path ++ ": " ++ why)).withStatus 2, false)
        | .copy fd w =>
          let (source, p) := expandText n w p
          if p.halted.isSome then (p, false)
          else if source == "-" then (p.setSink fd none, true)
          else match source.toList with
            | [c] =>
              if !c.isDigit then (p.fail "Syntax error: Bad fd number", false)
              else
                let k := c.toNat - 48
                if k = 0 || fd = 0 then (p, true)
                else match p.sinks.lookup k with
                  | some s => (p.setSink fd (some s), true)
                  | none =>
                    ((p.warn (source ++ ": Bad file descriptor")).withStatus 2, false)
            | _ => (p.fail "Syntax error: Bad fd number", false)
        | .here fd w =>
          let (f, p) := expandParts n w (.empty none) p
          (if fd = 0 then { p with input := f.text.toUTF8.toList } else p, !p.halted.isSome)) (p, true)

/-- Runs something under redirections and puts the descriptors back; a failing redirection is passed
on to the last argument. -/
def underRedirections : Nat → List Redirection → (Process → Process) → (Process → Process) →
    Process → Process
  | 0, _, _, _, p => p.halt .stuck
  | n + 1, rs, f, onFailure, p =>
    if rs.isEmpty then f p
    else
      let fed := rs.any fun r => match r with
        | .open 0 .read _ => true
        | .here .. => true
        | _ => false
      match redirect n rs p with
      | (q, true) =>
        let q := f q
        { q with sinks := p.sinks, input := if fed then p.input else q.input }
      | (q, false) => onFailure { q with sinks := p.sinks, input := p.input }

/-- Runs the lines of a text in turn; a text that goes wrong ends the script. -/
def runText : Nat → String → Process → Process
  | 0, _, p => p.halt .stuck
  | n + 1, text, p =>
    let (lines, fault) := Reader.script text.toList
    let q := lines.foldl (fun p c => run n c p) p
    match fault with
    | some f =>
      if q.halted.isSome then q
      else { q with line := f.line }.fail ("Syntax error: " ++ f.cause.message)
    | none => q

/-- Runs the command that is kept for a signal that has come. -/
def settle : Nat → Process → Process
  | 0, p => p.halt .stuck
  | n + 1, p =>
    match p.pending with
    | none => p
    | some s =>
      if p.halted.isSome then p
      else match p.traps.lookup (Decimal.ofNat s) with
        | some text => { runText n text { p with pending := none } with status := p.status }
        | none => { p with pending := none }

/-- Runs the command kept for the end of a script. -/
def finish : Nat → Process → Process
  | 0, p => p.halt .stuck
  | n + 1, p =>
    let code := match p.halted with
      | some (.exited c) => some c
      | some .returned => some p.status
      | none => some p.status
      | _ => none
    match code, p.traps.lookup "0" with
    | some c, some text =>
      if text.isEmpty then p
      else
        let q := runText n text
          { p with halted := none, traps := p.traps.filter (·.1 != "0"), status := c }
        if q.halted.isNone then q.halt (.exited c) else q
    | _, _ => p

/-- Runs a text as a script of its own. -/
def runScript : Nat → String → String → List String → Options → Process → Process
  | 0, _, _, _, _, p => p.halt .stuck
  | n + 1, text, name, args, options, p =>
    let base := if p.replaced then { p with captured := [], replaced := false } else p.fork
    let above := if p.replaced then (p.value? "PPID").getD "" else Process.jobName p.script
    let vars := Arithmetic.set (Arithmetic.set (Arithmetic.set p.environment "PPID" above)
      "PWD" (Process.absolute p.cwd)) "OPTIND" "1"
    let vars := if (vars.lookup "PATH").isSome then vars
      else Arithmetic.set vars "PATH" "/usr/local/sbin:/usr/local/bin:/usr/sbin:/usr/bin:/sbin:/bin"
    let inner := finish n (runText n text { base with
      script := base.id, name, args, vars, fixed := [], locals := none, functions := []
      status := 0, answer := 0, options, tested := false, loops := 0, line := 0, context := none
      lastJob := none })
    { p.resume inner with captured := inner.captured ++ p.captured }

/-- Runs a program that stands at a path. -/
def runPath : Nat → String → List String → Process → Process
  | 0, _, _, p => p.halt .stuck
  | n + 1, path, args, p =>
    match p.reach path with
    | .ok (l, .file content true) =>
      match systemProgram? l with
      | some name => runProgram n name args p
      | none => match interpreter? content.toList with
        | some (program, argument) =>
          match p.reach program with
          | .ok (_, .file _ true) => runPath n program (argument.toList ++ path :: args) p
          | .ok _ => (p.warn (path ++ ": Permission denied")).withStatus 126
          | .error _ => (p.warn (path ++ ": not found")).withStatus 127
        | none =>
          if isBinary content.toList then (p.warn (path ++ ": Exec format error")).withStatus 126
          else runScript n (Text.Utf8.lossy content) path args .none p
    | .ok _ => (p.warn (path ++ ": Permission denied")).withStatus 126
    | .error _ => (p.warn (path ++ ": not found")).withStatus 127

/-- Runs a program by its name or path for another program, which complains if there is none. -/
def runFor : Nat → String → String → List String → Process → Process
  | 0, _, _, _, p => p.halt .stuck
  | n + 1, complaint, name, args, p =>
    let path := if name.toList.contains '/' then some name
      else (Programs.find? p.tree p.cwd (p.value? "PATH") name).map (·.text)
    match path with
    | none => (p.say 2 (complaint ++ "No such file or directory\n")).withStatus 127
    | some x => match p.entry? x with
      | some (.file _ true) => runPath n x args p
      | some _ => (p.say 2 (complaint ++ "Permission denied\n")).withStatus 126
      | none => (p.say 2 (complaint ++ "No such file or directory\n")).withStatus 127

/-- Runs a program of the system. -/
def runProgram : Nat → String → List String → Process → Process
  | 0, _, _, p => p.halt .stuck
  | n + 1, name, args, p =>
    if interpreters.contains name then
      match interpreterOptions (args.length + 1) .none args with
      | .error c => (p.say 2 (name ++ ": 0: Illegal option -" ++ c.toString ++ "\n")).withStatus 2
      | .ok (_, true, []) => (p.say 2 (name ++ ": 0: -c requires an argument\n")).withStatus 2
      | .ok (o, true, text :: r) => runScript n text (r.head?.getD name) r.tail o p
      | .ok (o, false, []) =>
        runScript n (String.ofList (Text.Utf8.lossyChars p.input)) name [] o { p with input := [] }
      | .ok (o, false, "-" :: r) =>
        runScript n (String.ofList (Text.Utf8.lossyChars p.input)) name r o { p with input := [] }
      | .ok (o, false, path :: r) =>
        match p.contentOf path with
        | .ok bytes => runScript n (String.ofList (Text.Utf8.lossyChars bytes)) path r o p
        | .error _ =>
          (p.say 2 (name ++ ": 0: cannot open " ++ path ++ ": No such file\n")).withStatus 2
    else match Utilities.caller? name with
      | some f => f (runFor n) args p
      | none => match Utilities.program? name with
        | some f => f args p
        | none => (p.warn (name ++ ": not found")).withStatus 127

/-- Sends a signal to the script, to a background command or to the harness. -/
def sendSignal : Nat → Nat → String → Process → Process
  | 0, _, _, p => p.halt .stuck
  | n + 1, signal, target, p =>
    let digits := match target.toList with
      | '-' :: ds => ds
      | ds => ds
    match Utilities.natOf? (String.ofList digits) with
    | none =>
      match target.toList with
      | '%' :: _ => match p.lastJob.bind fun id => p.jobs.find? fun j => j.id == id with
        | some j => p.endJob signal j
        | none => (p.warn ("No such job: " ++ target)).withStatus 2
      | _ => (p.warn ("Illegal number: " ++ String.ofList digits)).withStatus 2
    | some id =>
      let group := target.toList.head? == some '-' || id = 0
      let p := if group && signal ≠ 0 then p.jobs.foldl (fun p j => p.endJob signal j) p else p
      if id = 0 || id = p.script + Process.harnessId then
        if signal = 0 then p
        else if p.id = p.script then p.receive signal
        else p.halt (.slain signal)
      else match p.jobs.find? fun j => j.id + Process.harnessId == id with
        | some j => if signal = 0 then p else p.endJob signal j
        | none =>
          if id = Process.harnessId then
            match signal with
            | 2 => p.act (.raise .interrupt)
            | 15 => p.act (.raise .terminate)
            | _ => p
          else
            let up := (Utilities.natOf? ((p.value? "PPID").getD "")).getD 0
            if id = up then p
            else (settle n (p.warn "No such process\n")).withStatus 1

/-- Calls a command by its name. -/
def call : Nat → String → List String → Process → Process
  | 0, _, _, p => p.halt .stuck
  | n + 1, name, args, p =>
    match p.functions.lookup name with
    | some body =>
      let q := run n body { p with args, locals := some [], loops := 0 }
      let r := Process.restoreLocals (q.locals.getD []) q
      { r with args := p.args, locals := p.locals, loops := p.loops, halted := match q.halted with
        | some .returned => none
        | h => h }
    | none =>
      let counted (f : Nat → Process → Process) (fallback : Nat) : Process :=
        match args with
        | a :: _ => within name (fun p => match Process.numberArgument a with
          | .ok k => f k p
          | .error why => p.fail why) p
        | [] => f fallback p
      let looping (f : Nat → Halt) : Process :=
        counted (fun k p =>
          if k = 0 then p.fail "Illegal number: 0"
          else if p.loops = 0 then p.withStatus 0
          else (p.withStatus 0).halt (f (min k p.loops))) 1
      let path? (name : String) : Option String :=
        if name.toList.contains '/' then
          if Programs.isExecutable p.tree p.cwd ⟨name⟩ then some name else none
        else (Programs.find? p.tree p.cwd (p.value? "PATH") name).map (·.text)
      match name with
      | "exit" => counted (fun k p => p.halt (.exited (k % 256))) p.status
      | "return" => counted (fun k p => (p.withStatus k).halt .returned) p.status
      | "break" => looping .left
      | "continue" => looping .resumed
      | "shift" => within name (Process.shift args) p
      | "set" => within name (Process.setOptions (args.length + 1) args) p
      | "export" => within name (Process.exportAll args) p
      | "readonly" => within name (Process.fixAll args) p
      | "local" => within name (Process.declareLocals args) p
      | "unset" => within name (Process.forget args) p
      | "eval" => within name (runText n (Text.join " " args)) (p.withStatus 0)
      | "." => match args with
        | [] => p.withStatus 0
        | a :: _ =>
          let path := if a.toList.contains '/' then some a
            else ((Programs.directories ((p.value? "PATH").getD "")).map fun d =>
              (Programs.candidate d a).text).find? fun x => (p.contentOf x).toOption.isSome
          match path with
          | none => within name (fun p => p.fail (a ++ ": not found")) p
          | some x => match p.contentOf x with
            | .ok bytes =>
              let q := within x (runText n (String.ofList (Text.Utf8.lossyChars bytes))) (p.withStatus 0)
              { q with halted := match q.halted with
                | some .returned => none
                | h => h }
            | .error _ => within name (fun p => p.fail ("cannot open " ++ x ++ ": No such file")) p
      | "exec" => match args with
        | [] => p.withStatus 0
        | c :: r =>
          match path? c with
          | some x =>
            let q := { within name (runPath n x r) p.giveWay with replaced := false }
            if q.halted.isSome then q else q.halt (.exited q.status)
          | none =>
            let q := within name (runPath n c r) p
            if c.toList.contains '/' then q.halt (.exited q.status)
            else within name (fun p => (p.warn (c ++ ": not found")).halt (.exited 127)) p
      | "command" => match args with
        | "-v" :: c :: _ => match describe p (path? c) c with
          | some _ =>
            (p.say 1 ((if (describe p none c).isSome then c else (path? c).getD c) ++ "\n")).withStatus 0
          | none => p.withStatus 127
        | "-V" :: c :: _ => match describe p (path? c) c with
          | some text => (p.say 1 (c ++ " " ++ text ++ "\n")).withStatus 0
          | none => (p.say 1 (c ++ ": not found\n")).withStatus 127
        | "--" :: c :: r => { call n c r { p with functions := [] } with functions := p.functions }
        | c :: r => { call n c r { p with functions := [] } with functions := p.functions }
        | [] => p.withStatus 0
      | "type" => args.foldl (fun p c => match describe p (path? c) c with
          | some text => p.say 1 (c ++ " " ++ text ++ "\n")
          | none => (p.say 1 (c ++ ": not found\n")).withStatus 127) (p.withStatus 0)
      | "hash" => args.foldl (fun p c =>
          if c == "-r" || (path? c).isSome || (Utilities.builtin? c).isSome then p
          else (within name (fun p => p.warn (c ++ ": not found")) p).withStatus 1) (p.withStatus 0)
      | "cd" => within name (Process.changeDirectory args) p
      | "read" => within name (Process.readLine args) p
      | "getopts" => within name (Process.nextOption args) p
      | "trap" => Process.setTraps args p
      | "wait" => within name (Process.await args) p
      | "umask" => if args.isEmpty then (p.say 1 "0022\n").withStatus 0 else p.withStatus 0
      | "ulimit" => (if args.length < 2 then p.say 1 "unlimited\n" else p).withStatus 0
      | "times" => (p.say 1 "0m0.000000s 0m0.000000s\n0m0.000000s 0m0.000000s\n").withStatus 0
      | "alias" => p.withStatus 0
      | "unalias" => p.withStatus 0
      | "jobs" => p.withStatus 0
      | "fg" => p.withStatus 2
      | "bg" => p.withStatus 2
      | "kill" =>
        within name (fun p =>
          if args.head? == some "-l" then Process.listSignals (args.drop 1) p
          else match Process.killRequest args with
            | .ok (s, ids) => ids.foldl (fun p id =>
                if p.halted.isSome then p else sendSignal n s id p) (p.withStatus 0)
            | .error why => (p.warn why).withStatus 2) p
      | _ =>
        match Utilities.builtin? name with
        | some f => within name (f args) p
        | none =>
          if name.toList.contains '/' then runPath n name args p
          else match path? name with
            | some x => runPath n x args p
            | none => (p.warn (name ++ ": not found")).withStatus 127

/-- Runs a command. -/
def run : Nat → Command → Process → Process
  | 0, _, p => p.halt .stuck
  | n + 1, c, p =>
    if p.halted.isSome then p else
    let strictly (q : Process) : Process :=
      if q.options.strict && !q.tested && q.status != 0 && q.halted.isNone
      then q.halt (.exited q.status) else q
    let guarded (c : Command) (p : Process) : Process :=
      { run n c { p with tested := true } with tested := p.tested }
    let failed (q : Process) : Process := if q.halted.isSome then q else strictly q
    match c with
    | .simple line assignments words redirections =>
      let p := { p with line, answer := 0 }
      let (fields, p) := expandWords n words p
      if p.halted.isSome then p else
      let special := fields.head?.any fun c => Reader.reservedCommands.contains c
      let assign (q : Process) : Process :=
        assignments.foldl (fun q (name, w) =>
          if q.halted.isSome then q
          else
            let (value, q) := expandText n w q
            if q.halted.isSome then q else q.assign name value) q
      let traced (q : Process) : Process :=
        if q.options.traced && !(fields.isEmpty && assignments.isEmpty) then
          let shown := assignments.map fun (name, _) => name ++ "=" ++ (q.value? name).getD ""
          { { q with sinks := p.sinks }.say 2 ("+ " ++ Text.join " " (shown ++ fields) ++ "\n") with
            sinks := q.sinks }
        else q
      match fields with
      | [] =>
        let q := underRedirections n redirections (fun q =>
          let q := traced (assign q)
          if q.halted.isSome then q else q.withStatus q.answer) failed p
        if q.halted.isSome then q else settle n (strictly q)
      | "exec" :: [] =>
        match redirect n redirections (assign p) with
        | (q, true) => q.withStatus 0
        | (q, false) => if q.halted.isSome then q else q.halt (.exited 2)
      | name :: args =>
        let names := assignments.map (·.1)
        let act (q : Process) : Process :=
          let q := traced (assign q)
          if q.halted.isSome then q
          else if assignments.isEmpty || special then call n name args q
          else call n name args (names.foldl Process.exportVariable q)
        let onFailure (q : Process) : Process :=
          if q.halted.isSome then q else if special then q.halt (.exited 2) else q
        let q := underRedirections n redirections act onFailure p
        let q := if assignments.isEmpty || special then q else
          { q with
            exported := q.exported.filter fun name => !names.contains name || p.exported.contains name
            vars := names.foldl (fun vs name =>
              match p.vars.lookup name with
              | some old => Arithmetic.set vs name old
              | none => vs.filter fun v => v.1 != name) q.vars }
        let q := settle n q
        strictly q
    | .redirected line c rs =>
      settle n (underRedirections n rs (run n c) failed { p with line })
    | .pipeline cs =>
      let stage (acc : Process × List UInt8) (c : Command) : Process × List UInt8 :=
        let q := acc.1
        let asked := p.stop.isSome && q.stop.isNone
        let clear := { q with halted := none, pending := none }
        let inner := finish n (run n c { clear.fork.setSink 1 (some .capture) with input := acc.2 })
        (if q.halted.isSome then q.overtake inner
          else if asked then (q.overtake inner).say 2 "Terminated\n"
          else q.resume inner, inner.captured.reverse)
      let ends (q : Process) (bytes : List UInt8) (c : Command) : Process :=
        let asked := p.stop.isSome && q.stop.isNone
        let clear := { q with halted := none, pending := none }
        let inner := finish n (run n c { clear.fork with input := bytes })
        let r := if q.halted.isSome then q.overtake inner
          else if asked then ((q.overtake inner).say 2 "Terminated\n").withStatus 143
          else q.resume inner
        { r with captured := inner.captured ++ p.captured }
      let (q, bytes) := cs.dropLast.foldl (fun acc c =>
        let (q, bytes) := stage acc c
        ({ q with captured := p.captured, input := p.input }, bytes)) (p, p.input)
      match cs.getLast? with
      | some c => settle n (strictly { ends q bytes c with input := p.input })
      | none => q
    | .negated c =>
      let q := guarded c p
      if q.halted.isSome then q else q.withStatus (if q.status = 0 then 1 else 0)
    | .both a b =>
      let q := guarded a p
      if q.halted.isNone && q.status = 0 then run n b q else q
    | .either a b =>
      let q := guarded a p
      if q.halted.isSome || q.status = 0 then q else run n b q
    | .sequence cs => cs.foldl (fun p c => run n c p) p
    | .background c =>
      let rs : List Redirection := match c with
        | .simple _ _ _ rs => rs
        | .redirected _ _ rs => rs
        | _ => []
      let holds := (redirect n rs { p with actions := [] }).1.openStreams
      p.detach holds (finish n (run n c { p.fork with input := [], jobs := [], stop := none }))
    | .subshell c =>
      let inner := finish n (run n c p.fork)
      settle n (strictly { p.resume inner with captured := inner.captured ++ p.captured })
    | .choose branches otherwise =>
      firstBranch guarded (run n) otherwise branches p
    | .loop untilTrue condition body =>
      let (q, endless) := repeatRounds (fun p =>
        let q := guarded condition p
        if q.halted.isSome then afterRound q
        else if (q.status == 0) != untilTrue then afterRound (run n body (q.withStatus 0))
        else (q.withStatus 0, false)) mostRounds { p with loops := p.loops + 1, status := 0 }
      let q := settle n { q with loops := p.loops }
      if endless && q.halted.isNone then q.halt .stuck else q
    | .forEach line name words body =>
      let p := { p with line }
      let (fields, p) := match words with
        | some ws => expandWords n ws p
        | none => (p.args, p)
      if p.halted.isSome then p else
      let (q, _) := fields.foldl (fun (p, goesOn) v =>
        if goesOn then
          let q := p.assign name v
          if q.halted.isSome then (q, false) else afterRound (run n body q)
        else (p, false))
        ({ p with loops := p.loops + 1, status := 0 }, true)
      { q with loops := p.loops }
    | .select line word cases =>
      let (value, p) := expandText n word { p with line }
      if p.halted.isSome then p else
      firstCase (fun w p =>
        let (f, p) := expandWord n w (.empty none) p
        (Wildcard.fits f.pattern value.toList, p)) (run n) cases p
    | .define name body =>
      { p with functions := (name, body) :: p.functions.filter (fun f => f.1 != name), status := 0 }

end

end SuiteBench.Shell
