import SuiteBench.Shell.Fields
import SuiteBench.Shell.Lexis
import SuiteBench.Shell.Utilities

/-!
# Shell.Builtins — commands that change the script itself

These commands need nothing but the process: they set variables, options and traps, read a line of
input, change the directory or wait for background commands.
-/

namespace SuiteBench.Shell

namespace Process

/-! ### Variables -/

/-- Splits an assignment in an argument. -/
def assignmentOf (s : String) : String × Option String :=
  match Text.splitAtFirst? ['='] s.toList with
  | some (a, b) => (String.ofList a, some (String.ofList b))
  | none => (s, none)

/-- The process with a variable assigned, unless it keeps its value. -/
def assign (name value : String) (p : Process) : Process :=
  if p.fixed.contains name then p.fail (name ++ ": is read only") else p.setVariable name value

/-- Sets the variables that the arguments assign, and does something for each name. -/
def assignAll (f : String → Process → Process) (args : List String) (p : Process) : Process :=
  args.foldl (fun p a =>
    if p.halted.isSome then p
    else match assignmentOf a with
      | (name, value) =>
        if !Lexis.isName name.toList then p.fail (name ++ ": bad variable name")
        else
          let q := match value with
            | some v => p.assign name v
            | none => p
          if q.halted.isSome then q else f name q) (p.withStatus 0)

/-- Variables that programs see. -/
def exportAll (args : List String) (p : Process) : Process :=
  assignAll (fun name p => p.exportVariable name) (args.filter (· != "-p")) p

/-- Variables that keep their values. -/
def fixAll (args : List String) (p : Process) : Process :=
  assignAll (fun name p => { p with fixed := name :: p.fixed }) (args.filter (· != "-p")) p

/-- Variables of the function that runs. -/
def declareLocals (args : List String) (p : Process) : Process :=
  match p.locals with
  | none => p.fail "not in a function"
  | some _ =>
    args.foldl (fun p a =>
      let (name, value) := assignmentOf a
      let known := p.locals.getD []
      let saved := if known.any (·.1 == name) then known else (name, p.value? name) :: known
      let q := { p with locals := some saved }
      match value with
      | some v => q.assign name v
      | none => q) (p.withStatus 0)

/-- Gives the variables of a function back what they were. -/
def restoreLocals (saved : List (String × Option String)) (p : Process) : Process :=
  saved.foldl (fun p (name, value) => match value with
    | some v => p.setVariable name v
    | none => { p with vars := p.vars.filter fun v => v.1 != name }) p

/-- Forgets variables or functions. -/
def forget (args : List String) (p : Process) : Process :=
  let functions := args.contains "-f"
  (args.filter fun a => a != "-f" && a != "-v").foldl (fun p name =>
    if functions then { p with functions := p.functions.filter (·.1 != name) }
    else if p.fixed.contains name then p.fail (name ++ ": is read only")
    else p.unsetVariable name) (p.withStatus 0)

/-! ### Input -/

/-- Cuts a line into at most `n` values; the last one takes what is left.  Characters behind a
backslash are marked and separate nothing. -/
def fieldsOfLine (seps : List Char) : Nat → List MarkedChar → List (List Char)
  | 0, _ => []
  | n + 1, cs =>
    let white : MarkedChar → Bool := fun (c, quoted) => !quoted && seps.contains c && Fields.isWhite c
    let separates : MarkedChar → Bool := fun (c, quoted) => !quoted && seps.contains c
    let cs := cs.dropWhile white
    if n = 0 then
      let trimmed := (cs.reverse.dropWhile white).reverse
      let ends := trimmed.countP separates
      let single := ends = 1 && trimmed.getLast?.any separates
      [((if single then trimmed.dropLast else trimmed).map (·.1))]
    else
      let word := cs.takeWhile fun c => !separates c
      let rest := (cs.drop word.length).dropWhile white
      let rest := match rest with
        | c :: r => if separates c then r else c :: r
        | [] => []
      word.map (·.1) :: fieldsOfLine seps n rest

/-- A line of input with its protected characters marked, and the input behind it. -/
def inputLine (raw : Bool) : Nat → List UInt8 → List (UInt8 × Bool) × Bool × List UInt8
  | 0, bytes => ([], false, bytes)
  | _ + 1, [] => ([], false, [])
  | n + 1, b :: r =>
    if b = 10 then ([], true, r)
    else if b = 92 && !raw then
      match r with
      | [] => ([], false, [])
      | c :: r =>
        let (line, ended, rest) := inputLine raw n r
        (if c = 10 then line else (c, true) :: line, ended, rest)
    else
      let (line, ended, rest) := inputLine raw n r
      ((b, false) :: line, ended, rest)

/-- Reads a line of input into variables. -/
def readLine (args : List String) (p : Process) : Process :=
  let (fs, names) := Utilities.options ['p'] args
  match names.find? fun n => !Lexis.isName n.toList with
  | some n => (p.warn (n ++ ": bad variable name")).withStatus 2
  | none =>
    if names.isEmpty then (p.warn "arg count").withStatus 2
    else
      let (line, ended, rest) := inputLine (fs.has 'r') (p.input.length + 1) p.input
      let marked (bs : List (UInt8 × Bool)) : List MarkedChar :=
        let text := Text.Utf8.lossyChars (bs.map (·.1))
        if text.length = bs.length then text.zip (bs.map (·.2)) else text.map fun c => (c, false)
      let values := fieldsOfLine p.separators names.length (marked line)
      let q := (names.zip (values ++ List.replicate names.length [])).foldl
        (fun q (name, v) => q.assign name (String.ofList v)) { p with input := rest }
      q.withStatus (if ended then 0 else 1)

/-- The next option of the arguments: its letter in one variable, its value in another. -/
def nextOption (args : List String) (p : Process) : Process :=
  match args with
  | spec :: name :: given =>
    let given := if given.isEmpty then p.args else given
    let at_ := ((p.value? "OPTIND").bind Utilities.natOf?).getD 1
    let inside := ((p.value? "OPTOFF").bind Utilities.natOf?).getD 1
    let finish (n : Nat) : Process :=
      ((p.setVariable name "?").setVariable "OPTIND" (Decimal.ofNat n)).withStatus 1
    match given[at_ - 1]? with
    | none => finish at_
    | some a =>
      if a == "--" then finish (at_ + 1)
      else match a.toList, (a.toList.drop inside) with
        | '-' :: _ :: _, c :: more =>
          let silent := spec.toList.head? == some ':'
          let known := c != ':' && spec.toList.contains c
          let valued := (Text.splitAtFirst? [c, ':'] spec.toList).isSome
          let moved (i o : Nat) (p : Process) : Process :=
            (p.setVariable "OPTIND" (Decimal.ofNat i)).setVariable "OPTOFF" (Decimal.ofNat o)
          let onward (p : Process) : Process :=
            if more.isEmpty then moved (at_ + 1) 1 p else moved at_ (inside + 1) p
          if !known then
            let q := if silent then p.setVariable "OPTARG" c.toString
              else (p.say 2 ("Illegal option -" ++ c.toString ++ "\n")).unsetVariable "OPTARG"
            onward (q.setVariable name "?") |>.withStatus 0
          else if !valued then
            (onward ((p.setVariable name c.toString).unsetVariable "OPTARG")).withStatus 0
          else if !more.isEmpty then
            (moved (at_ + 1) 1 ((p.setVariable name c.toString).setVariable "OPTARG"
              (String.ofList more))).withStatus 0
          else match given[at_]? with
            | some v =>
              (moved (at_ + 2) 1 ((p.setVariable name c.toString).setVariable "OPTARG" v)).withStatus 0
            | none =>
              let q := if silent then (p.setVariable name ":").setVariable "OPTARG" c.toString
                else ((p.say 2 ("No arg for -" ++ c.toString ++ " option\n")).setVariable name
                  "?").unsetVariable "OPTARG"
              (moved (at_ + 1) 1 q).withStatus 0
        | _, _ => finish at_
  | _ => (p.warn "Usage: getopts optstring var [arg...]").withStatus 2

/-! ### Options and arguments -/

/-- Sets or clears the option of a letter. -/
def setOption (on : Bool) (c : Char) (o : Options) : Option Options :=
  match c with
  | 'e' => some { o with strict := on }
  | 'u' => some { o with demanding := on }
  | 'x' => some { o with traced := on }
  | 'f' => some { o with literal := on }
  | 'a' => some o
  | 'b' => some o
  | 'C' => some o
  | 'm' => some o
  | 'v' => some o
  | _ => none

/-- The letter of an option by its name. -/
def optionLetter? (name : String) : Option Char :=
  [("errexit", 'e'), ("nounset", 'u'), ("xtrace", 'x'), ("noglob", 'f'), ("allexport", 'a'),
    ("notify", 'b'), ("noclobber", 'C'), ("monitor", 'm'), ("verbose", 'v')].lookup name

/-- Sets options and arguments. -/
def setOptions : Nat → List String → Process → Process
  | 0, _, p => p
  | _ + 1, [], p => p.withStatus 0
  | _ + 1, "--" :: r, p => { p with args := r, status := 0 }
  | n + 1, a :: r, p =>
    match a.toList with
    | ['-'] => if r.isEmpty then p.withStatus 0 else { p with args := r, status := 0 }
    | sign :: os =>
      if sign != '-' && sign != '+' then { p with args := a :: r, status := 0 }
      else
        let on := sign == '-'
        if os == ['o'] then
          match r with
          | name :: r => match (optionLetter? name).bind fun c => setOption on c p.options with
            | some o => setOptions n r { p with options := o }
            | none => p.fail ("Illegal option " ++ a ++ " " ++ name)
          | [] => p.withStatus 0
        else match os.foldl (fun (o : Except Char Options) c => match o with
            | .ok x => match setOption on c x with
              | some y => .ok y
              | none => .error c
            | .error c => .error c) (.ok p.options) with
          | .ok o => setOptions n r { p with options := o }
          | .error c => p.fail ("Illegal option " ++ sign.toString ++ c.toString)
    | [] => { p with args := a :: r, status := 0 }

/-- A number in an argument, or a complaint. -/
def numberArgument (s : String) : Except String Nat :=
  match Arithmetic.numberOf? (Arithmetic.digits 10) s with
  | some n => if 0 ≤ n && n ≤ 2147483647 then .ok n.toNat else .error ("Illegal number: " ++ s)
  | none => .error ("Illegal number: " ++ s)

/-- Drops arguments from the front. -/
def shift (args : List String) (p : Process) : Process :=
  match (args.head?.map numberArgument).getD (.ok 1) with
  | .error why => p.fail why
  | .ok n =>
    if p.args.length < n then p.fail "can't shift that many"
    else { p with args := p.args.drop n, status := 0 }

/-! ### Traps -/

/-- The name of a signal where a trap is shown. -/
def trapTitle (n : Nat) : String :=
  if n = 0 then "EXIT"
  else match signalNames.find? (·.2 == n) with
    | some (name, _) => name
    | none => Decimal.ofNat n

/-- A text in single quotes. -/
def inQuotes (s : String) : String :=
  "'" ++ String.ofList (s.toList.flatMap fun c =>
    if c == '\'' then "'\"'\"'".toList else [c]) ++ "'"

/-- Keeps a command for some signals. -/
def setTraps (args : List String) (p : Process) : Process :=
  let args := if args.head? == some "--" then args.drop 1 else args
  let (command, names) : String × List String := match args with
    | [name] => ("-", [name])
    | c :: names => if (natOf c).isSome then ("-", c :: names) else (c, names)
    | [] => ("-", [])
  if args.isEmpty then
    (p.say 1 (String.join ((p.traps.mergeSort fun a b => numberOf a.1 ≤ numberOf b.1).map fun (n, c) =>
      "trap -- " ++ inQuotes c ++ " " ++ trapTitle (numberOf n) ++ "\n"))).withStatus 0
  else names.foldl (fun p name =>
    match signal? name with
    | none => (p.say 2 ("trap: " ++ name ++ ": bad trap\n")).withStatus 1
    | some n =>
      let key := Decimal.ofNat n
      let others := p.traps.filter fun t => t.1 != key
      { p with traps := if command == "-" then others else (key, command) :: others })
    (p.withStatus 0)
where
  /-- The number of a signal that is kept by its number. -/
  numberOf (s : String) : Nat := (Utilities.natOf? s).getD 0
  /-- A text that is a number. -/
  natOf (s : String) : Option Nat := Utilities.natOf? s

/-! ### Directories -/

/-- A path that is written from the root on. -/
def absolute (l : Location) : String := l.path.text

/-- Changes the directory. -/
def changeDirectory (args : List String) (p : Process) : Process :=
  let args := args.filter fun a => a != "-P" && a != "-L" && a != "--"
  let old := absolute p.cwd
  let back := args.head? == some "-"
  let wanted : Option String := match args with
    | [] => p.value? "HOME"
    | "-" :: _ => p.value? "OLDPWD"
    | a :: _ => some a
  match wanted with
  | none => p.withStatus 0
  | some dir =>
    match p.reach (if dir.isEmpty then "." else dir) with
    | .ok (l, .directory) =>
      let q := ({ p with cwd := l, status := 0 }.setVariable "OLDPWD" old).setVariable "PWD" (absolute l)
      if back then q.say 1 (absolute l ++ "\n") else q
    | _ => (p.warn ("can't cd to " ++ dir)).withStatus 2

/-! ### Background commands -/

/-- The background commands of a process that have not ended. -/
def children (p : Process) : List Job := p.jobs.filter fun j => j.parent == p.id

/-- Waits until a moment for a background command; a signal that comes meanwhile ends the wait. -/
def waitUntil (time : Nat) (p : Process) : Process := if time ≤ p.clock then p else p.sleepUntil time

/-- Waits for background commands. -/
def await (args : List String) (p : Process) : Process :=
  match args with
  | [] =>
    let last := (p.children.map (·.ends)).foldl max p.clock
    let q := p.waitUntil last
    if q.pending.isSome || q.halted.isSome then q
    else { q with status := 0, jobs := q.jobs.filter fun j => j.parent != p.id }
  | ids =>
    ids.foldl (fun p id =>
      if p.pending.isSome || p.halted.isSome then p
      else match Utilities.natOf? id with
        | none => (p.warn ("Illegal number: " ++ id)).withStatus 2
        | some n =>
          match p.children.find? fun j => j.id + harnessId == n with
          | none => p.withStatus 127
          | some j =>
            let q := p.waitUntil j.ends
            if q.pending.isSome || q.halted.isSome then q
            else
              let q := match j.signal.bind signalText? with
                | some text => q.say 2 (text ++ "\n")
                | none => q
              { q with status := j.status, jobs := q.jobs.filter fun k => k.id != j.id }) p

/-- The streams that a process writes to. -/
def openStreams (p : Process) : List OutputStream :=
  p.sinks.filterMap fun (_, s) => match s with
    | .stream x => some x
    | _ => none

/-- When the actions of a process happen, given the moment of the first one. -/
def schedule : Nat → List ToolAction → List (Nat × ToolAction)
  | _, [] => []
  | t, .wait ms :: rest => schedule (t + ms) rest
  | t, a :: rest => (t, a) :: schedule t rest

/-- Starts a background command: what it does before it first waits happens now, the rest in time. -/
def detach (holds : List OutputStream) (p inner : Process) : Process :=
  let fresh := (inner.actions.take (inner.actions.length - p.actions.length)).reverse
  let events := schedule p.clock fresh
  let (now, later) := events.partition fun e => e.1 ≤ p.clock
  let q := now.foldl (fun q e => q.act e.2) p
  let (ends, status, signal) : Nat × Nat × Option Nat := match inner.halted with
    | some .stuck => (p.clock + ages, 0, none)
    | some (.exited n) => (inner.clock, n % 256, none)
    | some (.killed s) => (inner.clock, 128 + s, some s)
    | _ => (inner.clock, inner.status, none)
  let id := inner.births + 1
  let job : Job := { id, parent := p.id, events := later, ends, status, signal, holds }
  { q with
    jobs := q.jobs ++ inner.jobs ++ [job], births := id, lastJob := some id, status := 0 }

/-- Repeats on a process what a part of it has done, for as long as it is given. -/
def replay (limit : Nat) : List ToolAction → Nat → Process → Process
  | [], _, p => p
  | .wait ms :: rest, spent, p =>
    if limit ≤ spent + ms then p.sleep (limit - spent) else replay limit rest (spent + ms) (p.sleep ms)
  | a :: rest, spent, p => replay limit rest spent (p.act a)

/-- The signal and the processes of a kill, or what is wrong with the call. -/
def killRequest (args : List String) : Except String (Nat × List String) :=
  let usage := "Usage: kill [-s sigspec | -signum | -sigspec] [pid | job]... or\nkill -l [exitstatus]"
  let targets (n : Nat) (ids : List String) : Except String (Nat × List String) :=
    let ids := if ids.head? == some "--" then ids.drop 1 else ids
    if ids.isEmpty then .error usage else .ok (n, ids)
  match args with
  | "-s" :: s :: ids => match signal? s with
    | some n => targets n ids
    | none => .error ("invalid signal number or name: " ++ s)
  | "--" :: ids => targets 15 ids
  | a :: ids =>
    match a.toList with
    | '-' :: s =>
      match signal? (String.ofList s) with
      | some n => targets n ids
      | none => .error ("Illegal option -" ++ String.ofList (s.take 1))
    | _ => .ok (15, a :: ids)
  | [] => .error usage

/-- Prints the names of signals. -/
def listSignals (args : List String) (p : Process) : Process :=
  match args with
  | [] => (p.say 1 (String.join (signalNames.map fun (n, _) => n ++ "\n"))).withStatus 0
  | a :: _ => match Utilities.natOf? a with
    | some n => (p.say 1 (trapTitle (n % 128) ++ "\n")).withStatus 0
    | none => (p.warn ("Illegal number: " ++ a)).withStatus 2

end Process

end SuiteBench.Shell
