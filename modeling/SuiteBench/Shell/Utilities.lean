import SuiteBench.Shell.Format
import SuiteBench.Shell.Utilities.Files
import SuiteBench.Shell.Utilities.Search
import SuiteBench.Shell.Utilities.Tests
import SuiteBench.Shell.Utilities.Texts

/-!
# Shell.Utilities — the small programs that scripts call

Each utility is a function on the process that calls it; a name that is not among them is no utility.
-/

namespace SuiteBench.Shell.Utilities

open Process

/-! ### Time -/

/-- The milliseconds of a decimal number of seconds. -/
def milliseconds? (cs : List Char) : Option Nat :=
  let whole := cs.takeWhile Char.isDigit
  let rest := cs.drop whole.length
  let value (ds : List Char) : Nat := (Arithmetic.digits 10 ds).1
  let (part, rest) := match rest with
    | '.' :: r =>
      let ds := r.takeWhile Char.isDigit
      (value ((ds ++ ['0', '0', '0']).take 3), r.drop ds.length)
    | r => (0, r)
  let unit := match rest with
    | [] => some 1
    | ['s'] => some 1
    | ['m'] => some 60
    | ['h'] => some 3600
    | ['d'] => some 86400
    | _ => none
  if whole.isEmpty && cs.head? != some '.' then none
  else unit.map fun u => (value whole * 1000 + part) * u

/-- Waits as long as its arguments say together. -/
def sleep (args : List String) (p : Process) : Process :=
  let time (a : String) : Option Nat :=
    if a == "infinity" || a == "inf" then some ages else milliseconds? a.toList
  let wait (ms : Nat) : Process :=
    let q := p.sleep ms
    if q.pending.isSome && p.pending.isNone then q.say 2 "Terminated\n"
    else if q.halted.isSome then q else q.withStatus 0
  match args with
  | [] => missingOperand "sleep" p
  | _ => match args.mapM time with
    | some ts => wait (ts.foldl (· + ·) 0)
    | none =>
      let bad := (args.find? fun a => (time a).isNone).getD ""
      match bad.toList with
      | '-' :: c :: _ => p.misused "sleep" ("invalid option -- '" ++ c.toString ++ "'")
      | _ => p.misused "sleep" ("invalid time interval '" ++ bad ++ "'")

/-! ### Output -/

/-- Whether anything can be written to the output. -/
def canWrite (p : Process) : Bool := (p.sinks.lookup 1).isSome

/-- Writes its arguments with escapes. -/
def echo (args : List String) (p : Process) : Process :=
  if canWrite p then (p.write 1 (Format.echo args)).withStatus 0
  else (p.warn "echo: I/O error").withStatus 1

/-- Writes a formatted text. -/
def printFormatted (args : List String) (p : Process) : Process :=
  match (match args with
    | "--" :: r => r
    | r => r) with
  | [] => (p.warn "usage: printf format [arg ...]").withStatus 2
  | f :: rest =>
    if f.toList.head? == some '-' && args.head? != some "--" && f != "-" then
      (p.warn ("Illegal option -" ++ String.ofList ((f.toList.drop 1).take 1))).withStatus 2
    else if !canWrite p then (p.warn "printf: I/O error").withStatus 1
    else
      let printed := Format.print f rest
      let q := printed.complaints.foldl Process.warn p
      match printed.failure with
      | some why => ((q.warn why).write 1 printed.bytes).withStatus 2
      | none => (q.write 1 printed.bytes).withStatus (if printed.complaints.isEmpty then 0 else 1)

/-- How often an endless repetition is written before nothing more is followed. -/
def repetitions : Nat := 10000

/-- Repeats a line for ever; into a pipe only as often as anyone reads. -/
def repeatLine (args : List String) (p : Process) : Process :=
  let line := (if args.isEmpty then "y" else Text.join " " args) ++ "\n"
  let q := p.say 1 (String.join (List.replicate repetitions line))
  match p.sinks.lookup 1 with
  | some .capture => q.withStatus 0
  | _ => q.hang

/-- The variables that programs see, one on a line, or the values of some. -/
def printVariables (args : List String) (p : Process) : Process :=
  match args with
  | [] =>
    (p.say 1 (String.join (p.environment.map fun (k, v) => k ++ "=" ++ v ++ "\n"))).withStatus 0
  | names => names.foldl (fun p name =>
      match p.environment.lookup name with
      | some v => p.say 1 (v ++ "\n")
      | none => p.withStatus 1) (p.withStatus 0)

/-! ### The table -/

/-- The utilities that the script itself brings along. -/
def builtin? (name : String) : Option Utility :=
  match name with
  | ":" => some fun _ p => p.withStatus 0
  | "true" => some fun _ p => p.withStatus 0
  | "false" => some fun _ p => p.withStatus 1
  | "echo" => some echo
  | "printf" => some printFormatted
  | "pwd" => some fun _ p => (p.say 1 (p.cwd.path.text ++ "\n")).withStatus 0
  | "test" => some test
  | "[" => some testInBrackets
  | _ => none

/-- The utilities that are programs of their own. -/
def program? (name : String) : Option Utility :=
  match name with
  | "true" => builtin? name
  | "false" => builtin? name
  | "echo" => builtin? name
  | "printf" => builtin? name
  | "pwd" => builtin? name
  | "test" => builtin? name
  | "[" => builtin? name
  | "sleep" => some sleep
  | "basename" => some printBaseNames
  | "dirname" => some printDirNames
  | "cat" => some cat
  | "touch" => some touch
  | "mkdir" => some makeDirectories
  | "rm" => some removeAll
  | "rmdir" => some removeDirectories
  | "cp" => some (transferAll "cp" false)
  | "mv" => some (transferAll "mv" true)
  | "ls" => some list
  | "find" => some find
  | "chmod" => some changeMode
  | "head" => some head
  | "tail" => some tail
  | "wc" => some count
  | "cut" => some cutColumns
  | "tr" => some translate
  | "sort" => some sort
  | "uniq" => some unique
  | "tac" => some backwards
  | "rev" => some reversed
  | "nl" => some numberLines
  | "grep" => some search
  | "egrep" => some fun args => search ("-E" :: args)
  | "fgrep" => some fun args => search ("-F" :: args)
  | "sed" => some edit
  | "expr" => some evaluateExpression
  | "seq" => some sequence
  | "tee" => some split
  | "yes" => some repeatLine
  | "printenv" => some printVariables
  | "sync" => some fun _ p => p.withStatus 0
  | "uname" => some fun _ p => (p.say 1 "Linux\n").withStatus 0
  | "whoami" => some fun _ p => (p.say 1 "root\n").withStatus 0
  | "tty" => some fun _ p => (p.say 1 "not a tty\n").withStatus 1
  | _ => none

/-- The names of the utilities that are programs of their own. -/
def programs : List String :=
  ["true", "false", "echo", "printf", "pwd", "sleep", "basename", "dirname", "cat", "touch",
    "mkdir", "rm", "rmdir", "cp", "mv", "ls", "find", "chmod", "head", "tail", "wc", "cut", "tr",
    "sort", "uniq", "tac", "rev", "nl", "grep", "egrep", "fgrep", "sed", "expr", "seq", "tee", "yes",
    "printenv", "sync", "test", "[", "uname", "whoami", "tty"]

end SuiteBench.Shell.Utilities
