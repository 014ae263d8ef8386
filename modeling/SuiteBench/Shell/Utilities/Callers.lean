import SuiteBench.Execution.Invocation
import SuiteBench.Shell.Builtins

/-!
# Shell.Utilities.Callers — programs that start other programs

A caller changes the surroundings of a program, its arguments or the time that it is given, and starts
it.  How a program is started is the business of whoever runs the caller.
-/

namespace SuiteBench.Shell.Utilities

open Process

/-- Starts a program by its name or path; what is said if that fails comes first. -/
abbrev Starter := String → String → List String → Process → Process

/-- A program that starts others. -/
abbrev Caller := Starter → Utility

/-- Whether an argument is an option. -/
def isOption (a : String) : Bool := a.toList.head? == some '-'

/-- The arguments behind the leading options; the options named take the next argument with them. -/
def pastOptions (valued : List String) : List String → List String
  | [] => []
  | [a] => if isOption a then [] else [a]
  | a :: b :: r =>
    if valued.contains a then pastOptions valued r
    else if a == "--" then b :: r
    else if isOption a then pastOptions valued (b :: r)
    else a :: b :: r

/-- The leading options of the arguments. -/
def leadingOptions (valued : List String) (args : List String) : List String :=
  args.take (args.length - (pastOptions valued args).length)

/-- Starts a program with other variables, or prints the variables. -/
def withVariables : Caller := fun start args p =>
  let valued := ["-u", "-C", "-S"]
  let (fs, _) := options ['u', 'C', 'S'] (leadingOptions valued args)
  let rest := pastOptions valued args
  let settings := rest.takeWhile fun a => (assignmentOf a).2.isSome
  let cleared := if fs.has 'i' || args.head? == some "-" then { p with vars := [], exported := [] }
    else ((fs.filter (·.1 == 'u')).map (·.2)).foldl Process.unsetVariable p
  let changed := settings.foldl (fun q a =>
    let (k, v) := assignmentOf a
    (q.setVariable k (v.getD "")).exportVariable k) cleared
  let q := match rest.drop settings.length with
    | [] => printVariables [] changed
    | c :: r =>
      start ("env: '" ++ c ++ "': ") c r (if (changed.value? "PATH").isSome then changed
        else changed.setVariable "PATH" "/bin:/usr/bin")
  { q with vars := p.vars, exported := p.exported }

/-- Cuts a list into pieces of some length. -/
def pieces (k : Nat) : Nat → List String → List (List String)
  | 0, _ => []
  | _ + 1, [] => []
  | n + 1, xs => xs.take k :: pieces k n (xs.drop k)

/-- Starts a program with the words of the input as its last arguments. -/
def withInputWords : Caller := fun start args p =>
  let valued := ["-n", "-I", "-d", "-L", "-P"]
  let (fs, _) := options ['n', 'I', 'd', 'L', 'P'] (leadingOptions valued args)
  let (c, given) := match pastOptions valued args with
    | [] => ("echo", [])
    | c :: r => (c, r)
  let lines := (bareLines p.input).map fun l => String.ofList (Text.Utf8.lossyChars l)
  let words := lines.flatMap fun l =>
    ((Text.splitOnP (fun c => c == ' ' || c == '\t') l.toList).filter (!·.isEmpty)).map String.ofList
  let calls : List (List String) := match fs.value? 'I' with
    | some mark => ((lines.map Text.trim).filter (!·.isEmpty)).map fun x => given.map fun a =>
        String.ofList (Template.replaceFrom mark.toList x.toList 0 a.toList)
    | none =>
      let groups := match ((fs.value? 'n') <|> (fs.value? 'L')).bind natOf? with
        | some k => pieces (max k 1) words.length words
        | none => if words.isEmpty then [] else [words]
      if groups.isEmpty && !fs.has 'r' then [given] else groups.map (given ++ ·)
  calls.foldl (fun p g =>
    if p.halted.isSome then p
    else
      let q := start ("xargs: " ++ c ++ ": ") c g { p with replaced := false }
      q.withStatus (if q.status = 0 then p.status
        else if q.status = 126 || q.status = 127 then q.status else 123))
    ({ p with input := [] }.withStatus 0)

/-- Prints where programs are found. -/
def locatePrograms : Utility := fun args p =>
  args.foldl (fun p a =>
    let path := if a.toList.contains '/' then some (Path.mk a)
      else Programs.find? p.tree p.cwd (p.value? "PATH") a
    match path.filter fun x => Programs.isExecutable p.tree p.cwd x with
    | some x => p.say 1 (x.text ++ "\n")
    | none => p.withStatus 1) (p.withStatus 0)

/-- Starts a program and ends it when its time is over. -/
def withinTime : Caller := fun start args p =>
  match pastOptions ["-s", "-k"] args with
  | t :: c :: r =>
    match milliseconds? t.toList with
    | none => (p.misused "timeout" ("invalid time interval '" ++ t ++ "'")).withStatus 125
    | some ms =>
      let inner := start ("timeout: failed to run command '" ++ c ++ "': ") c r
        { p with replaced := false }
      if ms = 0 || (inner.clock < p.clock + ms && inner.halted != some .stuck) || p.stop.isSome
      then inner
      else
        let fresh := (inner.actions.take (inner.actions.length - p.actions.length)).reverse
        { (replay ms fresh 0 p).withStatus 124 with births := inner.births }
  | _ => (missingOperand "timeout" p).withStatus 125

/-- The callers. -/
def caller? (name : String) : Option Caller :=
  match name with
  | "env" => some withVariables
  | "xargs" => some withInputWords
  | "which" => some fun _ => locatePrograms
  | "timeout" => some withinTime
  | "nohup" => some fun start args p => match args with
    | c :: r => start ("nohup: failed to run command '" ++ c ++ "': ") c r p
    | [] => (missingOperand "nohup" p).withStatus 125
  | "setsid" => some fun start args p => match pastOptions [] args with
    | c :: r => start ("setsid: failed to execute " ++ c ++ ": ") c r p
    | [] => (missingOperand "setsid" p).withStatus 1
  | "nice" => some fun start args p => match pastOptions ["-n"] args with
    | c :: r => start ("nice: '" ++ c ++ "': ") c r p
    | [] => (p.say 1 "0\n").withStatus 0
  | _ => none

/-- The names of the callers. -/
def callers : List String := ["env", "xargs", "which", "timeout", "nohup", "setsid", "nice"]

end SuiteBench.Shell.Utilities
