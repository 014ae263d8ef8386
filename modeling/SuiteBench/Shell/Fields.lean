import SuiteBench.Shell.Process
import SuiteBench.Shell.Wildcard

/-!
# Shell.Fields — what words expand to

A word grows into fields: unquoted values are cut at the separators, where white space counts once and
every other separator ends a field.  In places where nothing is cut the fields stay one.
-/

namespace SuiteBench.Shell

/-- The fields that words expand to: finished ones and the one that grows, all reversed. -/
structure Fields where
  /-- The separators at which unquoted values are cut, if they are cut at all. -/
  separators : Option (List Char)
  done : List (List MarkedChar)
  current : Option (List MarkedChar)

namespace Fields

/-- No field yet. -/
def empty (separators : Option (List Char)) : Fields := ⟨separators, [], none⟩

/-- The fields with the growing one finished. -/
def close (f : Fields) : Fields :=
  match f.current with
  | some c => { f with done := c :: f.done, current := none }
  | none => f

/-- The fields with text added to the growing one. -/
def add (f : Fields) (cs : List Char) (quoted : Bool) : Fields :=
  if cs.isEmpty && !quoted then f
  else { f with current := some ((cs.map fun c => (c, quoted)).reverse ++ f.current.getD []) }

/-- Whether a separator is white space. -/
def isWhite (c : Char) : Bool := c == ' ' || c == '\t' || c == '\n'

/-- The fields with an unquoted value added. -/
def addUnquoted (f : Fields) (cs : List Char) : Fields :=
  match f.separators with
  | none => f.add cs false
  | some seps =>
    (cs.foldl (fun (f, white) c =>
      if !seps.contains c then (f.add [c] false, false)
      else if isWhite c then (if f.current.isSome then (f.close, true) else (f, white))
      else if f.current.isSome then (f.close, false)
      else if white then (f, false)
      else ((f.add [] true).close, false)) (f, false)).1

/-- The fields with a value added. -/
def addValue (f : Fields) (value : String) (quoted : Bool) : Fields :=
  if quoted then f.add value.toList true else f.addUnquoted value.toList

/-- The fields with each of some values in a field of its own; no value leaves no field. -/
def addEach (f : Fields) (quoted : Bool) : List String → Fields
  | [] => if f.current == some [] then { f with current := none } else f
  | [v] => f.addValue v quoted
  | v :: vs =>
    let g := f.addValue v quoted
    (if f.separators.isNone then g.add [' '] true else g.close).addEach quoted vs

/-- The finished fields in order. -/
def all (f : Fields) : List (List MarkedChar) := (f.close.done.map List.reverse).reverse

/-- The text of the fields as one. -/
def text (f : Fields) : String :=
  Text.join " " (f.all.map fun x => String.ofList (x.map (·.1)))

/-- The characters of the fields as one pattern. -/
def pattern (f : Fields) : List MarkedChar := f.all.flatten

end Fields

namespace Process

/-- The separators of a process: white space unless a variable says otherwise. -/
def separators (p : Process) : List Char :=
  match p.value? "IFS" with
  | some s => s.toList
  | none => [' ', '\t', '\n']

/-- The mark between arguments that are joined: the first separator. -/
def joiner (p : Process) : String := String.ofList (p.separators.take 1)

/-- The letters of the options that are set. -/
def optionLetters (p : Process) : String :=
  (if p.options.demanding then "u" else "") ++ (if p.options.traced then "x" else "") ++
    (if p.options.literal then "f" else "") ++ (if p.options.strict then "e" else "")

/-- The number that stands for a background command. -/
def jobName (id : Nat) : String := Decimal.ofNat (id + harnessId)

/-- The value of a parameter. -/
def parameter? (p : Process) (name : String) : Option String :=
  match name with
  | "@" => some (Text.join " " p.args)
  | "*" => some (Text.join p.joiner p.args)
  | "#" => some (Decimal.ofNat p.args.length)
  | "?" => some (Decimal.ofNat p.status)
  | "$" => some (jobName p.script)
  | "!" => p.lastJob.map jobName
  | "-" => some p.optionLetters
  | "0" => some p.name
  | _ =>
    match Decimal.readNat Decimal.max32 name.toList with
    | .ok n => p.args[n - 1]?
    | .error _ => p.value? name

/-- The shortest or longest front part of a text that a pattern covers, cut off. -/
def cutFront (pattern : List MarkedChar) (longest : Bool) (cs : List Char) : List Char :=
  let sizes := List.range (cs.length + 1)
  match (if longest then sizes.reverse else sizes).find? fun n =>
      Wildcard.fits pattern (cs.take n) with
  | some n => cs.drop n
  | none => cs

/-- The shortest or longest end of a text that a pattern covers, cut off. -/
def cutBack (pattern : List MarkedChar) (longest : Bool) (cs : List Char) : List Char :=
  let sizes := List.range (cs.length + 1)
  match (if longest then sizes.reverse else sizes).find? fun n =>
      Wildcard.fits pattern (cs.drop (cs.length - n)) with
  | some n => cs.take (cs.length - n)
  | none => cs

/-- A text whose leading tilde stands for the home directory. -/
def withHome (p : Process) (cs : List Char) : Option (List Char × List Char) :=
  match cs, p.value? "HOME" with
  | ['~'], some home => some (home.toList, [])
  | '~' :: '/' :: r, some home => some (home.toList, '/' :: r)
  | _, _ => none

end Process

end SuiteBench.Shell
