import SuiteBench.Shell.Process

/-!
# Shell.Utilities.Operands — options and operands of the small programs

A call is cut into its options and its operands; a program treats its operands one after another, and
its status is one if it failed with any of them.
-/

namespace SuiteBench.Shell.Utilities

open Process

/-- A program as a function of its arguments on the process that calls it. -/
abbrev Utility := List String → Process → Process

/-- Options in the order in which they stand, each with its value if it takes one. -/
abbrev Flags := List (Char × String)

/-- Cuts the options off the front of the arguments; `valued` are the options that take a value. -/
def cutOptions (valued : List Char) : Nat → List String → Flags → Flags × List String
  | 0, args, flags => (flags.reverse, args)
  | _ + 1, [], flags => (flags.reverse, [])
  | n + 1, a :: rest, flags =>
    match a.toList with
    | ['-', '-'] => (flags.reverse, rest)
    | '-' :: c :: cs =>
      if c == '-' then cutOptions valued n rest flags
      else
        let rec letters : List Char → Flags → Flags × Option Char
          | [], fs => (fs, none)
          | x :: xs, fs =>
            if valued.contains x then
              if xs.isEmpty then (fs, some x) else ((x, String.ofList xs) :: fs, none)
            else letters xs ((x, "") :: fs)
        match letters (c :: cs) flags with
        | (fs, none) => cutOptions valued n rest fs
        | (fs, some x) =>
          match rest with
          | v :: rest => cutOptions valued n rest ((x, v) :: fs)
          | [] => ((x, "") :: fs |>.reverse, [])
    | _ =>
      let (flags, operands) := cutOptions valued n rest flags
      (flags, a :: operands)

/-- The options and the operands of a call. -/
def options (valued : List Char) (args : List String) : Flags × List String :=
  cutOptions valued (args.length + 1) args []

/-- Whether an option is set. -/
def Flags.has (fs : Flags) (c : Char) : Bool := fs.any (·.1 == c)

/-- The last value of an option. -/
def Flags.value? (fs : Flags) (c : Char) : Option String := fs.reverse.lookup c

/-- Does something for each operand; the status is that of the last failure. -/
def each (args : List String) (f : String → Process → Process) (p : Process) : Process :=
  args.foldl (fun p a =>
    let q := f a (p.withStatus 0)
    q.withStatus (if q.status = 0 then p.status else q.status)) (p.withStatus 0)

/-- Does something with the content of a file or, for a dash, of the input. -/
def take (command path : String) (f : List UInt8 → Process → Process) (p : Process) : Process :=
  if path == "-" then f p.input { p with input := [] }
  else match p.contentOf path with
    | .ok bytes => f bytes p
    | .error e => p.complain command (path ++ ": " ++ reason e)

/-- The content of some files one after another, or of the input if there are none. -/
def gather (command : String) (files : List String) (p : Process) : List UInt8 × Process :=
  (if files.isEmpty then ["-"] else files).foldl (fun (bytes, p) a =>
    if a == "-" then (bytes ++ p.input, { p with input := [] })
    else match p.contentOf a with
      | .ok more => (bytes ++ more, p)
      | .error e => (bytes, p.complain command (a ++ ": " ++ reason e))) ([], p.withStatus 0)

/-- The lines of a byte sequence, each with its line feed. -/
def byteLines (bytes : List UInt8) : List (List UInt8) :=
  let rec cut : List UInt8 → List UInt8 → List (List UInt8)
    | [], [] => []
    | line, [] => [line.reverse]
    | line, b :: rest =>
      if b = 10 then (b :: line).reverse :: cut [] rest else cut (b :: line) rest
  cut [] bytes

/-- The lines of a byte sequence, without their line feeds. -/
def bareLines (bytes : List UInt8) : List (List UInt8) :=
  (byteLines bytes).map fun l => l.filter (· != 10)

/-- The bytes of lines, each ended by a line feed. -/
def joinLines (lines : List (List UInt8)) : List UInt8 := lines.flatMap fun l => l ++ [10]

/-- A whole number without a sign. -/
def natOf? (s : String) : Option Nat :=
  let cs := s.toList
  if !cs.isEmpty && cs.all Char.isDigit then some (Arithmetic.digits 10 cs).1 else none

/-- What is said about a call that names too few operands. -/
def missingOperand (command : String) (p : Process) : Process := p.misused command "missing operand"

end SuiteBench.Shell.Utilities
