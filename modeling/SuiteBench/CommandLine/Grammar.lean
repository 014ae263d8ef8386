import SuiteBench.Decimal.Natural
import SuiteBench.Text.Lines

/-!
# CommandLine.Grammar — options and subcommands

A grammar names the options and the subcommands of a command.  Reading takes one word after another:
an option that waits for its value takes the next word unless that is an option itself, and a value
is looked at only when the next option comes or the words end.  A subcommand is read to its end
before the values in front of it are looked at.
-/

namespace SuiteBench.CommandLine

/-- What an option takes. -/
inductive OptionKind where
  | flag
  | text
  /-- A text that must not be empty. -/
  | path
  /-- A whole number up to a bound; with `minusZero` a zero may have a minus sign. -/
  | number (bound : Nat) (minusZero : Bool)
  | help
  | version
  deriving DecidableEq, Repr

/-- An option by its long name. -/
structure OptionSpec where
  name : String
  short : Option Char
  kind : OptionKind
  /-- How the value is named in the help. -/
  placeholder : String
  about : String
  required : Bool
  /-- The value of an option that is left out. -/
  fallback : Option String
  deriving DecidableEq, Repr

/-- A command with its options and subcommands. -/
structure CommandSpec where
  name : String
  about : String
  options : List OptionSpec
  subcommands : List CommandSpec
  needsSubcommand : Bool

/-- The value of an option. -/
inductive OptionValue where
  | set
  | text (s : String)
  | number (n : Nat)
  deriving DecidableEq, Repr

/-- Why reading a command line ends without a request. -/
inductive Stop where
  /-- Help was asked for the command with these names. -/
  | help (path : List String)
  /-- Help was asked for the help of a command. -/
  | helpOnHelp (path : List String)
  | version
  /-- A command that needs a subcommand stands alone. -/
  | bareCommand
  | missingSubcommand
  | unknownSubcommand (word : String)
  | unknownOption (word : String)
  /-- An option has no value, or an empty one where that is no value. -/
  | noValue (option : String)
  | badValue (option value : String)
  | valueOnFlag (option : String)
  | repeated (option : String)
  | missingOption (option : String)
  deriving DecidableEq, Repr

/-- A command that was read, with the values of its options. -/
structure Level where
  name : String
  values : List (String × OptionValue)
  deriving DecidableEq, Repr

namespace OptionSpec

/-- Whether the option takes a value. -/
def takesValue (o : OptionSpec) : Bool :=
  match o.kind with
  | .flag | .help | .version => false
  | .text | .path | .number .. => true

/-- A number, with a minus sign in front of a zero if that is allowed. -/
def number? (bound : Nat) (minusZero : Bool) (cs : List Char) : Option Nat :=
  match cs with
  | '-' :: rest =>
    if minusZero && !rest.isEmpty && rest.all (· == '0') then some 0 else none
  | _ => (Decimal.readNat bound cs).toOption

/-- The value that a word gives an option. -/
def value (o : OptionSpec) (word : String) : Except Stop OptionValue :=
  match o.kind with
  | .path => if word.isEmpty then .error (.noValue o.name) else .ok (.text word)
  | .number bound minusZero => match number? bound minusZero word.toList with
    | some n => .ok (.number n)
    | none => .error (.badValue o.name word)
  | _ => .ok (.text word)

/-- How the option is written in usage and help. -/
def written (o : OptionSpec) : String :=
  "--" ++ o.name ++ (if o.takesValue then " <" ++ o.placeholder ++ ">" else "")

end OptionSpec

/-- How far the words of a command are read. -/
structure Reading where
  values : List (String × OptionValue)
  /-- The last option that takes a value, with its word if that has come. -/
  pending : Option (OptionSpec × Option String)
  /-- Whether a double dash has come. -/
  onlyWords : Bool

namespace Reading

/-- Nothing read yet. -/
def start : Reading := ⟨[], none, false⟩

/-- The reading with a value for an option. -/
def put (r : Reading) (o : OptionSpec) (v : Except Stop OptionValue) : Except Stop Reading :=
  if (r.values.lookup o.name).isSome then .error (.repeated o.name)
  else v.map fun v => { r with values := r.values ++ [(o.name, v)] }

/-- The reading with the last value looked at. -/
def resolve (r : Reading) : Except Stop Reading :=
  match r.pending with
  | none => .ok r
  | some (o, none) => .error (.noValue o.name)
  | some (o, some word) => ({ r with pending := none } : Reading).put o (o.value word)

/-- Whether the last option waits for its value. -/
def awaits (r : Reading) : Bool :=
  match r.pending with
  | some (_, none) => true
  | _ => false

/-- The reading with an option that takes no value. -/
def raise (r : Reading) (path : List String) (o : OptionSpec) : Except Stop Reading := do
  let r ← r.resolve
  match o.kind with
  | .help => throw (.help path)
  | .version => throw .version
  | _ => r.put o (.ok .set)

end Reading

/-- A word that starts with two dashes, as a name and an attached value. -/
def longWord? (word : String) : Option (String × Option String) :=
  match word.toList with
  | '-' :: '-' :: rest =>
    let name := String.ofList (rest.takeWhile (· != '='))
    match rest.dropWhile (· != '=') with
    | [] => some (name, none)
    | _ :: value => some (name, some (String.ofList value))
  | _ => none

/-- The letters of a word that starts with one dash. -/
def shortWord? (word : String) : Option (List Char) :=
  match word.toList with
  | '-' :: c :: rest => if c == '-' then none else some (c :: rest)
  | _ => none

namespace CommandSpec

/-- The subcommand with a name. -/
def subcommand? (c : CommandSpec) (name : String) : Option CommandSpec :=
  c.subcommands.find? fun s => s.name == name

/-- The option with a long name. -/
def option? (c : CommandSpec) (name : String) : Option OptionSpec :=
  c.options.find? fun o => o.name == name

/-- Whether a word names a subcommand; every command with subcommands has one for its help. -/
def hasSubcommand (c : CommandSpec) (word : String) : Bool :=
  !c.subcommands.isEmpty && (word == "help" || (c.subcommand? word).isSome)

/-- Reads a word with two dashes. -/
def readLong (c : CommandSpec) (path : List String) (r : Reading) (name : String)
    (value : Option String) : Except Stop Reading :=
  match c.option? name with
  | none => .error (.unknownOption ("--" ++ name))
  | some o =>
    match o.takesValue, value with
    | true, some v => do (← r.resolve).put o (o.value v)
    | true, none => do return { ← r.resolve with pending := some (o, none) }
    | false, some _ => .error (.valueOnFlag name)
    | false, none => r.raise path o

/-- Reads the letters of a word with one dash. -/
def readShort (c : CommandSpec) (path : List String) (r : Reading) (letters : List Char) :
    Except Stop Reading :=
  letters.foldlM (fun r letter =>
    match c.options.find? fun o => o.short == some letter with
    | none => .error (.unknownOption (String.ofList ['-', letter]))
    | some o => r.raise path o) r

/-- Reads a word that is no option, no value and no subcommand. -/
def refuse (c : CommandSpec) (r : Reading) (word : String) : Stop :=
  if c.subcommands.isEmpty || (r.onlyWords && c.hasSubcommand word) then .unknownOption word
  else .unknownSubcommand word

/-- Reads the words after `help`. -/
def readHelp (c : CommandSpec) (path : List String) : List String → Stop
  | [] => .help path
  | word :: rest =>
    match c.subcommand? word with
    | some s => readHelp s (path ++ [word]) rest
    | none =>
      if !c.hasSubcommand word then .unknownSubcommand word
      else match rest with
        | [] => .helpOnHelp (path ++ [word])
        | other :: _ => .unknownSubcommand other

/-- Ends the reading of a command without a subcommand. -/
def finish (c : CommandSpec) (r : Reading) : Except Stop Level := do
  let r ← r.resolve
  if c.needsSubcommand then
    throw (if r.values.isEmpty then .bareCommand else .missingSubcommand)
  match c.options.find? fun o => o.required && (r.values.lookup o.name).isNone with
  | some o => throw (.missingOption o.name)
  | none => return ⟨c.name, r.values⟩

/-- Reads the words of a command into the levels from it down to the last subcommand. -/
def read (c : CommandSpec) (path : List String) (r : Reading) :
    List String → Except Stop (List Level)
  | [] => (c.finish r).map fun l => [l]
  | word :: rest =>
    if r.onlyWords then .error (c.refuse r word)
    else if !r.awaits && c.hasSubcommand word then
      match c.subcommand? word with
      | none => .error (c.readHelp path rest)
      | some s =>
        match read s (path ++ [word]) .start rest with
        | .error e => .error e
        | .ok below => r.resolve.map fun r => ⟨c.name, r.values⟩ :: below
    else if word == "--" then read c path { r with onlyWords := true } rest
    else match longWord? word with
      | some (name, value) =>
        match c.readLong path r name value with
        | .error e => .error e
        | .ok r => read c path r rest
      | none =>
        match shortWord? word with
        | some letters =>
          match c.readShort path r letters with
          | .error e => .error e
          | .ok r => read c path r rest
        | none =>
          match r.pending with
          | some (o, none) => read c path { r with pending := some (o, some word) } rest
          | _ => .error (c.refuse r word)

/-! ### Help -/

/-- The options in the order of the help: own and inherited ones by their rank, then by name. -/
def helpOrder (own inherited : List OptionSpec) : List OptionSpec :=
  ((own.zipIdx ++ inherited.zipIdx).mergeSort fun a b =>
    decide (a.2 < b.2) || (a.2 == b.2 && a.1.name ≤ b.1.name)).map (·.1)

/-- Rows of two columns, the second one aligned. -/
def columns (rows : List (String × String)) : List String :=
  let width := (rows.map fun r => r.1.length).foldl max 0
  rows.map fun (a, b) => "  " ++ Text.padBack width a ++ "  " ++ b

/-- The first column of an option's row. -/
def optionCell (o : OptionSpec) : String :=
  (match o.short with
    | some c => String.ofList ['-', c] ++ ", "
    | none => "    ") ++ o.written

/-- The second column of an option's row. -/
def optionAbout (o : OptionSpec) : String :=
  o.about ++ (match o.fallback with
    | some v => " [default: " ++ v ++ "]"
    | none => "")

/-- The line on how a command is used. -/
def usage (c : CommandSpec) (path : List String) : String :=
  let required := (c.options.filter (·.required)).map OptionSpec.written
  let sub := if c.subcommands.isEmpty then []
    else [if c.needsSubcommand then "<COMMAND>" else "[COMMAND]"]
  Text.join " " (["Usage:"] ++ path ++ ["[OPTIONS]"] ++ required ++ sub)

/-- What is said about the help of a command. -/
def helpAbout : String := "Print this message or the help of the given subcommand(s)"

/-- The help of a command. -/
def help (c : CommandSpec) (path : List String) : String :=
  let subs := if c.subcommands.isEmpty then []
    else ["Commands:"] ++ columns (c.subcommands.map (fun s => (s.name, s.about)) ++
      [("help", helpAbout)]) ++ [""]
  Text.join "\n" ([c.about, "", c.usage path, ""] ++ subs ++ ["Options:"] ++
    columns (c.options.map fun o => (optionCell o, optionAbout o)) ++ [""])

/-- The help of the help of a command. -/
def helpOnHelp (path : List String) : String :=
  Text.join "\n" ([helpAbout, "", "Usage: " ++ Text.join " " path ++ " [COMMAND]...", "",
    "Arguments:"] ++ columns [("[COMMAND]...", "Print help for the subcommand(s)")] ++ [""])

/-- The command that names lead to. -/
def descend (c : CommandSpec) : List String → CommandSpec
  | [] => c
  | name :: rest =>
    match c.subcommand? name with
    | some s => descend s rest
    | none => c

end CommandSpec

end SuiteBench.CommandLine
