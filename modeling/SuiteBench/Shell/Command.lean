/-!
# Shell.Command — the commands of scripted tools

Scripted tools are written in the usual command language: words with quotes and substitutions,
redirections, pipelines, conditions and loops.  Of a text that is no list of commands a fault says what
stood where something else was due, and on which line.
-/

namespace SuiteBench.Shell

/-- What is done with the value of a parameter. -/
inductive ParameterUse where
  | plain
  | length
  /-- Another text stands in for a missing value; with a colon for an empty one as well. -/
  | fallback (colon : Bool)
  | assign (colon : Bool)
  | demand (colon : Bool)
  | alternative (colon : Bool)
  | cutFront (longest : Bool)
  | cutBack (longest : Bool)
  /-- No use that the language knows; its expansion fails. -/
  | unknown
  deriving DecidableEq, Repr

/-- How a redirection opens its file. -/
inductive Opening where
  | read | write | append
  deriving DecidableEq, Repr

mutual

/-- A part of a word; the flag tells whether it stands in quotes. -/
inductive WordPart where
  | text (cs : List Char) (quoted : Bool)
  | parameter (name : String) (use : ParameterUse) (operand : List WordPart) (quoted : Bool)
  | output (c : Command) (quoted : Bool)
  | arithmetic (e : List WordPart) (quoted : Bool)

/-- A change of one descriptor. -/
inductive Redirection where
  | open (fd : Nat) (how : Opening) (path : List WordPart)
  | copy (fd : Nat) (source : List WordPart)
  | here (fd : Nat) (body : List WordPart)

/-- A command; the numbers are those of the lines on which it starts. -/
inductive Command where
  | simple (line : Nat) (assignments : List (String × List WordPart)) (words : List (List WordPart))
      (redirections : List Redirection)
  | redirected (line : Nat) (c : Command) (redirections : List Redirection)
  | pipeline (cs : List Command)
  | negated (c : Command)
  | both (a b : Command)
  | either (a b : Command)
  | sequence (cs : List Command)
  | background (c : Command)
  | subshell (c : Command)
  | choose (branches : List (Command × Command)) (otherwise : Command)
  | loop (untilTrue : Bool) (condition body : Command)
  | forEach (line : Nat) (name : String) (words : Option (List (List WordPart))) (body : Command)
  | select (line : Nat) (word : List WordPart) (cases : List (List (List WordPart) × Command))
  | define (name : String) (body : Command)

end

/-- A word is the list of its parts. -/
abbrev Word := List WordPart

/-- The command that does nothing. -/
def Command.nothing : Command := .sequence []

/-! ### Faults -/

/-- What may stand next in the text of a script. -/
inductive Mark where
  | textEnd
  | lineEnd
  /-- An operator by its own spelling. -/
  | operator (spelling : String)
  | redirection
  | word
  /-- A word that the grammar reserves. -/
  | reserved (spelling : String)
  deriving DecidableEq, Repr

/-- The name of a mark in a complaint. -/
def Mark.name : Mark → String
  | .textEnd => "end of file"
  | .lineEnd => "newline"
  | .operator s => "\"" ++ s ++ "\""
  | .redirection => "redirection"
  | .word => "word"
  | .reserved s => "\"" ++ s ++ "\""

/-- Why a text is no list of commands. -/
inductive FaultCause where
  | unexpected (found : Mark) (expected : Option Mark)
  | openQuote
  | openBrace
  | openSubstitution
  | openFormula
  | badLoopVariable
  | badFunctionName
  | badDescriptor
  deriving DecidableEq, Repr

/-- The wording of a `FaultCause`. -/
def FaultCause.message : FaultCause → String
  | .unexpected m none => m.name ++ " unexpected"
  | .unexpected m (some e) => m.name ++ " unexpected (expecting " ++ e.name ++ ")"
  | .openQuote => "Unterminated quoted string"
  | .openBrace => "Missing '\x7d'"
  | .openSubstitution => "EOF in backquote substitution"
  | .openFormula => "Missing '))'"
  | .badLoopVariable => "Bad for loop variable"
  | .badFunctionName => "Bad function name"
  | .badDescriptor => "Bad fd number"

/-- A fault in the text of a script. -/
structure Fault where
  cause : FaultCause
  line : Nat
  deriving DecidableEq, Repr

end SuiteBench.Shell
