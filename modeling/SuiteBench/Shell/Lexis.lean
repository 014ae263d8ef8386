import SuiteBench.Shell.Command
import SuiteBench.Text.Lines

/-!
# Shell.Lexis — the characters and marks of a script

Lines are numbered by what is left of the text: a document that stands in the text is taken out of it
and leaves one counter for each of its lines, so that the lines behind it keep their numbers.
-/

namespace SuiteBench.Shell.Lexis

/-! ### Characters -/

/-- The character that stands for a line taken out of the text; a script never holds it. -/
def counter : Char := '\x00'

/-- Blanks within a line. -/
def isBlank (c : Char) : Bool := c == ' ' || c == '\t' || c == counter

/-- Characters that end an unquoted word. -/
def endsWord (c : Char) : Bool := "\n;&|<>() \t".toList.contains c

/-- Characters of a name. -/
def isNameChar (c : Char) : Bool := c.isAlphanum || c == '_'

/-- Whether a name may start with `c`. -/
def startsName (c : Char) : Bool := c.isAlpha || c == '_'

/-- Whether a text is a name. -/
def isName (cs : List Char) : Bool :=
  match cs with
  | c :: r => startsName c && r.all isNameChar
  | [] => false

/-- The grave accent, which encloses an old form of substitution. -/
def grave : Char := '\x60'

/-- Characters that stand for themselves in a word. -/
def isPlain (c : Char) : Bool :=
  !endsWord c && c != '\\' && c != '\'' && c != '"' && c != '$' && c != grave

/-- Characters that stand for themselves in double quotes. -/
def isPlainInQuotes (c : Char) : Bool := c != '\\' && c != '"' && c != '$' && c != grave

/-- The names of parameters that are one mark. -/
def isSpecial (c : Char) : Bool := "@*#?$!-".toList.contains c

/-! ### Lines -/

/-- The number of line ends in a text. -/
def lineEnds (cs : List Char) : Nat := cs.countP fun c => c == '\n' || c == counter

/-- The line on which what is left of a text starts, if the whole has `total` line ends. -/
def lineAt (total : Nat) (left : List Char) : Nat := total + 1 - lineEnds left

/-- The text after blanks, joined lines and a comment. -/
def skipBlanks : List Char → List Char
  | '\\' :: '\n' :: r => skipBlanks r
  | c :: r => if isBlank c then skipBlanks r else if c == '#' then r.dropWhile (· != '\n') else c :: r
  | [] => []

/-- The text after blanks, comments and line ends. -/
def skipLines (cs : List Char) : List Char :=
  match skipBlanks cs with
  | '\n' :: r => if r.length < cs.length then skipLines r else r
  | r => r
termination_by cs.length

/-! ### Marks -/

/-- The words that the grammar reserves. -/
def reservedWords : List String :=
  ["!", "case", "do", "done", "elif", "else", "esac", "fi", "for", "if", "in", "then", "until",
    "while", "\x7b", "\x7d"]

/-- The operators; a longer one stands before its front part. -/
def operators : List String := ["&&", "||", ";;", ";", "&", "|", "(", ")"]

/-- The plain characters up to the end of a word. -/
def leadingWord (cs : List Char) : String := String.ofList (cs.takeWhile fun c => !endsWord c)

/-- The reserved word that stands next. -/
def reservedWord? (cs : List Char) : Option String := reservedWords.find? (· == leadingWord cs)

/-- The operator that stands next. -/
def operator? (cs : List Char) : Option String :=
  operators.find? fun o => (Text.stripFront? o.toList cs).isSome

/-- Whether a redirection stands next. -/
def startsRedirection (cs : List Char) : Bool :=
  match cs.dropWhile Char.isDigit with
  | '<' :: _ => true
  | '>' :: _ => true
  | _ => false

/-- What stands at the front of a text; reserved words count as words unless asked for. -/
def markOf (reserved : Bool) (cs : List Char) : Mark :=
  match cs with
  | [] => .textEnd
  | '\n' :: _ => .lineEnd
  | _ =>
    match operator? cs with
    | some o => .operator o
    | none =>
      if startsRedirection cs then .redirection
      else match reservedWord? cs with
        | some w => if reserved then .reserved w else .word
        | none => .word

/-- The marks that end a list of commands inside another command. -/
def endsList : Mark → Bool
  | .textEnd => true
  | .operator ")" => true
  | .operator ";;" => true
  | .reserved w => ["do", "done", "elif", "else", "esac", "fi", "then", "\x7d"].contains w
  | _ => false

/-! ### Documents in the text -/

/-- The lines up to the one that closes a document, how many lines were read, and the text after it. -/
def documentLines (stop : List Char) (strip : Bool) : Nat → List Char → List Char × Nat × List Char
  | 0, cs => ([], 0, cs)
  | n + 1, cs =>
    if cs.isEmpty then ([], 0, []) else
    let line := cs.takeWhile (· != '\n')
    let rest := (cs.dropWhile (· != '\n')).drop 1
    let ended := cs.length - line.length - rest.length
    let line := if strip then line.dropWhile (· == '\t') else line
    if line == stop then ([], ended, rest)
    else
      let (body, count, rest) := documentLines stop strip n rest
      (line ++ (if ended = 0 then [] else '\n' :: body), count + ended, rest)

/-- Takes the document that starts on the next line out of the text. -/
def takeDocument (stop : List Char) (strip : Bool) (cs : List Char) : List Char × List Char :=
  let line := cs.takeWhile (· != '\n')
  let after := (cs.dropWhile (· != '\n')).drop 1
  let counters := after.takeWhile (· == counter)
  let (body, count, rest) := documentLines stop strip cs.length (after.drop counters.length)
  (body, line ++ '\n' :: (counters ++ List.replicate count counter ++ rest))

/-- The text between grave accents, without the backslashes that protect a mark in it. -/
def graveText : List Char → Option (List Char × List Char)
  | [] => none
  | '\\' :: c :: r =>
    (graveText r).map fun (t, r) =>
      if c == grave || c == '\\' || c == '$' then (c :: t, r) else ('\\' :: c :: t, r)
  | c :: r => if c == grave then some ([], r) else (graveText r).map fun (t, r) => (c :: t, r)

/-! ### Redirections -/

/-- The kinds of redirection, by their mark. -/
inductive RedirectionMark where
  | file (how : Opening)
  | copy
  | document (strip : Bool)

/-- The mark of a redirection, if one stands next. -/
def redirectionMark? : List Char → Option (Nat × RedirectionMark × List Char)
  | '>' :: '>' :: r => some (1, .file .append, r)
  | '>' :: '&' :: r => some (1, .copy, r)
  | '>' :: '|' :: r => some (1, .file .write, r)
  | '>' :: r => some (1, .file .write, r)
  | '<' :: '<' :: '-' :: r => some (0, .document true, r)
  | '<' :: '<' :: r => some (0, .document false, r)
  | '<' :: '&' :: r => some (0, .copy, r)
  | '<' :: '>' :: r => some (0, .file .read, r)
  | '<' :: r => some (0, .file .read, r)
  | _ => none

/-- The descriptor and mark of a redirection, if one stands next. -/
def redirectionStart? (cs : List Char) : Option (Nat × RedirectionMark × List Char) :=
  let ds := cs.takeWhile Char.isDigit
  (redirectionMark? (cs.drop ds.length)).map fun (fd, m, r) =>
    (if ds.isEmpty then fd else ds.foldl (fun n c => n * 10 + (c.toNat - 48)) 0, m, r)

/-! ### Parameters -/

/-- The name of an assignment, if one stands next. -/
def assignment? (cs : List Char) : Option (String × List Char) :=
  let name := cs.takeWhile isNameChar
  match name, cs.drop name.length with
  | c :: _, '=' :: r => if startsName c then some (String.ofList name, r) else none
  | _, _ => none

/-- The use of a parameter that stands after its name in braces. -/
def parameterUse? : List Char → Option (ParameterUse × List Char)
  | ':' :: '-' :: r => some (.fallback true, r)
  | ':' :: '=' :: r => some (.assign true, r)
  | ':' :: '?' :: r => some (.demand true, r)
  | ':' :: '+' :: r => some (.alternative true, r)
  | '-' :: r => some (.fallback false, r)
  | '=' :: r => some (.assign false, r)
  | '?' :: r => some (.demand false, r)
  | '+' :: r => some (.alternative false, r)
  | '#' :: '#' :: r => some (.cutFront true, r)
  | '#' :: r => some (.cutFront false, r)
  | '%' :: '%' :: r => some (.cutBack true, r)
  | '%' :: r => some (.cutBack false, r)
  | _ => none

/-- The name of a parameter in braces. -/
def parameterName? (cs : List Char) : Option (String × List Char) :=
  match cs with
  | [] => none
  | c :: r =>
    if c.isDigit then
      let ds := cs.takeWhile Char.isDigit
      some (String.ofList ds, cs.drop ds.length)
    else if startsName c then
      let name := cs.takeWhile isNameChar
      some (String.ofList name, cs.drop name.length)
    else if isSpecial c then some (c.toString, r)
    else none

end SuiteBench.Shell.Lexis
