import SuiteBench.Text.Lines

/-!
# Store.Path — paths as they are written

A path is a text with slashes.  Joining keeps the texts as they were written, since messages show
them; a location is what a path names, a list of names from the root of the tree.
-/

namespace SuiteBench

/-- The names on the way from the root of a tree to a file or directory. -/
abbrev Location := List String

/-- A path as it is written. -/
structure Path where
  text : String
  deriving DecidableEq, Repr

namespace Path

/-- Whether the path starts at the root. -/
def isAbsolute (p : Path) : Bool := p.text.toList.head? == some '/'

/-- The path of `name` below `p`; an absolute name stands for itself. -/
def join (p : Path) (name : String) : Path :=
  if name.toList.head? == some '/' then ⟨name⟩
  else if p.text.isEmpty || p.text.toList.getLast? == some '/' then ⟨p.text ++ name⟩
  else ⟨p.text ++ "/" ++ name⟩

/-- The pieces of the path between slashes, without empty ones and single dots. -/
def components (p : Path) : List String :=
  ((Text.splitOnP (· == '/') p.text.toList).map String.ofList).filter
    fun s => s != "" && s != "."

/-- Follows the components from a location; `..` leads one level up. -/
def follow (start : Location) : List String → Location
  | [] => start
  | ".." :: rest => follow start.dropLast rest
  | s :: rest => follow (start ++ [s]) rest

/-- What the path names, seen from the directory `cwd`. -/
def locate (cwd : Location) (p : Path) : Location :=
  follow (if p.isAbsolute then [] else cwd) p.components

/-- The last component, if it is a name. -/
def fileName? (p : Path) : Option String :=
  match p.components.getLast? with
  | some ".." => none
  | x => x

/-- The path without its last component; a bare name has the empty parent. -/
def parent? (p : Path) : Option Path :=
  let cs := p.text.toList.reverse
  let cs := cs.dropWhile (· == '/')
  if cs.isEmpty then none
  else
    let rest := cs.dropWhile (· != '/')
    let trimmed := rest.dropWhile (· == '/')
    if rest.isEmpty then some ⟨""⟩
    else if trimmed.isEmpty then some ⟨"/"⟩
    else some ⟨String.ofList trimmed.reverse⟩

/-- The path with its last component replaced by `name`. -/
def withFileName (p : Path) (name : String) : Path :=
  match p.parent? with
  | some q => q.join name
  | none => p.join name

end Path

/-- The locations on the way to `l` and `l` itself, without the root. -/
def Location.way (l : Location) : List Location :=
  (List.range l.length).map fun n => l.take (n + 1)

/-- The absolute path of a location. -/
def Location.path (l : Location) : Path := ⟨"/" ++ String.intercalate "/" l⟩

end SuiteBench
