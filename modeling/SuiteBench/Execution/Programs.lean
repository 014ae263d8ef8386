import SuiteBench.Store.Tree

/-!
# Execution.Programs — where programs are found

A name with several components stands for itself; a single name is looked up in the directories of
the search path, in their order.  Only an executable file counts.
-/

namespace SuiteBench

namespace Path

/-- The number of components, counting the root and a leading dot. -/
def depth (p : Path) : Nat :=
  p.components.length +
    (if p.isAbsolute || p.text == "." || (Text.stripFront? "./".toList p.text.toList).isSome
     then 1 else 0)

/-- Whether the path can only name a directory: its last piece is empty or a dot. -/
def endsInDirectory (p : Path) : Bool :=
  match (Text.splitOnP (· == '/') p.text.toList).getLast? with
  | some [] => true
  | some ['.'] => true
  | some ['.', '.'] => true
  | _ => false

end Path

namespace Programs

/-- The location that components lead to when every directory on the way is there. -/
def enter (t : Tree) (start : Location) : List String → Except FileError Location
  | [] => .ok start
  | name :: rest =>
    match t.get start with
    | .error e => .error e
    | .ok (.file ..) => .error .notADirectory
    | .ok .directory => enter t (if name = ".." then start.dropLast else start ++ [name]) rest

/-- Where a path leads from `cwd`, and what stands there. -/
def reach (t : Tree) (cwd : Location) (p : Path) : Except FileError (Location × Entry) := do
  if p.text.isEmpty then throw .notFound
  let l ← enter t (if p.isAbsolute then [] else cwd) p.components
  let e ← t.get l
  if p.endsInDirectory && !e.isDirectory then throw .notADirectory
  return (l, e)

/-- Whether an executable file stands at a path. -/
def isExecutable (t : Tree) (cwd : Location) (p : Path) : Bool :=
  match reach t cwd p with
  | .ok (_, .file _ executable) => executable
  | _ => false

/-- The directories of a search path. -/
def directories (searchPath : String) : List Path :=
  (Text.splitOnP (· == ':') searchPath.toList).map fun d => ⟨String.ofList d⟩

/-- A name below a directory of the search path; the empty name asks for the directory itself. -/
def candidate (dir : Path) (program : String) : Path :=
  if program.isEmpty && !dir.text.isEmpty && dir.text.toList.getLast? != some '/'
  then ⟨dir.text ++ "/"⟩ else dir.join program

/-- The path of a program, if it is found. -/
def find? (t : Tree) (cwd : Location) (searchPath : Option String) (program : String) :
    Option Path :=
  if 1 < (Path.mk program).depth then
    if isExecutable t cwd ⟨program⟩ then some ⟨program⟩ else none
  else searchPath.bind fun s =>
    ((directories s).map (candidate · program)).find? (isExecutable t cwd)

/-- The first of some programs that is not found. -/
def missing? (t : Tree) (cwd : Location) (searchPath : Option String) (programs : List String) :
    Option String :=
  programs.find? fun p => (find? t cwd searchPath p).isNone

end Programs

end SuiteBench
