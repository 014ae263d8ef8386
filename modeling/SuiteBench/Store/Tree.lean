import SuiteBench.Store.Path

/-!
# Store.Tree — a tree of files and the steps that change it

The state that the harness works on is a tree of files and directories.  It changes only by
`Step`s, each of which happens wholly or not at all; running a list of steps stops at the first that
fails, so that what an interrupted writer leaves behind is the result of a front part of its steps.
-/

namespace SuiteBench

/-- Why a file operation fails. -/
inductive FileError where
  | notFound
  | notADirectory
  | isADirectory
  | alreadyThere
  | permissionDenied
  deriving DecidableEq, Repr

/-- The wording of a `FileError`. -/
def FileError.message : FileError → String
  | .notFound => "No such file or directory (os error 2)"
  | .notADirectory => "Not a directory (os error 20)"
  | .isADirectory => "Is a directory (os error 21)"
  | .alreadyThere => "File exists (os error 17)"
  | .permissionDenied => "Permission denied (os error 13)"

/-- A file or a directory. -/
inductive Entry where
  | directory
  | file (content : ByteArray) (executable : Bool)

namespace Entry

/-- Whether the entry is a directory. -/
def isDirectory : Entry → Bool
  | directory => true
  | file .. => false

/-- The content of a file. -/
def content? : Entry → Option ByteArray
  | directory => none
  | file c _ => some c

end Entry

/-- Files and directories by location.  The root is always a directory and has no entry. -/
structure Tree where
  entries : List (Location × Entry)

namespace Tree

/-- The tree with nothing below its root. -/
def empty : Tree := ⟨[]⟩

/-- What stands at `l`. -/
def find? (t : Tree) : Location → Option Entry
  | [] => some .directory
  | l => t.entries.lookup l

/-- The tree with `e` at `l`. -/
def set (t : Tree) (l : Location) (e : Entry) : Tree :=
  ⟨(t.entries.filter fun x => x.1 != l) ++ [(l, e)]⟩

/-- The tree without what stands at or below `l`. -/
def cut (t : Tree) (l : Location) : Tree :=
  ⟨t.entries.filter fun x => !l.isPrefixOf x.1⟩

/-- Whether a directory stands at `l`. -/
def isDirectory (t : Tree) (l : Location) : Bool := (t.find? l).any Entry.isDirectory

/-- Whether a file stands at `l`. -/
def isFile (t : Tree) (l : Location) : Bool := (t.find? l).any (!·.isDirectory)

/-- Why nothing can stand below `l`: the first location on the way that is missing or a file. -/
def obstacle? (t : Tree) (l : Location) : Option FileError :=
  l.way.findSome? fun p =>
    match t.find? p with
    | some .directory => none
    | some (.file ..) => some .notADirectory
    | none => some .notFound

/-- What stands at `l`, or why nothing does. -/
def get (t : Tree) (l : Location) : Except FileError Entry :=
  match t.obstacle? l.dropLast with
  | some e => .error e
  | none => match t.find? l with
    | some e => .ok e
    | none => .error .notFound

/-- The content of the file at `l`. -/
def read (t : Tree) (l : Location) : Except FileError ByteArray :=
  match t.get l with
  | .ok (.file c _) => .ok c
  | .ok .directory => .error .isADirectory
  | .error e => .error e

/-- The names directly below `l`, with what stands there. -/
def children (t : Tree) (l : Location) : List (String × Entry) :=
  t.entries.filterMap fun (k, e) =>
    if k.dropLast == l then k.getLast?.map fun n => (n, e) else none

/-- The names directly below the directory at `l`, with what stands there. -/
def list (t : Tree) (l : Location) : Except FileError (List (String × Entry)) :=
  match t.get l with
  | .ok .directory => .ok (t.children l)
  | .ok (.file ..) => .error .notADirectory
  | .error e => .error e

/-- Every file below `l` with its location relative to `l`. -/
def filesBelow (t : Tree) (l : Location) : List (Location × ByteArray) :=
  t.entries.filterMap fun (k, e) =>
    match e with
    | .file c _ => if l.isPrefixOf k && k != l then some (k.drop l.length, c) else none
    | .directory => none

/-- The tree with a directory at `l` and on the way to it. -/
def makeDirs (t : Tree) (l : Location) : Except FileError Tree :=
  match t.find? l with
  | some .directory => .ok t
  | some (.file ..) => .error .alreadyThere
  | none =>
    l.way.foldlM (fun t p =>
      match t.find? p with
      | some .directory => .ok t
      | some (.file ..) => .error .notADirectory
      | none => .ok (t.set p .directory)) t

end Tree

/-- One change of a tree. -/
inductive Step where
  /-- Makes a directory and those above it. -/
  | makeDirs (l : Location)
  /-- Gives a file this content. -/
  | write (l : Location) (content : ByteArray)
  /-- Moves a file over another. -/
  | rename (source target : Location)
  /-- Removes a directory with everything below it. -/
  | remove (l : Location)

namespace Step

/-- The tree after one step. -/
def apply (t : Tree) : Step → Except FileError Tree
  | makeDirs l => t.makeDirs l
  | write l content =>
    match t.obstacle? l.dropLast with
    | some e => .error e
    | none => match t.find? l with
      | some .directory => .error .isADirectory
      | some (.file _ x) => .ok (t.set l (.file content x))
      | none => .ok (t.set l (.file content false))
  | rename source target =>
    match t.get source with
    | .error e => .error e
    | .ok entry =>
      match t.obstacle? target.dropLast with
      | some e => .error e
      | none =>
        if t.isDirectory target then .error .isADirectory
        else .ok ((t.cut source).set target entry)
  | remove l =>
    match t.get l with
    | .ok .directory => .ok (t.cut l)
    | .ok (.file ..) => .error .notADirectory
    | .error e => .error e

/-- The tree after as many of the steps as succeed, and the failure that stopped them. -/
def run (t : Tree) : List Step → Tree × Option FileError
  | [] => (t, none)
  | s :: rest =>
    match s.apply t with
    | .ok t => run t rest
    | .error e => (t, some e)

/-- The tree after all the steps. -/
def runAll (t : Tree) (steps : List Step) : Except FileError Tree :=
  steps.foldlM Step.apply t

/-- The steps that replace a file at once: the content goes to a hidden neighbour first, which is
then moved over the file. -/
def replace (l : Location) (content : ByteArray) : List Step :=
  let hidden := l.dropLast ++ ["." ++ l.getLast?.getD "" ++ ".tmp"]
  [.write hidden content, .rename hidden l]

end Step

end SuiteBench
