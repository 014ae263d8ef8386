import SuiteBench.Shell.Utilities.Operands
import SuiteBench.Shell.Wildcard

/-!
# Shell.Utilities.Files — programs that make, move and list files
-/

namespace SuiteBench.Shell.Utilities

open Process

/-- The last component of a path, without a suffix. -/
def baseName (path suffix : String) : String :=
  let cs := (path.toList.reverse.dropWhile (· == '/')).takeWhile (· != '/')
  if cs.isEmpty then (if path.isEmpty then "" else "/")
  else
    match Text.stripFront? suffix.toList.reverse cs with
    | some r => if r.isEmpty then String.ofList cs.reverse else String.ofList r.reverse
    | none => String.ofList cs.reverse

/-- The path without its last component. -/
def dirName (path : String) : String :=
  let cs := path.toList.reverse.dropWhile (· == '/')
  let rest := (cs.dropWhile (· != '/')).dropWhile (· == '/')
  if rest.isEmpty then (if path.toList.head? == some '/' then "/" else ".")
  else String.ofList rest.reverse

/-- Prints the last components of paths. -/
def printBaseNames (args : List String) (p : Process) : Process :=
  let (fs, args) := options ['s'] args
  let suffix := (fs.value? 's').getD ""
  match args with
  | [] => missingOperand "basename" p
  | paths =>
    if fs.has 'a' || fs.has 's' then
      (p.say 1 (String.join (paths.map fun a => baseName a suffix ++ "\n"))).withStatus 0
    else match paths with
      | _ :: _ :: x :: _ => p.misused "basename" ("extra operand '" ++ x ++ "'")
      | [a, end_] => (p.say 1 (baseName a end_ ++ "\n")).withStatus 0
      | [a] => (p.say 1 (baseName a "" ++ "\n")).withStatus 0
      | [] => p

/-- Prints paths without their last components. -/
def printDirNames (args : List String) (p : Process) : Process :=
  match (options [] args).2 with
  | [] => missingOperand "dirname" p
  | paths => (p.say 1 (String.join (paths.map fun a => dirName a ++ "\n"))).withStatus 0

/-- Numbers the lines of a byte sequence. -/
def numbered (bytes : List UInt8) : List UInt8 :=
  (((byteLines bytes).zipIdx 1).map fun (l, i) =>
    let n := Decimal.digits i
    ((List.replicate (6 - n.length) ' ' ++ n ++ ['\t']).map fun c => c.toNat.toUInt8) ++ l).flatten

/-- Makes the marks of a byte sequence visible: tabs and line ends. -/
def visible (bytes : List UInt8) : List UInt8 :=
  bytes.flatMap fun b =>
    if b = 9 then [94, 73] else if b = 10 then [36, 10]
    else if b < 32 then [94, b + 64] else [b]

/-- Writes files one after another. -/
def cat (args : List String) (p : Process) : Process :=
  let (fs, args) := options [] args
  each (if args.isEmpty then ["-"] else args) (fun a => take "cat" a fun bytes p =>
    let bytes := if fs.has 'n' then numbered bytes else bytes
    p.write 1 (if fs.has 'A' then visible bytes else bytes)) p

/-- Makes files that are not there. -/
def touch (args : List String) (p : Process) : Process :=
  match (options ['d', 't', 'r'] args).2 with
  | [] => p.misused "touch" "missing file operand"
  | files =>
    each files (fun a p =>
      match p.entry? a with
      | some _ => p
      | none => match p.target a with
        | .ok l => p.act (.put l (.file .empty false))
        | .error e => p.complain "touch" ("cannot touch '" ++ a ++ "': " ++ reason e)) p

/-- Makes a directory and, if asked to, those above it. -/
def makeDirectory (above : Bool) (a : String) (p : Process) : Process :=
  if above then
    let q : Path := ⟨a⟩
    let l := q.locate p.cwd
    match l.way.foldl (fun (acc : Process × Bool) k =>
        match acc.1.tree.find? k with
        | some .directory => acc
        | some (.file ..) => (acc.1, true)
        | none => if acc.2 then acc else (acc.1.act (.put k .directory), false)) (p, false) with
    | (p, true) => p.complain "mkdir" ("cannot create directory '" ++ a ++ "': " ++
        reason (if (p.tree.find? l).isSome then .alreadyThere else .notADirectory))
    | (p, false) => p
  else match p.target a with
    | .ok l =>
      if (p.tree.find? l).isSome
      then p.complain "mkdir" ("cannot create directory '" ++ a ++ "': File exists")
      else p.act (.put l .directory)
    | .error e => p.complain "mkdir" ("cannot create directory '" ++ a ++ "': " ++ reason e)

/-- Makes directories. -/
def makeDirectories (args : List String) (p : Process) : Process :=
  let (fs, args) := options ['m'] args
  if args.isEmpty then missingOperand "mkdir" p else each args (makeDirectory (fs.has 'p')) p

/-- Removes a file or, if asked to, a directory. -/
def remove (deep force : Bool) (a : String) (p : Process) : Process :=
  match p.reach a with
  | .ok (l, .file ..) => p.act (.clear l)
  | .ok (l, .directory) =>
    if deep then p.act (.clear l)
    else p.complain "rm" ("cannot remove '" ++ a ++ "': Is a directory")
  | .error e =>
    if force then p else p.complain "rm" ("cannot remove '" ++ a ++ "': " ++ reason e)

/-- Removes files and directories. -/
def removeAll (args : List String) (p : Process) : Process :=
  let (fs, args) := options [] args
  if args.isEmpty && !fs.has 'f' then missingOperand "rm" p
  else each args (remove (fs.has 'r' || fs.has 'R') (fs.has 'f')) p

/-- Removes an empty directory. -/
def removeDirectory (a : String) (p : Process) : Process :=
  match p.reach a with
  | .ok (l, .directory) =>
    if (p.tree.children l).isEmpty then p.act (.clear l)
    else p.complain "rmdir" ("failed to remove '" ++ a ++ "': Directory not empty")
  | .ok (_, .file ..) => p.complain "rmdir" ("failed to remove '" ++ a ++ "': Not a directory")
  | .error e => p.complain "rmdir" ("failed to remove '" ++ a ++ "': " ++ reason e)

/-- Removes empty directories. -/
def removeDirectories (args : List String) (p : Process) : Process :=
  let (_, args) := options [] args
  if args.isEmpty then missingOperand "rmdir" p else each args removeDirectory p

/-- Copies what stands at a location, with everything below it. -/
def copyTree (source target : Location) (p : Process) : Process :=
  (p.tree.entries.filter fun (k, _) => source.isPrefixOf k).foldl (fun p (k, e) =>
    p.act (.put (target ++ k.drop source.length) e)) p

/-- Copies or moves a file or directory. -/
def transfer (command : String) (moves deep : Bool) (source target : String) (p : Process) : Process :=
  match p.reach source with
  | .error e => p.complain command ("cannot stat '" ++ source ++ "': " ++ reason e)
  | .ok (l, e) =>
    if e.isDirectory && !moves && !deep then
      p.complain command ("-r not specified; omitting directory '" ++ source ++ "'")
    else
    let goal : Except FileError Location := match p.reach target with
      | .ok (k, .directory) => .ok (k ++ [baseName source ""])
      | _ => p.target target
    match goal with
    | .error e =>
      p.complain command ((if moves then "cannot move '" ++ source ++ "' to '" ++ target ++ "': "
        else "cannot create regular file '" ++ target ++ "': ") ++ reason e)
    | .ok k =>
      if k == l then p
      else
        let q := copyTree l k p
        if moves then q.act (.clear l) else q

/-- Copies or moves files. -/
def transferAll (command : String) (moves : Bool) (args : List String) (p : Process) : Process :=
  let (fs, operands) := options [] args
  match operands.reverse with
  | target :: sources@(_ :: _) =>
    each sources.reverse (fun a =>
      transfer command moves (fs.has 'r' || fs.has 'R' || fs.has 'a') a target) p
  | [a] => p.misused command ("missing destination file operand after '" ++ a ++ "'")
  | [] => p.misused command "missing file operand"

/-- The names in a directory in alphabetical order; those with a dot in front only if asked for. -/
def namesIn (p : Process) (l : Location) (hidden : Bool) : List String :=
  (((p.tree.children l).map (·.1)).filter fun n =>
    hidden || n.toList.head? != some '.').mergeSort fun a b => a ≤ b

/-- Lists files and the names in directories. -/
def list (args : List String) (p : Process) : Process :=
  let (fs, args) := options [] args
  let args := (if args.isEmpty then ["."] else args).mergeSort fun a b => a ≤ b
  let names (l : Location) : String :=
    let own := namesIn p l (fs.has 'a' || fs.has 'A')
    String.join (((if fs.has 'a' then [".", ".."] else []) ++ own).map (· ++ "\n"))
  let (missing, files, directories) := args.foldr (fun a (m, f, d) =>
    match p.reach a with
    | .ok (l, .directory) => if fs.has 'd' then (m, a :: f, d) else (m, f, (a, l) :: d)
    | .ok _ => (m, a :: f, d)
    | .error e => ((a, e) :: m, f, d)) ([], [], [])
  let q := missing.foldl (fun p (a, e) =>
    p.complain "ls" ("cannot access '" ++ a ++ "': " ++ reason e)) (p.withStatus 0)
  let q := q.say 1 (String.join (files.map (· ++ "\n")))
  let titled := 1 < args.length
  let blocks := directories.map fun (a, l) => (if titled then a ++ ":\n" else "") ++ names l
  let gap := if files.isEmpty || blocks.isEmpty then "" else "\n"
  (q.say 1 (gap ++ Text.join "\n" blocks)).withStatus (if missing.isEmpty then 0 else 2)

/-- Changes whether files may be executed. -/
def changeMode (args : List String) (p : Process) : Process :=
  match args with
  | mode :: files@(_ :: _) =>
    let cs := mode.toList
    let turnsOn : Option Bool :=
      if cs.all fun c => '0' ≤ c && c ≤ '7' then some (cs.any fun c => "1357".toList.contains c)
      else if !cs.contains 'x' then none
      else some (cs.contains '+' || cs.contains '=')
    if !(cs.all fun c => "01234567ugoarwxXst+-=,".toList.contains c) then
      p.misused "chmod" ("invalid mode: '" ++ mode ++ "'")
    else
    each files (fun a p =>
      match p.reach a, turnsOn with
      | .ok (l, .file c _), some on => p.act (.put l (.file c on))
      | .ok _, _ => p
      | .error e, _ => p.complain "chmod" ("cannot access '" ++ a ++ "': " ++ reason e)) p
  | [a] => p.misused "chmod" ("missing operand after '" ++ a ++ "'")
  | [] => missingOperand "chmod" p

/-- Writes its input to its output and to files. -/
def split (args : List String) (p : Process) : Process :=
  let (fs, files) := options [] args
  let bytes := p.input
  let p := { p with input := [] }.write 1 bytes
  each files (fun a p =>
    match p.openForWriting 99 (fs.has 'a') a with
    | .ok q => (q.write 99 bytes).setSink 99 none
    | .error e => p.complain "tee" (a ++ ": " ++ reason e)) p

/-- The locations below a location with their paths, each directory in front of what it holds. -/
def below (p : Process) : Nat → String → Location → List (String × Location × Nat)
  | depth, path, l =>
    let inside := (p.tree.entries.filter fun (k, _) => l.isPrefixOf k && k != l).map fun (k, _) =>
      (path ++ (if path.toList.getLast? == some '/' then "" else "/") ++
        Text.join "/" (k.drop l.length), k, depth + (k.length - l.length))
    (path, l, depth) :: inside.mergeSort fun a b => decide (a.1 ≤ b.1)

/-- The conditions of a search for files: an option with its value. -/
def conditionsOf : List String → List (String × String)
  | "-print" :: r => conditionsOf r
  | k :: v :: r => (k, v) :: conditionsOf r
  | _ => []

/-- Searches directories for files. -/
def find (args : List String) (p : Process) : Process :=
  let isPath (a : String) : Bool := a.toList.head? != some '-'
  let paths := args.takeWhile isPath
  let conditions := conditionsOf (args.drop paths.length)
  each (if paths.isEmpty then ["."] else paths) (fun a p =>
    match p.reach a with
    | .error e => p.complain "find" ("'" ++ a ++ "': " ++ reason e)
    | .ok (l, _) =>
      let hits := (below p 0 a l).filter fun (path, k, depth) =>
        conditions.all fun (name, v) => match name with
          | "-type" => match p.tree.find? k with
            | some .directory => v == "d"
            | _ => v == "f"
          | "-name" => Wildcard.fits (v.toList.map fun c => (c, false)) (baseName path "").toList
          | "-maxdepth" => depth ≤ (natOf? v).getD 0
          | "-mindepth" => (natOf? v).getD 0 ≤ depth
          | _ => true
      p.say 1 (String.join (hits.map fun (path, _) => path ++ "\n"))) p

end SuiteBench.Shell.Utilities
