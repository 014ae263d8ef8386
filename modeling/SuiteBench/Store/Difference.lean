import SuiteBench.Store.Tree
import SuiteBench.Text.Lines

/-!
# Store.Difference — what changed in a tree

A listing names the files below a location and its empty directories, by their relative paths in
ascending order; a directory's path ends in a slash.  Two listings tell what is new.
-/

namespace SuiteBench.Tree

/-- The tree with an entry at `l` and directories on the way to it; nothing changes if there is a file
on the way. -/
def plant (t : Tree) (l : Location) (e : Entry) : Tree :=
  match t.makeDirs l.dropLast with
  | .ok t => t.set l e
  | .error _ => t

/-- The files below a location with their content, and its empty directories. -/
def listing (t : Tree) (below : Location) : List (String × Option ByteArray) :=
  let path (l : Location) : String := Text.join "/" (l.drop below.length)
  (t.entries.filterMap fun (l, e) =>
    if !below.isPrefixOf l || l == below then none
    else match e with
      | .file content _ => some (path l, some content)
      | .directory => if (t.children l).isEmpty then some (path l ++ "/", none) else none).mergeSort
    fun a b => a.1 ≤ b.1

/-- What a listing has that an older one does not have with the same content. -/
def changes (old new : Tree) (below : Location) : List (String × Option ByteArray) :=
  let before := old.listing below
  (new.listing below).filter fun (path, content) =>
    match before.lookup path with
    | some (some was) => content.any fun c => c.toList != was.toList
    | some none => false
    | none => true

end SuiteBench.Tree
