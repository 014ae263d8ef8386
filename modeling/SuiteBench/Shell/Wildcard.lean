import SuiteBench.Store.Tree

/-!
# Shell.Wildcard — patterns for names

A pattern is a list of characters with a flag: a quoted character stands for itself, an unquoted
star, question mark or bracket stands for others.
-/

namespace SuiteBench.Shell

/-- A character and whether it is quoted. -/
abbrev MarkedChar := Char × Bool

namespace Wildcard

/-- The members of a bracket up to its end, and the rest of the pattern. -/
def bracket : List MarkedChar → List MarkedChar → Option (List MarkedChar × List MarkedChar)
  | _, [] => none
  | acc, (c, q) :: r =>
    if c == ']' && !q && !acc.isEmpty then some (acc.reverse, r) else bracket ((c, q) :: acc) r

/-- Whether `c` is among the members of a bracket, which may hold ranges. -/
def isMember (c : Char) : List MarkedChar → Bool
  | (a, _) :: ('-', false) :: (b, q) :: r =>
    (a ≤ c && c ≤ b) || isMember c ((b, q) :: r)
  | (a, _) :: r => a == c || isMember c r
  | [] => false

/-- Whether a bracket is open to `c`; an exclamation mark in front turns it round. -/
def admits (c : Char) : List MarkedChar → Bool
  | ('!', false) :: r => !isMember c r
  | r => isMember c r

/-- Whether a pattern covers a text. -/
def covers : Nat → List MarkedChar → List Char → Bool
  | 0, _, _ => false
  | _ + 1, [], cs => cs.isEmpty
  | n + 1, ('*', false) :: p, cs =>
    covers n p cs || match cs with
      | _ :: r => covers n (('*', false) :: p) r
      | [] => false
  | n + 1, ('?', false) :: p, cs =>
    match cs with
    | _ :: r => covers n p r
    | [] => false
  | n + 1, (a, q) :: p, cs =>
    match cs with
    | [] => false
    | c :: r =>
      match (if a == '[' && !q then bracket [] p else none) with
      | some (members, p) => admits c members && covers n p r
      | none => a == c && covers n p r

/-- Whether a pattern covers a text. -/
def fits (p : List MarkedChar) (cs : List Char) : Bool := covers (p.length + cs.length + 1) p cs

/-- Whether a pattern has an unquoted mark. -/
def isPattern (p : List MarkedChar) : Bool :=
  p.any fun (c, q) => !q && (c == '*' || c == '?' || c == '[')

/-- The pieces of a pattern between slashes. -/
def pieces : List MarkedChar → List (List MarkedChar)
  | [] => [[]]
  | (c, q) :: r =>
    match pieces r with
    | [] => [[(c, q)]]
    | p :: ps => if c == '/' then [] :: p :: ps else ((c, q) :: p) :: ps

/-- The names below a location that a piece covers, in alphabetical order. -/
def namesBelow (t : Tree) (l : Location) (p : List MarkedChar) : List String :=
  (((t.children l).map (·.1)).filter fun n =>
    fits p n.toList && (p.head?.map (·.1) == some '.' || n.toList.head? != some '.')).mergeSort
      fun a b => a ≤ b

/-- The paths that the pieces of a pattern cover, each with its location. -/
def paths (t : Tree) : List (List MarkedChar) → List (String × Location) → List (String × Location)
  | [], found => found
  | p :: ps, found =>
    let plain := String.ofList (p.map (·.1))
    let below (x : String × Location) (name : String) : String × Location :=
      (if x.1.isEmpty then name else if x.1 == "/" then x.1 ++ name else x.1 ++ "/" ++ name,
        Path.follow x.2 [name])
    paths t ps (found.flatMap fun x =>
      if isPattern p then (namesBelow t x.2 p).map (below x)
      else if plain.isEmpty then [x]
      else
        let y := below x plain
        if plain == "." || plain == ".." || (t.find? y.2).isSome then [y] else [])

/-- The paths that a pattern covers, or its own text if there is none. -/
def expand (t : Tree) (cwd : Location) (p : List MarkedChar) : List String :=
  let own := [String.ofList (p.map (·.1))]
  if !isPattern p then own
  else
    let absolute := p.head?.map (·.1) == some '/'
    let found := paths t (pieces p) [if absolute then ("/", []) else ("", cwd)]
    if found.isEmpty then own else found.map (·.1)

end Wildcard

end SuiteBench.Shell
