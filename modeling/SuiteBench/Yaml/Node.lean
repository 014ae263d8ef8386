import SuiteBench.Yaml.Token

/-!
# Yaml.Node — the tree that a YAML text describes

Tokens are put together to scalars, sequences and mappings.  An anchor gives its node a mark, and an
alias stands for the node with its mark.  A name that is anchored once more gets a new mark, the
number of names so far, which the next new name then shares: of several nodes with one mark the last
counts, also for the aliases in front of it.
-/

namespace SuiteBench.Yaml

/-- A node of a document. -/
inductive Node where
  | scalar (tag : Option String) (style : ScalarStyle) (text : String)
  | sequence (tag : Option String) (items : List Node)
  | mapping (tag : Option String) (pairs : List (Node × Node))
  /-- The node with a mark. -/
  | alias (mark : Nat)

namespace Node

/-- The node where nothing is written. -/
def nothing : Node := .scalar none .plain ""

/-- What has been read of a document: the handles of tags, the marks of the anchored names, and the
marked nodes, those that start last first; a marked node that is still open has no value yet. -/
structure Context where
  handles : List (String × String)
  marks : List (String × Nat)
  marked : List (Nat × Option Node)

/-- What a part of a document leaves: its value, the anchors and the tokens that follow. -/
abbrev Parsed (α : Type) := α × Context × List Token

/-- The full text of a tag. -/
def tagOf? (c : Context) (handle suffix : String) : Option String :=
  if handle.isEmpty then some suffix
  else (c.handles.lookup handle).map fun start => start ++ suffix

/-- Reads an anchor and a tag, in either order. -/
def properties? (c : Context) :
    List Token → Option (Option String × Option String × List Token)
  | .anchor a :: .tag h x :: ts => (tagOf? c h x).map fun t => (some a, some t, ts)
  | .tag h x :: .anchor a :: ts => (tagOf? c h x).map fun t => (some a, some t, ts)
  | .anchor a :: ts => some (some a, none, ts)
  | .tag h x :: ts => (tagOf? c h x).map fun t => (none, some t, ts)
  | ts => some (none, none, ts)

/-- The context in which an anchored node is open. -/
def Context.opened (c : Context) : Option String → Context
  | some a =>
    let mark := c.marks.length
    { c with
      marks := (a, mark) :: c.marks.filter fun m => m.1 != a
      marked := (mark, none) :: c.marked }
  | none => c

/-- The marked nodes with the innermost open one closed: it is the one that started last. -/
def close (n : Node) : List (Nat × Option Node) → List (Nat × Option Node)
  | [] => []
  | (mark, none) :: rest => (mark, some n) :: rest
  | closed :: rest => closed :: close n rest

/-- The result with the node put down under its anchor. -/
def anchored (a : Option String) (r : Parsed Node) : Parsed Node :=
  if a.isSome then (r.1, { r.2.1 with marked := close r.1 r.2.1.marked }, r.2.2) else r

/-- Whether a token closes or continues a block mapping. -/
def endsMappingPart : List Token → Bool
  | .key :: _ | .value :: _ | .blockEnd :: _ => true
  | _ => false

mutual

/-- Reads a node; block collections only where `block` says so, a sequence without indentation of
its own only where `bare` says so. -/
def node? : Nat → Bool → Bool → Context → List Token → Option (Parsed Node)
  | 0, _, _, _, _ => none
  | fuel + 1, block, bare, c, ts =>
    match ts with
    | .alias a :: ts => (c.marks.lookup a).map fun mark => (.alias mark, c, ts)
    | _ => do
      let (anchor, tag, ts') ← properties? c ts
      let inner := c.opened anchor
      let finish (make : List Node → Node) (r : Option (Parsed (List Node))) :=
        r.map fun (xs, c, ts) => anchored anchor (make xs, c, ts)
      let finishPairs (r : Option (Parsed (List (Node × Node)))) :=
        r.map fun (xs, c, ts) => anchored anchor (.mapping tag xs, c, ts)
      match ts', block, bare with
      | .item :: _, _, true => finish (.sequence tag) (bareItems? fuel inner ts')
      | .scalar style text :: ts, _, _ =>
        some (anchored anchor (.scalar tag style text, inner, ts))
      | .openSequence :: ts, _, _ => finish (.sequence tag) (flowItems? fuel true inner ts)
      | .openMapping :: ts, _, _ => finishPairs (flowPairs? fuel true inner ts)
      | .blockSequence :: ts, true, _ => finish (.sequence tag) (blockItems? fuel inner ts)
      | .blockMapping :: ts, true, _ => finishPairs (blockPairs? fuel inner ts)
      | ts, _, _ =>
        if anchor.isSome || tag.isSome then
          some (anchored anchor (.scalar tag .plain "", inner, ts))
        else none

/-- Reads the items of an indented block sequence and its end. -/
def blockItems? : Nat → Context → List Token → Option (Parsed (List Node))
  | 0, _, _ => none
  | fuel + 1, c, ts =>
    match ts with
    | .blockEnd :: ts => some ([], c, ts)
    | .item :: ts => do
      let (n, c, ts) ← match ts with
        | .item :: _ | .blockEnd :: _ => some (nothing, c, ts)
        | _ => node? fuel true false c ts
      (blockItems? fuel c ts).map fun (ns, r) => (n :: ns, r)
    | _ => none

/-- Reads the items of a block sequence that stands at the column of its mapping. -/
def bareItems? : Nat → Context → List Token → Option (Parsed (List Node))
  | 0, _, _ => none
  | fuel + 1, c, ts =>
    match ts with
    | .item :: ts => do
      let (n, c, ts) ←
        match ts with
        | .item :: _ => some (nothing, c, ts)
        | _ => if endsMappingPart ts then some (nothing, c, ts) else node? fuel true false c ts
      (bareItems? fuel c ts).map fun (ns, r) => (n :: ns, r)
    | ts => some ([], c, ts)

/-- Reads the pairs of a block mapping and its end. -/
def blockPairs? : Nat → Context → List Token → Option (Parsed (List (Node × Node)))
  | 0, _, _ => none
  | fuel + 1, c, ts =>
    match ts with
    | .blockEnd :: ts => some ([], c, ts)
    | _ => do
      let (k, c, ts) ← match ts with
        | .key :: ts =>
          if endsMappingPart ts then some (nothing, c, ts) else node? fuel true true c ts
        | _ => none
      let (v, c, ts) ← match ts with
        | .value :: ts =>
          if endsMappingPart ts then some (nothing, c, ts) else node? fuel true true c ts
        | _ => some (nothing, c, ts)
      (blockPairs? fuel c ts).map fun (ps, r) => ((k, v) :: ps, r)

/-- Reads the items of a flow sequence and its end; a pair among them is a mapping of its own. -/
def flowItems? : Nat → Bool → Context → List Token → Option (Parsed (List Node))
  | 0, _, _, _ => none
  | fuel + 1, first, c, ts =>
    match ts with
    | .closeSequence :: ts => some ([], c, ts)
    | _ => do
      let ts ← if first then some ts else match ts with
        | .comma :: ts => some ts
        | _ => none
      match ts with
      | .closeSequence :: ts => return ([], c, ts)
      | .key :: ts =>
        let (k, c, ts) ← match ts with
          | .value :: ts | .comma :: ts | .closeSequence :: ts => some (nothing, c, ts)
          | _ => node? fuel false false c ts
        let (v, c, ts) ← match ts with
          | .value :: .comma :: _ | .value :: .closeSequence :: _ =>
            some (nothing, c, ts.drop 1)
          | .value :: ts => node? fuel false false c ts
          | _ => some (nothing, c, ts)
        (flowItems? fuel false c ts).map fun (ns, r) => (.mapping none [(k, v)] :: ns, r)
      | _ =>
        let (n, c, ts) ← node? fuel false false c ts
        (flowItems? fuel false c ts).map fun (ns, r) => (n :: ns, r)

/-- Reads the pairs of a flow mapping and its end. -/
def flowPairs? : Nat → Bool → Context → List Token → Option (Parsed (List (Node × Node)))
  | 0, _, _, _ => none
  | fuel + 1, first, c, ts =>
    match ts with
    | .closeMapping :: ts => some ([], c, ts)
    | _ => do
      let ts ← if first then some ts else match ts with
        | .comma :: ts => some ts
        | _ => none
      match ts with
      | .closeMapping :: ts => return ([], c, ts)
      | .key :: ts =>
        let (k, c, ts) ← match ts with
          | .value :: _ | .comma :: _ | .closeMapping :: _ => some (nothing, c, ts)
          | _ => node? fuel false false c ts
        let (v, c, ts) ← match ts with
          | .value :: .comma :: _ | .value :: .closeMapping :: _ => some (nothing, c, ts.drop 1)
          | .value :: ts => node? fuel false false c ts
          | _ => some (nothing, c, ts)
        (flowPairs? fuel false c ts).map fun (ps, r) => ((k, v) :: ps, r)
      | _ =>
        let (k, c, ts) ← node? fuel false false c ts
        (flowPairs? fuel false c ts).map fun (ps, r) => ((k, nothing) :: ps, r)

end

/-- The handles that every document knows. -/
def standardHandles : List (String × String) := [("!", "!"), ("!!", "tag:yaml.org,2002:")]

/-- Reads the directives in front of a document; each handle, and the version, only once. -/
def directives? : Bool → List (String × String) → List Token →
    Option (List (String × String) × List Token)
  | versioned, hs, .version major minor :: ts =>
    if versioned || major != 1 || (minor != 1 && minor != 2) then none
    else directives? true hs ts
  | versioned, hs, .handle name start :: ts =>
    if (hs.lookup name).isSome then none else directives? versioned (hs ++ [(name, start)]) ts
  | _, hs, ts => some (hs, ts)

mutual

/-- The number of places that a node takes up: one for a scalar or an alias, and one for either end
of a collection. -/
def size : Node → Nat
  | .scalar .. | .alias _ => 1
  | .sequence _ items => 2 + sizeOfItems items
  | .mapping _ pairs => 2 + sizeOfPairs pairs

/-- The number of places that nodes take up. -/
def sizeOfItems : List Node → Nat
  | [] => 0
  | n :: ns => n.size + sizeOfItems ns

/-- The number of places that pairs of nodes take up. -/
def sizeOfPairs : List (Node × Node) → Nat
  | [] => 0
  | (k, v) :: ps => k.size + v.size + sizeOfPairs ps

end

end Node

/-- A document. -/
structure Document where
  root : Node
  /-- The number of places in it. -/
  size : Nat
  /-- The nodes by their marks, those that start last first. -/
  marked : List (Nat × Node)

namespace Document

/-- The document with this root, and what was read with it. -/
def ofRoot (n : Node) (c : Node.Context) : Document :=
  ⟨n, n.size, c.marked.filterMap fun (mark, n?) => n?.map fun n => (mark, n)⟩

/-- Reads the first document: nothing if there is none. -/
def first? (ts : List Token) : Option (Option Document × List Token) := do
  let fuel := 8 * ts.length + 8
  let explicit := match ts with
    | .version .. :: _ | .handle .. :: _ | .documentStart :: _ => true
    | _ => false
  match ts with
  | [.textEnd] => return (none, ts)
  | _ =>
    let (hs, ts) ← Node.directives? false [] ts
    let c : Node.Context := ⟨hs ++ Node.standardHandles, [], []⟩
    if explicit then
      match ts with
      | .documentStart :: ts =>
        match ts with
        | .version .. :: _ | .handle .. :: _ | .documentStart :: _ | .documentEnd :: _
        | .textEnd :: _ => return (some ⟨Node.nothing, 1, []⟩, ts)
        | _ =>
          let (n, c, ts) ← Node.node? fuel true false c ts
          return (some (ofRoot n c), ts)
      | _ => none
    else
      let (n, c, ts) ← Node.node? fuel true false c ts
      return (some (ofRoot n c), ts)

/-- The only document of a text: nothing if the text holds none, and no answer if the text is wrong
or holds several. -/
def ofText? (text : String) : Option (Option Document) := do
  let (d, ts) ← first? (← Token.ofText? text.toList)
  if ts.dropWhile (· == .documentEnd) == [.textEnd] then return d else none

end Document

end SuiteBench.Yaml
