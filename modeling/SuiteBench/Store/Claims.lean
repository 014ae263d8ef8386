import SuiteBench.Store.Repository

/-!
# Store.Claims — one writer for each run

Whoever writes a run holds a claim on it.  The store keeps the set of claimed runs; a claim that is
dropped, or whose run is discarded, leaves the set.  A store in use answers its writers one after
another.
-/

namespace SuiteBench

/-- The claimed runs and the claims that are held, by name. -/
structure Claims where
  claimed : List RunKey
  held : List (String × RunKey)
  deriving DecidableEq, Repr

namespace Claims

/-- No claim is held. -/
def none : Claims := ⟨[], []⟩

/-- The run that a claim is on. -/
def key? (c : Claims) (name : String) : Option RunKey := c.held.lookup name

/-- The claims without one that is dropped. -/
def drop (c : Claims) (name : String) : Claims :=
  match c.key? name with
  | some k => ⟨c.claimed.filter (· != k), c.held.filter fun h => h.1 != name⟩
  | .none => c

/-- The claims with one more, which takes the place of one of the same name. -/
def claim (c : Claims) (name : String) (k : RunKey) : Except StoreError Claims :=
  if c.claimed.contains k then .error (.alreadyClaimed k)
  else
    let c := c.drop name
    .ok ⟨k :: c.claimed, (name, k) :: c.held⟩

/-- The tree after a record is saved under a claim on `k`, with the error if it is refused or cut
short. -/
def save (k : RunKey) (d : ResultsDir) (t : Tree) (r : RunRecord) : Tree × Option StoreError :=
  if k = r.key then
    let (t, e) := Step.run t (Store.saveSteps d r)
    (t, e.map .file)
  else (t, some (.claimMismatch k r.key))

end Claims

/-- A store in use: its tree and the claims on its runs, which all its copies share. -/
structure Custody where
  tree : Tree
  claims : Claims

namespace Custody

/-- What a writer asks of a store; it knows its claims by name. -/
inductive Request where
  | claim (name : String) (k : RunKey)
  | save (name : String) (r : RunRecord)
  | drop (name : String)
  /-- Removes the directory of the claimed run and gives the claim up. -/
  | discard (name : String)

/-- What a writer is told. -/
inductive Answer where
  | done
  | refused (cause : StoreError)
  /-- No claim of this name is held. -/
  | unheld
  deriving DecidableEq, Repr

/-- The answer that an outcome means. -/
def Answer.of : Option StoreError → Answer
  | some e => .refused e
  | none => .done

/-- The answer to a request, and the store after it. -/
def perform (d : ResultsDir) (s : Custody) : Request → Answer × Custody
  | .claim name k =>
    match s.claims.claim name k with
    | .ok c => (.done, { s with claims := c })
    | .error e => (.refused e, s)
  | .save name r =>
    match s.claims.key? name with
    | none => (.unheld, s)
    | some k =>
      let (t, e) := Claims.save k d s.tree r
      (.of e, { s with tree := t })
  | .drop name =>
    match s.claims.key? name with
    | none => (.unheld, s)
    | some _ => (.done, { s with claims := s.claims.drop name })
  | .discard name =>
    match s.claims.key? name with
    | none => (.unheld, s)
    | some k =>
      let (t, e) := Step.run s.tree (Store.discardSteps d s.tree k)
      (.of (e.map .file), ⟨t, s.claims.drop name⟩)

/-- The store after some requests. -/
def after (d : ResultsDir) (s : Custody) (requests : List Request) : Custody :=
  requests.foldl (fun s q => (s.perform d q).2) s

end Custody

end SuiteBench
