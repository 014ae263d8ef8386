import SuiteBench.Store.Tree
import SuiteBench.Store.Layout
import SuiteBench.Run.Halves
import SuiteBench.Json.Reader
import SuiteBench.Json.Printer

/-!
# Store.Repository — records in a results tree

A record is two documents in the directory of its run.  Saving is a list of steps, each document
being replaced at once; a run has a record only when both documents are there and name one run.
-/

namespace SuiteBench

/-- Why the store refuses something. -/
inductive StoreError where
  | alreadyClaimed (key : RunKey)
  | claimMismatch (claimed record : RunKey)
  /-- Only one document of the record is there; the path is that of the other. -/
  | incomplete (key : RunKey) (missing : Path)
  /-- The file at this path holds no document of the right form. -/
  | corrupt (path : Path)
  | record (mismatch : HalvesMismatch)
  | file (cause : FileError)
  deriving DecidableEq, Repr

/-- The wording of a `StoreError`. -/
def StoreError.message : StoreError → String
  | .alreadyClaimed k =>
    "Run directory for " ++ k.text ++ " is already claimed by another writer"
  | .claimMismatch c r => "Claim for " ++ c.text ++ " cannot write the record of " ++ r.text
  | .incomplete k p => "Incomplete record for " ++ k.text ++ ": " ++ p.text ++ " is missing"
  | .corrupt p => "Corrupt record file " ++ p.text
  | .record m => m.message
  | .file e => "I/O error: " ++ e.message

/-- A results directory: its path as it is written, and what it names. -/
structure ResultsDir where
  path : Path
  location : Location
  deriving DecidableEq, Repr

namespace ResultsDir

/-- The results directory of a path, seen from the directory `cwd`. -/
def ofPath (cwd : Location) (p : Path) : ResultsDir := ⟨p, p.locate cwd⟩

/-- The location of a run's directory. -/
def runLocation (d : ResultsDir) (k : RunKey) : Location := Layout.runLocation d.location k

/-- The path of a run's directory. -/
def runDir (d : ResultsDir) (k : RunKey) : Path := Layout.runDir d.path k

/-- The location of an endpoint's directory. -/
def endpointLocation (d : ResultsDir) (id : Nat) : Location :=
  Layout.endpointLocation d.location id

/-- The path of an endpoint's directory. -/
def endpointDir (d : ResultsDir) (id : Nat) : Path := Layout.endpointDir d.path id

end ResultsDir

/-- A document as a file: indented, with a line feed at its end. -/
def Json.fileText (j : Json) : ByteArray := (j.pretty ++ "\n").toUTF8

namespace Store

variable (d : ResultsDir) (t : Tree)

/-! ### Saving and loading -/

/-- The steps that save a record. -/
def saveSteps (r : RunRecord) : List Step :=
  let dir := d.runLocation r.key
  .makeDirs dir ::
    Step.replace (dir ++ [Layout.resourceMetrics]) r.metrics.toJson.fileText ++
    Step.replace (dir ++ [Layout.exitStatus]) r.exitStatus.toJson.fileText

/-- The value of a document in a file, or nothing if there is no file. -/
def readDocument {α : Type} (l : Location) (p : Path) (decode : Json → Option α) :
    Except StoreError (Option α) :=
  match t.read l with
  | .error .notFound => .ok none
  | .error e => .error (.file e)
  | .ok bytes => match (Json.ofBytes? bytes).bind decode with
    | some a => .ok (some a)
    | none => .error (.corrupt p)

/-- The record of a run, or nothing if the run has neither document. -/
def load (k : RunKey) : Except StoreError (Option RunRecord) := do
  let dir := d.runLocation k
  let path (name : String) := (d.runDir k).join name
  let metrics ← readDocument t (dir ++ [Layout.resourceMetrics]) (path Layout.resourceMetrics)
    ResourceMetrics.ofJson?
  let status ← readDocument t (dir ++ [Layout.exitStatus]) (path Layout.exitStatus)
    ExitStatus.ofJson?
  match metrics, status with
  | some m, some s => (RunRecord.ofHalves m s).mapError StoreError.record |>.map some
  | none, none => .ok none
  | some _, none => .error (.incomplete k (path Layout.exitStatus))
  | none, some _ => .error (.incomplete k (path Layout.resourceMetrics))

/-- Whether a run has a record that can be read. -/
def hasRecord (k : RunKey) : Bool :=
  match load d t k with
  | .ok (some _) => true
  | _ => false

/-! ### Listing -/

/-- A run directory, with its record if it has one. -/
structure StoredRun where
  key : RunKey
  dir : Path
  record : Option RunRecord

/-- The directories below `l` named by `stem` and a number, in the order of the numbers. -/
def numbered (l : Location) (stem : String) : Except StoreError (List (Nat × String)) :=
  match t.list l with
  | .error .notFound => .ok []
  | .error e => .error (.file e)
  | .ok children =>
    .ok ((children.filterMap fun (name, e) =>
      if e.isDirectory then (Layout.number? name stem).map fun n => (n, name) else none).mergeSort
        fun a b => a.1 ≤ b.1)

/-- The endpoints that have a directory, in ascending order. -/
def listEndpoints : Except StoreError (List Nat) :=
  (numbered t d.location "endpoint").map (·.map (·.1))

/-- The run directories of an endpoint, in the order of the runs; a record that cannot be read counts
as none. -/
def listRuns (endpoint : Nat) : Except StoreError (List StoredRun) :=
  (numbered t (d.endpointLocation endpoint) "run").map (·.map fun (n, name) =>
    let key : RunKey := ⟨endpoint, n⟩
    ⟨key, (d.endpointDir endpoint).join name, ((load d t key).toOption).join⟩)

/-- The records of an endpoint, in the order of the runs. -/
def loadEndpoint (endpoint : Nat) : Except StoreError (List RunRecord) :=
  (listRuns d t endpoint).map (·.filterMap (·.record))

/-- The run directories of an endpoint whose record cannot be read, with the reasons. -/
def unreadable (endpoint : Nat) : List (RunKey × StoreError) :=
  ((listRuns d t endpoint).toOption.getD []).filterMap fun r =>
    match load d t r.key with
    | .error e => some (r.key, e)
    | .ok _ => none

/-! ### Discarding -/

/-- The steps that remove the directory of a run, if there is one. -/
def discardSteps (k : RunKey) : List Step :=
  match t.get (d.runLocation k) with
  | .error .notFound => []
  | _ => [.remove (d.runLocation k)]

/-- The tree after steps, or the failure that stopped them. -/
def perform (steps : List Step) : Except StoreError Tree :=
  (Step.runAll t steps).mapError .file

end Store

end SuiteBench
