import SuiteBench.Endpoint.Basic
import SuiteBench.Csv.Table

/-!
# Endpoint.Catalog — the endpoints under benchmark

A catalog is read from a table with a header, one endpoint a row.  Its endpoints are numbered 1, 2,
3 and so on without a gap, in whatever order the rows stand; the first row that cannot be taken
decides the error, and gaps are looked for only when every row could be.
-/

namespace SuiteBench

/-- An endpoint id outside the catalog. -/
structure InvalidEndpoint where
  id : Nat
  max : Nat
  deriving DecidableEq, Repr

/-- The wording of an `InvalidEndpoint`. -/
def InvalidEndpoint.message (e : InvalidEndpoint) : String :=
  "Invalid endpoint id " ++ Decimal.ofNat e.id ++ ": catalog defines endpoints 1..=" ++
    Decimal.ofNat e.max

/-- Why a catalog cannot be used. -/
inductive CatalogError where
  | missing (path : String)
  | read (cause : Csv.ReadError)
  | malformed (line : Nat) (what : String)
  | duplicateId (id line : Nat)
  | gap (expected found : Nat)
  | empty
  deriving DecidableEq, Repr

/-- The wording of a `CatalogError`. -/
def CatalogError.message : CatalogError → String
  | .missing path => "Catalog not found: " ++ path
  | .read cause => "Failed to read catalog: " ++ cause.message
  | .malformed line what =>
    "Malformed catalog row at line " ++ Decimal.ofNat line ++ ": " ++ what
  | .duplicateId id line =>
    "Duplicate endpoint id " ++ Decimal.ofNat id ++ " at line " ++ Decimal.ofNat line
  | .gap expected found => "Endpoint ids must be dense starting at 1: expected " ++
      Decimal.ofNat expected ++ ", found " ++ Decimal.ofNat found
  | .empty => "Catalog contains no endpoints"

/-- The endpoints under benchmark, in the order of their ids. -/
structure Catalog where
  endpoints : List Endpoint
  deriving DecidableEq, Repr

namespace Catalog

/-- The columns that a catalog may have, those that it must have first. -/
def requiredColumns : List String :=
  ["id", "service", "path", "http_method", "controller_class", "method_name"]

/-- The columns that may be left out. -/
def optionalColumns : List String :=
  ["path_params", "has_request_body", "expected_status_codes", "authorization"]

/-- The pieces of a list cell between semicolons, bars and commas, trimmed, without empty ones. -/
def splitList (s : String) : List String :=
  ((Text.splitOnP (fun c => c == ';' || c == '|' || c == ',') s.toList).map fun p =>
    String.ofList (Text.trimChars p)).filter (· != "")

/-- The truth value that a cell names; an empty cell means no. -/
def readFlag? (s : String) : Option Bool :=
  match Text.lower (Text.trim s) with
  | "" | "false" | "no" | "0" => some false
  | "true" | "yes" | "1" => some true
  | _ => none

/-- A status code of three digits, from 100 to 599. -/
def readStatusCode? (s : String) : Option Nat :=
  match Decimal.readNat Decimal.max16 s.toList with
  | .ok n => if 100 ≤ n && n ≤ 599 then some n else none
  | .error _ => none

/-- The first column of the catalog that the header names twice. -/
def duplicateColumn? (header : List String) : Option String :=
  (header.zipIdx.find? fun (h, i) =>
    (requiredColumns ++ optionalColumns).contains h && (header.take i).contains h).map (·.1)

/-- The endpoint of one row, given its cells by column name. -/
def endpointOf (cell : String → String) : Except String Endpoint := do
  let id ← match Decimal.readNat Decimal.max32 (cell "id").toList with
    | .ok n => pure n
    | .error _ => throw ("id '" ++ cell "id" ++ "' is not a positive integer")
  if id == 0 then throw "id must start at 1"
  for field in ["service", "path", "controller_class", "method_name"] do
    if (cell field).isEmpty then throw (field ++ " cannot be empty")
  let method ← (HttpMethod.read (cell "http_method")).mapError NameError.message
  let authorization ← (Authorization.read (cell "authorization")).mapError NameError.message
  let hasRequestBody ← match readFlag? (cell "has_request_body") with
    | some b => pure b
    | none => throw ("has_request_body '" ++ cell "has_request_body" ++ "' is not a boolean")
  let codes ← (splitList (cell "expected_status_codes")).mapM fun code =>
    match readStatusCode? code with
    | some n => .ok n
    | none => .error ("invalid status code '" ++ code ++ "'")
  return { id, service := cell "service", path := cell "path", method
           controllerClass := cell "controller_class", methodName := cell "method_name"
           pathParams := splitList (cell "path_params"), hasRequestBody
           expectedStatusCodes := codes, authorization }

/-- The endpoint of a row under a header. -/
def endpointOfRow (header : List String) (row : Csv.Row) : Except CatalogError Endpoint := do
  let malformed (what : String) : CatalogError := .malformed row.position.line what
  if let some name := duplicateColumn? header then
    throw (malformed (Csv.ReadError.duplicateField row.position name).message)
  if let some name := requiredColumns.find? fun c => !header.contains c then
    throw (malformed (Csv.ReadError.missingField row.position name).message)
  (endpointOf fun c => (Csv.lookup header row.cells c).getD "").mapError malformed

/-- The endpoints of the rows in their order; no id may come twice. -/
def collect (header : List String) :
    List Endpoint → List (Except Csv.ReadError Csv.Row) → Except CatalogError (List Endpoint)
  | seen, [] => .ok seen.reverse
  | _, .error e :: _ => .error (.read e)
  | seen, .ok row :: rest =>
    match endpointOfRow header row with
    | .error e => .error e
    | .ok e =>
      if seen.any fun s => s.id == e.id then .error (.duplicateId e.id row.position.line)
      else collect header (e :: seen) rest

/-- The first place, counted from `n`, where the ids are not `n`, `n + 1` and so on. -/
def firstGap? : Nat → List Endpoint → Option (Nat × Nat)
  | _, [] => none
  | n, e :: es => if e.id = n then firstGap? (n + 1) es else some (n, e.id)

/-- The catalog of a table. -/
def ofTable (t : Csv.Table) : Except CatalogError Catalog := do
  let header ← t.header.mapError CatalogError.read
  let endpoints ← collect header [] t.rows
  if endpoints.isEmpty then throw .empty
  let sorted := endpoints.mergeSort fun a b => a.id ≤ b.id
  match firstGap? 1 sorted with
  | some (expected, found) => throw (.gap expected found)
  | none => return ⟨sorted⟩

/-- How a catalog table is read: lines starting with `#` are comments, cells are trimmed. -/
def format : Csv.Options := ⟨some 35, true, false⟩

/-- The catalog that `bytes` hold. -/
def ofBytes (bytes : ByteArray) : Except CatalogError Catalog := ofTable (format.read bytes)

/-- The number of endpoints. -/
def size (c : Catalog) : Nat := c.endpoints.length

/-- The endpoint with an id. -/
def lookup (c : Catalog) (id : Nat) : Except InvalidEndpoint Endpoint :=
  match (if id = 0 then none else c.endpoints[id - 1]?) with
  | some e => .ok e
  | none => .error ⟨id, c.size⟩

/-- The endpoints to process: one of them, or all. -/
def select (c : Catalog) : Option Nat → Except InvalidEndpoint (List Endpoint)
  | none => .ok c.endpoints
  | some id => (c.lookup id).map fun e => [e]

end Catalog

end SuiteBench
