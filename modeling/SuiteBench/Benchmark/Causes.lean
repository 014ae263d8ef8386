import SuiteBench.Endpoint.Catalog
import SuiteBench.Execution.Executor
import SuiteBench.Report.Checklist
import SuiteBench.Settings.Check

/-!
# Benchmark.Causes — errors told with their causes

An operator sees an error as a chain of messages, each followed by the message of what caused it.
A message that already quotes its cause is still followed by it.
-/

namespace SuiteBench

/-- The messages of a read error and its causes. -/
def Csv.ReadError.chain (e : Csv.ReadError) : List String :=
  e.message :: (match e with
    | .notText _ field byte =>
      ["invalid utf-8: invalid UTF-8 in field " ++ Decimal.ofNat field ++ " near byte index " ++
        Decimal.ofNat byte]
    | _ => [])

/-- The messages of a catalog error and its causes. -/
def CatalogError.chain (e : CatalogError) : List String :=
  e.message :: (match e with
    | .read cause => cause.chain
    | _ => [])

/-- The messages of a store error and its causes. -/
def StoreError.chain (e : StoreError) : List String :=
  e.message :: (match e with
    | .file cause => [cause.message]
    | _ => [])

/-- The messages of a report error and its causes. -/
def ReportError.chain (e : ReportError) : List String :=
  e.message :: (match e with
    | .store cause => cause.chain
    | .table cause => cause.chain
    | .file cause => [cause.message]
    | .notText => ["stream did not contain valid UTF-8"]
    | _ => [])

/-- The messages of an execution error and its causes. -/
def ExecutionError.chain (e : ExecutionError) : List String :=
  e.message :: (match e with
    | .file cause => [cause.message]
    | _ => [])

/-- The messages of a settings error and its causes. -/
def SettingsError.chain (e : SettingsError) : List String :=
  e.message :: (match e with
    | .unreadable cause => [cause]
    | _ => [])

/-- A chain of messages as one text. -/
def chainText (messages : List String) : String := Text.join ": " messages

end SuiteBench
