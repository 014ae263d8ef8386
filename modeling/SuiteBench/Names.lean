/-!
# Names — texts that name one of a closed set

A text that should name a method, an authorization, a diagnosis or a status and does not.
-/

namespace SuiteBench

/-- A text that names nothing, with the set it should come from. -/
inductive NameError where
  | httpMethod (text : String)
  | authorization (text : String)
  | diagnosis (text : String)
  | generationStatus (text : String)
  deriving DecidableEq, Repr

/-- The wording of a `NameError`. -/
def NameError.message : NameError → String
  | .httpMethod s => "Invalid HTTP method: '" ++ s ++
      "'. Supported methods are: GET, POST, PUT, DELETE, PATCH, HEAD, OPTIONS"
  | .authorization s => "Invalid authorization requirement: '" ++ s ++
      "'. Supported values are: none, user, admin"
  | .diagnosis s => "Invalid error type: '" ++ s ++ "'"
  | .generationStatus s => "Invalid generation status: '" ++ s ++
      "'. Supported values are: SUCCESS, FAILED"

end SuiteBench
