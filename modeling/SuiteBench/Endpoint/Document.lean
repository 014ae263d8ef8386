import SuiteBench.Endpoint.Basic
import SuiteBench.Json.Value

/-!
# Endpoint.Document — an endpoint as a document

The document has a field for each column of the catalog.
-/

namespace SuiteBench

/-- The document of an endpoint. -/
def Endpoint.toJson (e : Endpoint) : Json :=
  .object [
    ("id", .ofNat e.id),
    ("service", .string e.service),
    ("path", .string e.path),
    ("http_method", .string e.method.name),
    ("controller_class", .string e.controllerClass),
    ("method_name", .string e.methodName),
    ("path_params", .ofTexts e.pathParams),
    ("has_request_body", .bool e.hasRequestBody),
    ("expected_status_codes", .array (e.expectedStatusCodes.map .ofNat)),
    ("authorization", .string e.authorization.name)]

end SuiteBench
