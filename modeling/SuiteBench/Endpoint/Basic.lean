import SuiteBench.Names
import SuiteBench.Text.Case
import SuiteBench.Text.Lines

/-!
# Endpoint.Basic — one endpoint under benchmark

The HTTP method, the authorization and the handler of an endpoint, as a row of the catalog gives
them.  Names are read without regard to case and to blanks around them.
-/

namespace SuiteBench

/-- The methods an endpoint may use. -/
inductive HttpMethod where
  | get | post | put | delete | patch | head | options
  deriving DecidableEq, Repr

namespace HttpMethod

/-- Every method. -/
def all : List HttpMethod := [get, post, put, delete, patch, head, options]

/-- The name of a method. -/
def name : HttpMethod → String
  | get => "GET"
  | post => "POST"
  | put => "PUT"
  | delete => "DELETE"
  | patch => "PATCH"
  | head => "HEAD"
  | options => "OPTIONS"

/-- The method that `s` names. -/
def read (s : String) : Except NameError HttpMethod :=
  match all.find? fun m => m.name == Text.upper (Text.trim s) with
  | some m => .ok m
  | none => .error (.httpMethod s)

end HttpMethod

/-- What an endpoint demands of its caller. -/
inductive Authorization where
  | none | user | admin
  deriving DecidableEq, Repr

namespace Authorization

/-- The name of an authorization. -/
def name : Authorization → String
  | none => "none"
  | user => "user"
  | admin => "admin"

/-- The text without `role_` in front, if it has it. -/
def withoutRole (cs : List Char) : List Char :=
  (Text.stripFront? "role_".toList cs).getD cs

/-- The authorization that `s` names; an empty text and `public` mean none. -/
def read (s : String) : Except NameError Authorization :=
  match String.ofList (withoutRole (Text.lower (Text.trim s)).toList) with
  | "" | "none" | "public" => .ok none
  | "user" => .ok user
  | "admin" => .ok admin
  | _ => .error (.authorization s)

end Authorization

/-- One endpoint under benchmark. -/
structure Endpoint where
  id : Nat
  service : String
  path : String
  method : HttpMethod
  /-- The full name of the handler class the tool is pointed at. -/
  controllerClass : String
  methodName : String
  pathParams : List String
  hasRequestBody : Bool
  expectedStatusCodes : List Nat
  authorization : Authorization
  deriving DecidableEq, Repr

namespace Endpoint

/-- The class name without its package. -/
def simpleClassName (e : Endpoint) : String :=
  String.ofList (e.controllerClass.toList.reverse.takeWhile (· != '.')).reverse

/-- Method and path, as reports show them. -/
def route (e : Endpoint) : String := e.method.name ++ " " ++ e.path

end Endpoint

end SuiteBench
