import PurgeGateway.Http.Message
import PurgeGateway.Json.Printer
import PurgeGateway.Notice
import PurgeGateway.Purge.Error

/-!
# Failures of the gateway

Every request that cannot be served is answered with a JSON object that holds one text under
`error`. What failed inside a layer of the gateway is kept out of the answer.

## Main definitions

* `Gateway.Error`: why a request is not served.
* `Gateway.Error.response`: the answer to such a request.
-/

namespace PurgeGateway.Gateway

/-- Why a request is not served. -/
inductive Error
  | purge (cause : Purge.Error)
  | payloadTooLarge (limit : Nat)
  | timeout
  | notFound
  | internal (detail : String)
  deriving DecidableEq, Repr, Inhabited

/-- A failure of a layer around the routes: its time is up, or anything else. -/
inductive LayerFailure
  | elapsed
  | other (detail : String)
  deriving DecidableEq, Repr, Inhabited

namespace Error

/-- The failure that a failed layer comes to. -/
def ofLayer : LayerFailure → Error
  | .elapsed => .timeout
  | .other detail => .internal detail

/-- The text that the caller sees. -/
def message : Error → String
  | .purge cause => cause.message
  | .payloadTooLarge limit =>
    "Payload too large: max " ++ Ascii.decimal limit ++ " bytes allowed"
  | .timeout => "Request timeout"
  | .notFound => "Not found"
  | .internal _ => "Internal server error"

/-- The status of the answer. -/
def status : Error → Nat
  | .purge cause => cause.status
  | .payloadTooLarge _ => 413
  | .timeout => 408
  | .notFound => 404
  | .internal _ => 500

/-- What is told of a failure besides the answer. -/
def notices : Error → List Notice
  | .internal _ => [.failure "middleware failure"]
  | _ => []

end Error

/-- The header field of a JSON body. -/
def jsonHeader : Http.Header :=
  ⟨"content-type", Utf8.bytes "application/json"⟩

/-- An answer whose body is a JSON value. -/
def jsonResponse (status : Nat) (j : Json) : Http.Response :=
  { status, headers := [jsonHeader], body := Utf8.bytes j.compact }

/-- The answer to a request that is not served. -/
def Error.response (e : Error) : Http.Response :=
  jsonResponse e.status (.object [("error", .text e.message)])

end PurgeGateway.Gateway
