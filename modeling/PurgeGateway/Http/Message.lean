import PurgeGateway.Http.Header
import PurgeGateway.Http.Target

/-!
# Requests and responses

An exchange is a request and the response to it, both with their whole body in memory.

## Main definitions

* `Http.Request`, `Http.Response`: the two halves of an exchange.
* `Http.Version.name`: how a protocol version is shown.
* `Http.legalStatus`: the numbers that may be a status.
-/

namespace PurgeGateway.Http

/-- The version of the protocol that a message was sent with. -/
inductive Version
  | v09
  | v10
  | v11
  | v2
  | v3
  deriving DecidableEq, Repr, Inhabited

/-- How a version is shown. -/
def Version.name : Version → String
  | .v09 => "HTTP/0.9"
  | .v10 => "HTTP/1.0"
  | .v11 => "HTTP/1.1"
  | .v2 => "HTTP/2.0"
  | .v3 => "HTTP/3.0"

/-- The number may be the status of a response. -/
def legalStatus (n : Nat) : Bool :=
  100 ≤ n && n ≤ 999

/-- The status tells of success. -/
def isSuccess (status : Nat) : Bool :=
  200 ≤ status && status ≤ 299

/-- A request with its whole body. -/
structure Request where
  method : String := "GET"
  target : Target := {}
  version : Version := .v11
  headers : Headers := []
  body : List UInt8 := []
  deriving Repr, Inhabited

/-- A response with its whole body. -/
structure Response where
  status : Nat := 200
  version : Version := .v11
  headers : Headers := []
  body : List UInt8 := []
  deriving Repr, Inhabited

end PurgeGateway.Http
