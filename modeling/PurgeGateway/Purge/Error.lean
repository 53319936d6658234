/-!
# Failures of a purge call

A purge call that fails ends with one of six causes. A cause decides the status of the answer, the
text that the caller sees, and the name under which the call is counted. The text tells nothing of
what went wrong inside.

## Main definitions

* `Purge.Error`: the causes.
* `Purge.Error.status`, `Purge.Error.message`, `Purge.Error.outcome`: what follows from a cause.
-/

namespace PurgeGateway.Purge

/-- Why a purge call failed. -/
inductive Error
  | invalidPayload
  | invalidContentType
  | invalidType
  | signingFailed
  | unreachable
  | undecodableReply
  deriving DecidableEq, Repr, Inhabited

namespace Error

/-- The text that the caller sees. -/
def message : Error → String
  | .invalidPayload => "Invalid request payload"
  | .invalidContentType => "Invalid content type"
  | .invalidType => "Invalid purge type"
  | .signingFailed => "Failed to sign the request with given credentials"
  | .unreachable => "Failed to communicate with Akamai"
  | .undecodableReply => "Failed to decode Akamai response"

/-- The caller is at fault. -/
def isClientError : Error → Bool
  | .invalidPayload | .invalidContentType | .invalidType => true
  | .signingFailed | .unreachable | .undecodableReply => false

/-- The status of the answer. -/
def status (e : Error) : Nat :=
  if e.isClientError then 400 else 500

/-- The name under which the failure is counted. -/
def outcome : Error → String
  | .invalidPayload => "invalid_payload"
  | .invalidContentType => "invalid_content_type"
  | .invalidType => "invalid_purge_type"
  | .signingFailed => "signing_failed"
  | .unreachable => "upstream_unreachable"
  | .undecodableReply => "upstream_decode_failed"

end Error

end PurgeGateway.Purge
