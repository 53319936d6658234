import PurgeGateway.Credentials.Edgerc
import PurgeGateway.Outbound
import PurgeGateway.Signing.Authorization

/-!
# Signed requests

A request that leaves the gateway is signed by putting an `Authorization` header into it, in the
place of any that it carried. The credentials for that are read from their file each time.

## Main definitions

* `Signing.Stamp`: the time and the number used once of a signature.
* `Signing.sign`: a request signed with the credentials in a file.
* `Signing.Error`: why a request is not signed.
* `Signer`: a way to sign.
-/

namespace PurgeGateway

namespace Signing

/-- The time and the number used once of a signature. -/
structure Stamp where
  timestamp : String
  nonce : String
  deriving DecidableEq, Repr, Inhabited

/-- Why a request is not signed. -/
inductive Error
  | credentials
  | missingCredential (secret : Credentials.Secret)
  | streamingBody
  | header
  deriving DecidableEq, Repr

/-- The text of an error that has one of its own. -/
def Error.message : Error → String
  | .credentials => "failed to read credentials"
  | .missingCredential secret => "credentials are missing `" ++ secret.name ++ "`"
  | .streamingBody => "request body must be buffered to be signed"
  | .header => "authorization header could not be built: failed to parse header value"

/-- The error that unusable credentials come to. -/
def Error.ofLoad : Credentials.LoadError → Error
  | .unreadable => .credentials
  | .missing secret => .missingCredential secret

/-- The bytes of a body that is at hand. -/
def buffered? : Option Payload → Option (List UInt8)
  | none => some []
  | some (.buffered bytes) => some bytes
  | some .streaming => none

/-- The request with a value in its `Authorization` header, if that may be a header value. -/
def authorize (r : Outbound) (value : String) : Except Error Outbound :=
  if Http.legalValue (Utf8.bytes value) then
    .ok { r with headers := r.headers.set "authorization" (Utf8.bytes value) }
  else .error .header

/-- The request signed with the credentials in a file whose content is given, if there is one. The
entries of the file are put down in an order. -/
def sign (file : Option (List UInt8)) (stamp : Stamp) (r : Outbound)
    (order : Nested.Order := []) : Except Error Outbound :=
  match Credentials.load file order with
  | .error e => .error (Error.ofLoad e)
  | .ok c =>
    match buffered? r.body with
    | none => .error .streamingBody
    | some body =>
      authorize r (authorization c r.method r.url body stamp.timestamp stamp.nonce)

end Signing

/-- A way to sign requests, given the content of the credentials file if there is one. -/
abbrev Signer := Option (List UInt8) → Outbound → Except Signing.Error Outbound

/-- The signer that takes the credentials from the file, at a time. In which order it puts down the
entries of the file is not for it to say. -/
def Signer.ofFile (stamp : Signing.Stamp) (order : Nested.Order := []) : Signer :=
  fun file r => Signing.sign file stamp r order

end PurgeGateway
