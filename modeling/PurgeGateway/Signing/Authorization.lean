import PurgeGateway.Credentials.Basic
import PurgeGateway.Net.Url
import PurgeGateway.Signing.Digest
import PurgeGateway.Text.Base64

/-!
# Authorization of requests

A request is authorized by a keyed hash over its parts, joined by tabs. The key is itself a keyed
hash of the time under the secret of the client. Of the body only the first 128 KiB count, and only
in a `POST`.

## Main definitions

* `Signing.dataToSign`: the text that is hashed.
* `Signing.authorization`: the value of the `Authorization` header.
-/

namespace PurgeGateway.Signing

/-- The number of bytes of a body that are hashed. -/
def maxHashed : Nat := 131072

/-- The keyed hash of bytes in base64. -/
def keyedHash (key message : List UInt8) : String :=
  Base64.encodePadded (Digest.hmac key message)

/-- The hash of a body, empty unless it is that of a `POST` and not empty itself. -/
def contentHash (method : String) (body : List UInt8) : String :=
  if method = "POST" ∧ ¬body.isEmpty then
    Base64.encodePadded (Digest.sha256 (body.take maxHashed))
  else ""

/-- What the header says before the signature: the tokens, the time, and a number used once. -/
def header (c : Credentials) (timestamp nonce : String) : String :=
  "EG1-HMAC-SHA256 client_token=" ++ c.clientToken ++ ";access_token=" ++ c.accessToken ++
    ";timestamp=" ++ timestamp ++ ";nonce=" ++ nonce ++ ";"

/-- The parts of a request that are signed. -/
def signedParts (c : Credentials) (method : String) (url : Net.Url) (body : List UInt8)
    (timestamp nonce : String) : List String :=
  [method, url.scheme, url.hostAndPort, url.target, "", contentHash method body,
    header c timestamp nonce]

/-- The text that is hashed: the parts with tabs between them. -/
def dataToSign (c : Credentials) (method : String) (url : Net.Url) (body : List UInt8)
    (timestamp nonce : String) : String :=
  "\t".intercalate (signedParts c method url body timestamp nonce)

/-- The signature of a text at a time under a secret. -/
def signature (secret timestamp data : String) : String :=
  let key := keyedHash (Utf8.bytes secret) (Utf8.bytes timestamp)
  keyedHash (Utf8.bytes key) (Utf8.bytes data)

/-- The value of the `Authorization` header of a request. -/
def authorization (c : Credentials) (method : String) (url : Net.Url) (body : List UInt8)
    (timestamp nonce : String) : String :=
  header c timestamp nonce ++ "signature=" ++
    signature c.clientSecret timestamp (dataToSign c method url body timestamp nonce)

end PurgeGateway.Signing
