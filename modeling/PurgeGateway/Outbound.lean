import PurgeGateway.Http.Header
import PurgeGateway.Net.Url
import PurgeGateway.Text.Base64

/-!
# Requests that leave the gateway

A request that leaves goes to a URL that has a host. The name and the password of a user in that
URL are taken out of it and sent in an `Authorization` header.

## Main definitions

* `Outbound`: a request that leaves the gateway.
* `Outbound.to?`: the request for an address.
* `Outbound.withFields`: a request with header fields put into it.
-/

namespace PurgeGateway

/-- The body of a request that leaves: bytes at hand, or a stream that can be read once. -/
inductive Payload
  | buffered (bytes : List UInt8)
  | streaming
  deriving DecidableEq, Repr, Inhabited

/-- A request that leaves the gateway. -/
structure Outbound where
  method : String
  url : Net.Url
  headers : Http.Headers := []
  body : Option Payload := none
  deriving DecidableEq, Repr, Inhabited

namespace Outbound

/-! ### Users in addresses -/

/-- The name and the password of a URL, decoded. A password that is no text counts as an empty one.
`none` if there are neither name nor password then, or if the name is no text. -/
def user? (url : Net.Url) : Option (String × String) :=
  match Utf8.text? (Net.percentDecode url.username.toList) with
  | none => none
  | some name =>
    let password := (Utf8.text? (Net.percentDecode url.password.toList)).getD ""
    if name.isEmpty && password.isEmpty then none else some (name, password)

/-- The value that authorizes a user by name and password. -/
def basicAuthorization (name password : String) : String :=
  "Basic " ++ Base64.encodePadded (Utf8.bytes (name ++ ":" ++ password))

/-- The request whose URL names no user, and whose `Authorization` header does. -/
def withUserInHeader (r : Outbound) : Outbound :=
  match user? r.url with
  | none => r
  | some (name, password) =>
    { r with
      url := { r.url with username := "", password := "" }
      headers := r.headers.set "authorization" (Utf8.bytes (basicAuthorization name password)) }

theorem withUserInHeader_url (r : Outbound) :
    r.withUserInHeader.url = if (user? r.url).isSome then
      { r.url with username := "", password := "" } else r.url := by
  rw [withUserInHeader]
  cases user? r.url <;> rfl

@[simp] theorem withUserInHeader_method (r : Outbound) : r.withUserInHeader.method = r.method := by
  rw [withUserInHeader]
  split <;> rfl

@[simp] theorem withUserInHeader_body (r : Outbound) : r.withUserInHeader.body = r.body := by
  rw [withUserInHeader]
  split <;> rfl

/-! ### Making requests -/

/-- The request with header fields put into it, each in the place of those of its name. -/
def withFields (r : Outbound) (fields : Http.Headers) : Outbound :=
  { r with headers := fields.foldl (fun hs h => hs.set h.name h.value) r.headers }

/-- The request for an address, unless that is no URL or has no host. -/
def to? (method address : String) (fields : Http.Headers) (body : Option Payload) :
    Option Outbound :=
  match Net.Url.ofText? address with
  | none => none
  | some url =>
    if url.hostText.isEmpty then none
    else some ((({ method, url, body } : Outbound).withUserInHeader).withFields fields)

/-- A request for an address is for a URL that this is, with the fields put into it. -/
theorem of_to? {method address : String} {fields : Http.Headers} {body : Option Payload}
    {r : Outbound} (h : to? method address fields body = some r) :
    ∃ url, Net.Url.ofText? address = some url ∧
      r = (({ method, url, body } : Outbound).withUserInHeader).withFields fields := by
  rw [to?] at h
  split at h
  · cases h
  · next url hurl =>
    split at h
    · cases h
    · cases h
      exact ⟨url, hurl, rfl⟩

end Outbound

end PurgeGateway
