import PurgeGateway.Config.Basic
import PurgeGateway.Net.Address

/-!
# Valid configurations

A configuration can be read and still make no sense. The sections are looked at in order, and the
first fault counts.

## Main definitions

* `Config.Fault`: what can be wrong.
* `Config.Warming.headerFields`: the header fields of warming requests.
* `Config.validate`: the first fault of a configuration.
-/

namespace PurgeGateway.Config

/-- What can be wrong with a configuration. -/
inductive Fault
  | listenAddress (address : String)
  | noHost
  | noUserHeader
  | noUserClaim
  | headerName (name : String)
  | headerValue (name : String)
  | tooManyHeaders
  deriving DecidableEq, Repr

/-- What a fault is called. -/
def Fault.description : Fault → String
  | .listenAddress address =>
    "server.listenAddress `" ++ address ++ "` is invalid: invalid socket address syntax"
  | .noHost => "akamai.host is required"
  | .noUserHeader => "logs.jwtUser.header is required when jwtUser is enabled"
  | .noUserClaim => "logs.jwtUser.jwtField is required when jwtUser is enabled"
  | .headerName name => "postPurgeRequest.headers: invalid header name `" ++ name ++ "`"
  | .headerValue name => "postPurgeRequest.headers: invalid value for `" ++ name ++ "`"
  | .tooManyHeaders => "size overflows MAX_SIZE"

/-- The text of a fault. More header fields than there is room for are not reported as a fault: the
program breaks off. -/
def Fault.message : Fault → String
  | .tooManyHeaders => Fault.tooManyHeaders.description
  | f => "validation error: " ++ f.description

/-! ### Sections -/

/-- The address that the listener waits at. -/
def Listener.socketAddress (l : Listener) : Except Fault Net.SocketAddress :=
  match Net.SocketAddress.ofText? l.address with
  | some a => .ok a
  | none => .error (.listenAddress l.address)

/-- The API has a host. -/
def Api.validate (a : Api) : Except Fault Unit :=
  if Text.blankText a.host then .error .noHost else .ok ()

/-- The acting user can be looked for. -/
def Logs.validate (l : Logs) : Except Fault Unit :=
  if l.user.enabled && Text.blankText l.user.header then .error .noUserHeader
  else if l.user.enabled && Text.blankText l.user.claim then .error .noUserClaim
  else .ok ()

/-- The header fields with one more from a configured name and value; a field of the same name is
replaced. The name is looked at before the value. -/
def addHeader (fields : Http.Headers) (entry : String × String) : Except Fault Http.Headers :=
  match Http.headerName? (Utf8.bytes entry.1) with
  | none => .error (.headerName entry.1)
  | some name =>
    if Http.legalValue (Utf8.bytes entry.2) then .ok (fields.set name (Utf8.bytes entry.2))
    else .error (.headerValue entry.1)

/-- The most names that room is made for: three quarters of 32768 places. The names are assumed to
spread over the places, so that no crowd of them asks for a larger table; up to 6553 names never
do. -/
def maxHeaderNames : Nat := 24576

/-- The header fields of warming requests. -/
def Warming.headerFields (w : Warming) : Except Fault Http.Headers :=
  if maxHeaderNames < w.headers.entries.length then .error .tooManyHeaders
  else w.headers.entries.foldlM addHeader []

end Config

/-- The first fault of a configuration, if there is one. -/
def Config.validate (c : Config) : Except Config.Fault Unit := do
  let _ ← c.listener.socketAddress
  c.api.validate
  c.logs.validate
  let _ ← c.warming.headerFields

end PurgeGateway
