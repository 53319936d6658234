import PurgeGateway.Http.Header
import PurgeGateway.Json.Printer
import PurgeGateway.Json.Reader
import PurgeGateway.Purge.Error
import PurgeGateway.Text.Blank

/-!
# Purge requests

A purge request asks that some objects be taken out of the caches of an edge network. It comes as
a JSON object, or as an array of the same values in a fixed order. Its type stays a text until the
request is routed, so that a type that does not exist is told apart from a request that cannot be
read.

## Main definitions

* `Purge.acceptsContentType`: the header fields announce JSON.
* `Purge.Request.ofBytes`: the request that a body writes.
* `Purge.Request.url`: the address at which the invalidation is asked for.
* `Purge.Request.objects`: the body sent there.
-/

namespace PurgeGateway.Purge

/-! ### Content type -/

/-- The byte is one of the visible characters, a space or a tab. -/
def plainByte (b : UInt8) : Bool :=
  (0x20 ≤ b && b < 0x7f) || b == 0x09

/-- The first content type as a text; empty when there is none, or one with bytes that are not
plain. -/
def contentType (headers : Http.Headers) : String :=
  match headers.first? "content-type" with
  | some value => if value.all plainByte then Utf8.textLossy value else ""
  | none => ""

/-- The media type of a content type: what stands before the parameters. -/
def mediaType (contentType : String) : String :=
  Text.trim (String.ofList (contentType.toList.takeWhile (· != ';')))

/-- The media type that a purge request must have. -/
def jsonMediaType : String := "application/json"

/-- The header fields announce JSON, with any parameters. -/
def acceptsContentType (headers : Http.Headers) : Bool :=
  Ascii.sameLetters (mediaType (contentType headers)) jsonMediaType

/-! ### What is asked for -/

/-- What the paths of a request name. -/
inductive Kind
  | urls
  | cacheTags
  deriving DecidableEq, Repr, Inhabited

/-- The kind that a purge type names. -/
def Kind.ofText? (s : String) : Option Kind :=
  if s = "urls" then some .urls
  else if s = "cache-tags" then some .cacheTags
  else none

/-- The part of the address that stands for a kind. -/
def Kind.segment : Kind → String
  | .urls => "url"
  | .cacheTags => "tag"

/-- What is to happen to the objects. -/
inductive Action
  | invalidate
  | delete
  deriving DecidableEq, Repr, Inhabited

/-- The name of an action. -/
def Action.name : Action → String
  | .invalidate => "invalidate"
  | .delete => "delete"

/-- The network whose caches are meant. -/
inductive Network
  | production
  | staging
  deriving DecidableEq, Repr, Inhabited

/-- The name of a network. -/
def Network.name : Network → String
  | .production => "production"
  | .staging => "staging"

/-- A purge request that can be read. -/
structure Request where
  purgeType : String
  action : Action
  network : Network
  paths : List String
  warm : Bool := false
  deriving DecidableEq, Repr, Inhabited

/-! ### Reading -/

/-- Why a body is no purge request. -/
inductive PayloadFault
  | notJson
  | malformed
  | noPaths
  deriving DecidableEq, Repr, Inhabited

/-- A name among alternatives, given as a text or as an object whose only member is null under
that name. -/
def choice? {α : Type} (alternatives : List (String × α)) (j : Json) : Option α :=
  let named (name : String) : Option α := (alternatives.find? (·.1 == name)).map (·.2)
  match j with
  | .text name => named name
  | .object [(name, .null)] => named name
  | _ => none

/-- The action that a value names. -/
def Action.ofJson? : Json → Option Action :=
  choice? [("invalidate", .invalidate), ("delete", .delete)]

/-- The network that a value names. -/
def Network.ofJson? : Json → Option Network :=
  choice? [("production", .production), ("staging", .staging)]

/-- The text that a value is. -/
def textOf? : Json → Option String
  | .text s => some s
  | _ => none

/-- The texts that a value lists. -/
def textsOf? : Json → Option (List String)
  | .array items => items.mapM textOf?
  | _ => none

/-- Whether to warm, from the value that says so; no value says no. -/
def warmOf? : Option Json → Option Bool
  | none => some false
  | some (.bool b) => some b
  | some _ => none

namespace Request

/-- A request from the values of its members. -/
def ofParts? (purgeType action network paths : Json) (warm : Option Json) : Option Request := do
  let purgeType ← textOf? purgeType
  let action ← Action.ofJson? action
  let network ← Network.ofJson? network
  let paths ← textsOf? paths
  let warm ← warmOf? warm
  some { purgeType, action, network, paths, warm }

/-- The request that a value writes. Members that it does not know are passed over. -/
def ofJson? : Json → Option Request
  | .object members => do
    let purgeType ← lastMember? members "purgeType"
    let action ← lastMember? members "actionType"
    let network ← lastMember? members "environment"
    let paths ← lastMember? members "paths"
    ofParts? purgeType action network paths (lastMember? members "postPurgeRequest")
  | .array [purgeType, action, network, paths] => ofParts? purgeType action network paths none
  | .array [purgeType, action, network, paths, warm] =>
    ofParts? purgeType action network paths (some warm)
  | _ => none

/-- The request that a body writes, or what is wrong with the body. -/
def ofBytes (body : List UInt8) : Except PayloadFault Request :=
  match Json.parse? body with
  | none => .error .notJson
  | some j =>
    match ofJson? j with
    | none => .error .malformed
    | some r => if r.paths.isEmpty then .error .noPaths else .ok r

/-! ### Routing -/

/-- The address at which the invalidation is asked for, if the purge type exists. -/
def url? (r : Request) (base : String) : Option String :=
  (Kind.ofText? r.purgeType).map fun kind =>
    Text.trimEndOf '/' base ++ "/ccu/v3/" ++ r.action.name ++ "/" ++ kind.segment ++ "/" ++
      r.network.name

/-- The value that is sent there: the paths under one name. -/
def objects (r : Request) : Json :=
  .object [("objects", .array (r.paths.map .text))]

end Request

end PurgeGateway.Purge
