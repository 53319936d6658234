import PurgeGateway.Exchange
import PurgeGateway.Jwt
import PurgeGateway.Json.Printer

/-!
# Fields of an access record

Templates and a token claim turn an exchange into fields: names with values, in order, where a
name may come more than once. A template that is its own value says nothing about the exchange and
gives no field.

## Main definitions

* `FieldSet`: fields in order.
* `FieldSet.text`: the fields as a JSON object.
* `Extractor`: templates, and where to find the acting user.
* `Extractor.extract`: the fields of an exchange.
-/

namespace PurgeGateway

/-! ### Sets of fields -/

/-- Fields in the order in which they were put in. -/
structure FieldSet where
  entries : List (String × String) := []
  deriving DecidableEq, Repr, Inhabited

namespace FieldSet

/-- The fields with one more at the end. -/
def push (s : FieldSet) (name value : String) : FieldSet :=
  ⟨s.entries ++ [(name, value)]⟩

/-- The fields followed by those of another set. -/
def append (s other : FieldSet) : FieldSet :=
  ⟨s.entries ++ other.entries⟩

/-- The first value under a name. -/
def get? (s : FieldSet) (name : String) : Option String :=
  (s.entries.find? (·.1 == name)).map (·.2)

/-- The names in order. -/
def names (s : FieldSet) : List String :=
  s.entries.map (·.1)

/-- There are no fields. -/
def isEmpty (s : FieldSet) : Bool :=
  s.entries.isEmpty

/-- How many fields there are. -/
def size (s : FieldSet) : Nat :=
  s.entries.length

/-- The fields as a JSON object, repeated names and all. -/
def toJson (s : FieldSet) : Json :=
  .object (s.entries.map fun e => (e.1, .text e.2))

/-- The text of the fields as a JSON object. -/
def text (s : FieldSet) : String :=
  s.toJson.compact

@[simp] theorem entries_push (s : FieldSet) (name value : String) :
    (s.push name value).entries = s.entries ++ [(name, value)] := rfl

@[simp] theorem entries_append (s other : FieldSet) :
    (s.append other).entries = s.entries ++ other.entries := rfl

end FieldSet

/-! ### Taking fields from an exchange -/

/-- Where the acting user is found: a header that holds a token, and a claim in it. -/
structure JwtUser where
  header : String
  claim : String
  deriving DecidableEq, Repr, Inhabited

/-- The field that holds the acting user. -/
def jwtUserField : String := "jwt_user"

/-- What to take from exchanges. -/
structure Extractor where
  templates : List Template := []
  user : Option JwtUser := none
  deriving Repr, Inhabited

namespace Extractor

/-- The field of a template, unless filling it in changes nothing. -/
def field? (h : Half) (t : Template) : Option (String × String) :=
  let value := t.render h
  if value = t.text then none else some (t.displayName, value)

/-- The fields of templates from one half of an exchange. -/
def collect (templates : List Template) (h : Half) : FieldSet :=
  ⟨templates.filterMap (field? h)⟩

/-- The claim that names the acting user. Without a token there is none. -/
def userClaim (x : Extractor) (request : Http.Request) :
    Except Jwt.ClaimError (Option String) :=
  match x.user with
  | none => .ok none
  | some user =>
    let token := request.headers.lookup user.header
    if token.isEmpty then .ok none else Jwt.claim token user.claim

/-- A token is there that cannot be read. -/
def userSkipped (x : Extractor) (request : Http.Request) : Bool :=
  match x.userClaim request with
  | .ok _ => false
  | .error _ => true

/-- The field of the acting user. -/
def userFields (x : Extractor) (request : Http.Request) : FieldSet :=
  match x.userClaim request with
  | .ok (some user) => ⟨[(jwtUserField, user)]⟩
  | _ => {}

/-- The fields from a response. -/
def responseFields (x : Extractor) (response : Http.Response) : FieldSet :=
  collect x.templates (.response response)

/-- The fields from a request, the acting user first. -/
def requestFields (x : Extractor) (request : Http.Request) : FieldSet :=
  (x.userFields request).append (collect x.templates (.request request))

/-- The fields of an exchange: those from the response, then those from the request. -/
def extract (x : Extractor) (request : Http.Request) (response : Http.Response) : FieldSet :=
  (x.responseFields response).append (x.requestFields request)

end Extractor

end PurgeGateway
