import PurgeGateway.Template

/-!
# Templates against an exchange

A template is filled in from one half of an exchange at a time. The tags of that half are replaced
by what they name, and the tags of the other half stay as they are spelled.

## Main definitions

* `Half`: a request or a response as tags read it.
* `Half.resolve`: what a tag names; empty when it names nothing.
* `Template.render`: a template with the tags of one half filled in.
-/

namespace PurgeGateway

/-! ### Parts of messages -/

/-- The host that a request is meant for: its `Host` header, else the authority of its target. -/
def Http.Request.host (r : Http.Request) : String :=
  let host := r.headers.lookup "host"
  if host.isEmpty then r.target.authority.getD "" else host

/-- A named part of a request, empty for a name that is none. -/
def Http.Request.part (r : Http.Request) (key : String) : String :=
  match key with
  | "scheme" => r.target.scheme.getD "http"
  | "host" => r.host
  | "path" => r.target.path
  | "query" => r.target.query.getD ""
  | "method" => r.method
  | "proto" => r.version.name
  | "referer" => r.headers.lookup "referer"
  | "body" => Utf8.textLossy r.body
  | _ => ""

/-- A named part of a response, empty for a name that is none. -/
def Http.Response.part (r : Http.Response) (key : String) : String :=
  match key with
  | "status" => Ascii.decimal r.status
  | "body" => Utf8.textLossy r.body
  | "proto" => r.version.name
  | _ => ""

/-! ### Halves of an exchange -/

/-- One half of an exchange, as tags read it. -/
inductive Half
  | request (r : Http.Request)
  | response (r : Http.Response)

namespace Half

/-- Which half it is. -/
def side : Half → Side
  | .request _ => .request
  | .response _ => .response

/-- A named part of the half. -/
def part : Half → String → String
  | .request r => r.part
  | .response r => r.part

/-- The header fields of the half. -/
def headers : Half → Http.Headers
  | .request r => r.headers
  | .response r => r.headers

/-- What a tag names in the half; empty when it names nothing there. -/
def resolve (h : Half) (tag : Tag) : String :=
  if tag.side ≠ h.side then ""
  else
    match tag.subject with
    | .part => h.part tag.key
    | .header => h.headers.lookup tag.key

end Half

namespace Template

/-- What a segment contributes when one half is filled in. -/
def Segment.render (h : Half) : Segment → String
  | .literal text => text
  | .tag t source => if t.side = h.side then h.resolve t else source

/-- The template with the tags of one half filled in. -/
def render (t : Template) (h : Half) : String :=
  String.join (t.segments.map (Segment.render h))

end Template

end PurgeGateway
