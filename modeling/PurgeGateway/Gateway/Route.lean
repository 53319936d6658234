import PurgeGateway.Http.Stream

/-!
# Routes

The gateway serves three paths, each with methods of its own. A path is compared as it was sent. On
any other path nothing is found; on a known path with any other method the caller is told which
methods there are.

## Main definitions

* `Gateway.Route`: the paths that are served.
* `Gateway.destination`: where a request leads.
* `Gateway.outside`: what is done to every reply last of all.
-/

namespace PurgeGateway.Gateway

/-- A path that is served. -/
inductive Route
  | purge
  | health
  | metrics
  deriving DecidableEq, Repr, Inhabited

namespace Route

/-- All routes. -/
def all : List Route :=
  [.purge, .health, .metrics]

/-- The path of a route. -/
def path : Route → String
  | .purge => "/api/v1/purge"
  | .health => "/health"
  | .metrics => "/metrics"

/-- The methods of a route. -/
def methods : Route → List String
  | .purge => ["POST"]
  | .health => ["GET", "HEAD"]
  | .metrics => ["GET", "HEAD"]

/-- The header field that tells the methods of a route. -/
def allowHeader (r : Route) : Http.Header :=
  ⟨"allow", Utf8.bytes (",".intercalate r.methods)⟩

end Route

/-- Where a request leads: to a route, to a route that lacks its method, or nowhere. -/
inductive Destination
  | route (r : Route)
  | wrongMethod (r : Route)
  | nowhere
  deriving DecidableEq, Repr, Inhabited

/-- Where a request leads. -/
def destination (request : Http.Request) : Destination :=
  match Route.all.find? (·.path == request.target.path) with
  | none => .nowhere
  | some r => if r.methods.contains request.method then .route r else .wrongMethod r

/-- The reply to a request whose method is wrong. -/
def wrongMethodReply : Http.Reply :=
  .ofResponse { status := 405 }

/-! ### Outside of all layers -/

/-- The reply with the methods of the route, if that of the request is none of them. -/
def withAllow (request : Http.Request) (reply : Http.Reply) : Http.Reply :=
  match destination request with
  | .wrongMethod r => { reply with headers := reply.headers ++ [r.allowHeader] }
  | _ => reply

/-- The reply without its body, if the request only asks for the head. -/
def withoutBody (request : Http.Request) (reply : Http.Reply) : Http.Reply :=
  if request.method = "HEAD" then { reply with body := .ofBytes [] } else reply

/-- The reply as it goes out. -/
def outside (request : Http.Request) (reply : Http.Reply) : Http.Reply :=
  withoutBody request (withAllow request reply)

end PurgeGateway.Gateway
