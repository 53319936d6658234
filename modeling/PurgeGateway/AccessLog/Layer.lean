import PurgeGateway.Config.Basic
import PurgeGateway.Effect
import PurgeGateway.Gateway.Error

/-!
# The layer of the access log

The access log sits between a caller and whatever handles the request. It takes in the whole body
of the request before it hands the request on, and the whole body of the reply before it lets the
reply through, so that templates can read both. A reply whose length is not known, or is too large,
goes through piece by piece and is recorded with an empty body. A reply that breaks off is not
recorded.

## Main definitions

* `AccessLog.Layer`: what the layer needs to know.
* `AccessLog.Layer.letIn`: the request that the handler gets.
* `AccessLog.Layer.finish`: the reply that the caller gets, and what is recorded.
-/

namespace PurgeGateway.AccessLog

/-- The settings of the layer: whether there is a log, the largest body, and what to record. -/
structure Layer where
  enabled : Bool := false
  limit : Nat
  extractor : Extractor := {}
  deriving Repr, Inhabited

namespace Layer

/-- The layer of a configuration. -/
def ofConfig (c : Config) : Layer where
  enabled := c.logs.enabled
  limit := c.listener.maxBodySize
  extractor := c.logs.extractor

/-- The request that the handler gets. With a log, a body must not be too large. -/
def letIn (l : Layer) (request : Http.Request) : Except Gateway.Error Http.Request :=
  if l.enabled && l.limit < request.body.length then .error (.payloadTooLarge l.limit)
  else .ok request

/-- The notice that a token could not be read. -/
def userNotice : Notice :=
  .warning "jwt user claim skipped"

/-- What is recorded of an exchange. -/
def emit (l : Layer) (clock : Clock) (request : Http.Request) (response : Http.Response) :
    List Effect :=
  let skipped := if l.extractor.userSkipped request then [Effect.notice userNotice] else []
  skipped ++ ((exchangeRecord? (l.extractor.extract request response) clock).toList.map .record)

/-- The notice that a body broke off. -/
def brokenNotice : Notice :=
  .warning "response body failed while buffering, access log skipped"

/-- The whole body of a reply is taken in. -/
def takesIn (l : Layer) (body : Http.Stream) : Bool :=
  match body.announced with
  | some n => n ≤ l.limit
  | none => false

/-- The reply that the caller gets, and what is recorded. -/
def finish (l : Layer) (clock : Clock) (request : Http.Request) (reply : Http.Reply) :
    Http.Reply × List Effect :=
  if !l.enabled then (reply, [])
  else if !l.takesIn reply.body then (reply, l.emit clock request (reply.withBytes []))
  else
    match reply.body.collect? l.limit with
    | some body =>
      ({ reply with body := .ofBytes body }, l.emit clock request (reply.withBytes body))
    | none => ({ reply with body := .broken }, [.notice brokenNotice])

end Layer

end PurgeGateway.AccessLog
