import PurgeGateway.Effect
import PurgeGateway.Peers

/-!
# Warming

Some time after a purge that went well, the paths that were purged are fetched again, one after the
other, so that they are in the caches before anybody asks for them. A path that cannot be fetched
changes nothing for the others.

## Main definitions

* `Warming.fetch`: one path fetched.
-/

namespace PurgeGateway.Warming

/-- The effects of a path that was fetched, or could not be. -/
def report (answered : Bool) : List Effect :=
  let notice : Notice :=
    if answered then ⟨.debug, "post-purge request sent"⟩
    else .warning "post-purge request failed"
  [.sample (.fetch answered), .notice notice]

/-- A path fetched with the given header fields: the effects, and the peers after them. -/
def fetch (fields : Http.Headers) (p : Peers) (path : String) : List Effect × Peers :=
  match Outbound.to? "GET" path fields none with
  | none => (report false, p)
  | some r =>
    let sent := p.send r
    (sent.calls.map .call ++ report sent.answer.isSome, sent.peers)

end PurgeGateway.Warming
