import PurgeGateway.Http.Stream
import PurgeGateway.Outbound

/-!
# Peers

A request that leaves may reach a peer or not; only `http` and `https` lead anywhere. A peer answers
it, or closes the connection without an answer, and the body of an answer may break off. An answer
that sends the request elsewhere is followed a limited number of times, which makes further
requests: `301`, `302` and `303` turn them into a `GET` without a body, `307` and `308` leave them
as they are. A request that goes on to another host loses what authorizes it.

## Main definitions

* `Reaction`: what a peer does with a request.
* `Peers`: which peers are reached, and what they do next.
* `Outbound.next`: where an answer sends a request.
* `Peers.send`: the answer in the end, and the requests that were made for it.
-/

namespace PurgeGateway

/-- What a peer does with a request. -/
inductive Reaction
  | closes
  | answers (r : Http.Reply)
  deriving Repr, Inhabited

/-- Which URLs reach a peer, and what the peers do with the requests to come: those that post to
the invalidation API, and those that fetch from an origin. When nothing is laid down any more, a
request gets an empty answer. -/
structure Peers where
  reaches : Net.Url → Bool
  api : List Reaction := []
  origin : List Reaction := []

/-- The scheme of the URL is one that requests are sent over. -/
def Net.Url.isSendable (url : Net.Url) : Bool :=
  url.scheme == "http" || url.scheme == "https"

namespace Peers

/-- No peer is reached. -/
def unreachable : Peers :=
  { reaches := fun _ => false }

/-- The first reaction of a list, an empty answer if there is none, and the others. -/
def take (reactions : List Reaction) : Reaction × List Reaction :=
  match reactions with
  | [] => (.answers {}, [])
  | reaction :: rest => (reaction, rest)

/-- What a peer does with a request, unless none is reached. -/
def react (p : Peers) (r : Outbound) : Option (Reaction × Peers) :=
  if !(r.url.isSendable && p.reaches r.url) then none
  else if r.method = "POST" then
    let (reaction, rest) := take p.api
    some (reaction, { p with api := rest })
  else
    let (reaction, rest) := take p.origin
    some (reaction, { p with origin := rest })

end Peers

/-! ### Redirection -/

/-- Where an answer leaves a request: it is the last word, or another request follows, or the
request fails. -/
inductive Onward
  | stays
  | goes (r : Outbound)
  | fails
  deriving Repr, Inhabited

namespace Outbound

/-- The most often that a request is sent elsewhere. -/
def maxRedirects : Nat := 10

/-- The header fields that tell about a body. -/
def bodyFields : List String :=
  ["transfer-encoding", "content-encoding", "content-type", "content-length"]

/-- The header fields that must not reach another host. -/
def secretFields : List String :=
  ["authorization", "cookie", "cookie2", "proxy-authorization", "www-authenticate"]

/-- The request without some header fields. -/
def dropFields (r : Outbound) (names : List String) : Outbound :=
  { r with headers := r.headers.filter fun h => !names.contains h.name }

/-- The request as a fetch without a body. -/
def asFetch (r : Outbound) : Outbound :=
  let method := if r.method = "HEAD" then r.method else "GET"
  { r with method, body := none }.dropFields bodyFields

/-- The request that an answer with a status asks for, if it asks for one. -/
def redirected? (r : Outbound) (status : Nat) : Option Outbound :=
  if status = 301 ∨ status = 302 ∨ status = 303 then some r.asFetch
  else if status = 307 ∨ status = 308 then
    if r.body = some .streaming then none else some r
  else none

/-- The URL that a header field names relative to that of the request. -/
def location? (r : Outbound) (answer : Http.Reply) : Option Net.Url := do
  let value ← answer.headers.first? "location"
  let text ← Utf8.text? value
  let url ← r.url.join? text
  if (Http.Target.ofBytes? (Utf8.bytes url.text)).isSome then some url else none

/-- The URL that a request for another names as the one it comes from. A secured one is not told
to a peer that is not. -/
def referer? (source destination : Net.Url) : Option String :=
  if destination.scheme = "http" ∧ source.scheme = "https" then none
  else some { source with username := "", password := "", fragment := none }.text

/-- The request with the URL it comes from. -/
def withReferer (r : Outbound) (destination : Net.Url) : Outbound :=
  match referer? r.url destination with
  | some text => { r with headers := r.headers.set "referer" (Utf8.bytes text) }
  | none => r

/-- The two URLs belong to one host. -/
def sameHost (a b : Net.Url) : Bool :=
  let port (u : Net.Url) : Option Nat := u.port.or (Net.Url.defaultPort? u.scheme)
  a.host == b.host && port a == port b

/-- The request as it goes on to a URL. -/
def onTo (r : Outbound) (url : Net.Url) : Outbound :=
  let there := { r.withReferer url with url }
  if sameHost r.url url then there else there.dropFields secretFields

/-- Where an answer leaves a request. -/
def next (r : Outbound) (answer : Http.Reply) : Onward :=
  match r.redirected? answer.status with
  | none => .stays
  | some again =>
    match r.location? answer with
    | none => .stays
    | some url =>
      if url.isSendable then .goes (again.onTo url) else .fails

end Outbound

namespace Peers

/-- What comes of a request: the answer in the end unless it failed, the requests that were made
one after the other, and the peers after them. -/
structure Sent where
  answer : Option Http.Reply
  calls : List Outbound
  peers : Peers

/-- What comes of a request that may be sent elsewhere a number of times. -/
def sendUpTo (redirects : Nat) (p : Peers) (r : Outbound) : Sent :=
  match p.react r with
  | none => ⟨none, [], p⟩
  | some (.closes, p) => ⟨none, [r], p⟩
  | some (.answers answer, p) =>
    match r.next answer, redirects with
    | .stays, _ => ⟨some answer, [r], p⟩
    | .goes again, redirects + 1 =>
      let sent := sendUpTo redirects p again
      { sent with calls := r :: sent.calls }
    | _, _ => ⟨none, [r], p⟩

/-- What comes of a request. -/
def send (p : Peers) (r : Outbound) : Sent :=
  p.sendUpTo Outbound.maxRedirects r

end Peers

end PurgeGateway
