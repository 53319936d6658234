import PurgeGateway.Effect
import PurgeGateway.Peers
import PurgeGateway.Purge.Request
import PurgeGateway.Purge.Result
import PurgeGateway.Signing.Signer

/-!
# Purge calls under way

A purge call goes through stages. Once received it is taken on when its content type and its body
are in order and its request has a route; then it is signed, forwarded to the invalidation API, and
the answer is interpreted. Each stage ends the call or brings it to the next. A call that ends is
counted once, and has left one notice: of its failure, or of the answer.

## Main definitions

* `Purge.Stage`: how far a call has come.
* `Purge.Stage.start`, `sign`, `forward`, `interpret`: from one stage to the next.
-/

namespace PurgeGateway.Purge

/-- What the caller of a purge that went through is told: the status and the result that the
invalidation API gave. -/
structure Relay where
  status : Nat
  result : Result
  deriving DecidableEq, Repr, Inhabited

/-- How far a purge call has come. -/
inductive Stage
  | received (headers : Http.Headers) (body : List UInt8)
  | signing (request : Request) (outbound : Outbound)
  | forwarding (request : Request) (signed : Outbound)
  | interpreting (request : Request) (answer : Http.Reply)
  | ended (outcome : Except Error Relay)
  deriving Repr

namespace Stage

/-- The stage that a call comes to, and the effects on the way. -/
abbrev Progress := Stage × List Effect

/-! ### Endings -/

/-- The call fails with a notice. -/
def fail (e : Error) (notice : String) : Progress :=
  (.ended (.error e), [.notice (.failure notice), .sample (.purge (some e))])

/-- The call goes through. Its paths are warmed if the answer tells of success, the request asks
for it, and warming is there. -/
def succeed (warms : Bool) (request : Request) (relay : Relay) : Progress :=
  let job :=
    if Http.isSuccess relay.status && request.warm && warms then [Effect.job request.paths] else []
  (.ended (.ok relay), .notice (.progress "akamai-response") :: job ++ [.sample (.purge none)])

/-! ### From stage to stage -/

/-- The notice that a body cannot be taken. -/
def payloadNotice : PayloadFault → String
  | .notJson => "request body is not valid JSON"
  | .malformed => "failed to parse request"
  | .noPaths => "purge request has no paths"

/-- The header fields of a request to the invalidation API. -/
def apiFields : Http.Headers :=
  [⟨"content-type", Utf8.bytes jsonMediaType⟩]

/-- The request to the invalidation API at an address. -/
def outbound? (request : Request) (address : String) : Option Outbound :=
  Outbound.to? "POST" address apiFields (some (.buffered (Utf8.bytes request.objects.compact)))

/-- A request that was read is routed to the API whose addresses start with the given text. -/
def routed (api : String) (request : Request) : Progress :=
  match request.url? api with
  | none => fail .invalidType "Invalid purge type"
  | some address =>
    match outbound? request address with
    | none => fail .unreachable "failed to create upstream request"
    | some outbound => (.signing request outbound, [])

/-- A call with the given header fields and body is taken on. -/
def accept (api : String) (headers : Http.Headers) (body : List UInt8) : Progress :=
  if !acceptsContentType headers then fail .invalidContentType "unsupported content type"
  else
    match Request.ofBytes body with
    | .error fault => fail .invalidPayload (payloadNotice fault)
    | .ok request => routed api request

/-- A call is taken on. -/
def start (api : String) : Stage → Progress
  | .received headers body => accept api headers body
  | s => (s, [])

/-- A call gets its signed request from a signer that may fail. -/
def sign (signer : Outbound → Except Signing.Error Outbound) : Stage → Progress
  | .signing request outbound =>
    match signer outbound with
    | .ok signed => (.forwarding request signed, [.ask outbound])
    | .error _ =>
      let (stage, effects) :=
        fail .signingFailed "failed to sign the request with given credentials"
      (stage, .ask outbound :: effects)
  | s => (s, [])

/-- The effects of the requests that were made, before it is known what comes of them. -/
def callEffects (sent : Peers.Sent) : List Effect :=
  sent.calls.map .call

/-- A call is forwarded; the peers after that are given too. -/
def forward (p : Peers) : Stage → Progress × Peers
  | .forwarding request signed =>
    let sent := p.send signed
    match sent.answer with
    | some answer =>
      ((.interpreting request answer, callEffects sent ++ [.sample .latency]), sent.peers)
    | none =>
      let (stage, effects) := fail .unreachable "failed to send request to Akamai"
      ((stage, callEffects sent ++ effects), sent.peers)
  | s => ((s, []), p)

/-- The answer to a call is interpreted. -/
def interpret (warms : Bool) : Stage → Progress
  | .interpreting request answer =>
    match answer.body.whole?.bind Result.ofBytes? with
    | some result => succeed warms request ⟨answer.status, result⟩
    | none => fail .undecodableReply "failed to decode Akamai response"
  | s => (s, [])

/-- How the call ended, if it did. -/
def outcome? : Stage → Option (Except Error Relay)
  | .ended outcome => some outcome
  | _ => none

/-- The call waits for its signature. -/
def isSigning : Stage → Bool
  | .signing _ _ => true
  | _ => false

end Stage

end PurgeGateway.Purge
