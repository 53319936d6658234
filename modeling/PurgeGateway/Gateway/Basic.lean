import PurgeGateway.AccessLog.Layer
import PurgeGateway.Config.Validation
import PurgeGateway.Credentials.FileTree
import PurgeGateway.Gateway.Route
import PurgeGateway.Purge.Stage
import PurgeGateway.Warming

/-!
# The gateway

A gateway is made from a configuration. While it runs it has a state: files, metrics, purge calls
under way, and paths that are still to be warmed. It changes in moves, each of which concerns one
request or one path; in which order they come is up to the world. A purge call goes on when its
caller has left or was told that the time is up.

## Main definitions

* `Gateway`: what stays the same.
* `Gateway.State`: what changes.
* `Gateway.Move`: what can happen.
* `Gateway.step`: what a move changes, and its effects.
* `Gateway.run`: moves one after the other.
-/

namespace PurgeGateway

/-! ### What stays the same -/

/-- A gateway: the address of the invalidation API, the credentials that are configured and their
file, the largest body, the layer of the access log, the header fields of warming requests if there
is warming, and whether the metrics are shown. -/
structure Gateway where
  api : String
  credentials : Credentials := {}
  credentialsPath : FilePath := []
  limit : Nat
  log : AccessLog.Layer
  warming : Option Http.Headers := none
  showsMetrics : Bool := true
  deriving Repr

namespace Gateway

/-- The header fields of warming requests, if there is warming. -/
def warmingFields (w : Config.Warming) : Except Config.Fault (Option Http.Headers) :=
  if w.enabled then w.headerFields.map some else .ok none

/-- The gateway of a configuration. -/
def ofConfig (c : Config) (showsMetrics : Bool) : Except Config.Fault Gateway :=
  (warmingFields c.warming).map fun warming => {
    api := c.api.baseUrl
    credentials := c.api.credentials
    credentialsPath := FileTree.pathOf c.api.credentialsPath
    limit := c.listener.maxBodySize
    log := .ofConfig c
    warming
    showsMetrics }

/-- A gateway takes the address of the API, the largest body and the access log from its
configuration. -/
theorem of_ofConfig {c : Config} {shows : Bool} {g : Gateway} (h : ofConfig c shows = .ok g) :
    g.api = c.api.baseUrl ∧ g.limit = c.listener.maxBodySize ∧ g.log = .ofConfig c := by
  rw [ofConfig] at h
  cases hw : warmingFields c.warming with
  | error e => rw [hw] at h; cases h
  | ok warming =>
    rw [hw, Except.map, Except.ok.injEq] at h
    rw [← h]
    dsimp only
    exact ⟨rfl, rfl, rfl⟩

/-- The access log and the routes have one limit for bodies. -/
theorem log_limit_of_ofConfig {c : Config} {shows : Bool} {g : Gateway}
    (h : ofConfig c shows = .ok g) : g.log.limit = g.limit := by
  obtain ⟨-, hlimit, hlog⟩ := of_ofConfig h
  rw [hlog, hlimit]
  rfl

/-- How the part that purges is shown in diagnostics. -/
def diagnostic (g : Gateway) : String :=
  let warms := if g.warming.isSome then "true" else "false"
  "PurgeOrchestrator \x7b base_url: " ++ Text.quote g.api ++ ", post_purge: " ++ warms ++
    ", .. \x7d"

/-! ### What changes -/

/-- A purge call under way: its request while the caller waits, and how far it has come. -/
structure Task where
  caller : Option Http.Request
  stage : Purge.Stage
  deriving Repr

/-- The state of a gateway. Requests are numbered as they come; a purge call and the paths that it
wants warmed have the number of its request. -/
structure State where
  files : FileTree := {}
  metrics : Metrics := {}
  tasks : List (Nat × Task) := []
  jobs : List (Nat × List String) := []
  peers : Peers
  arrived : Nat := 0

namespace State

/-- The purge call with a number. -/
def task? (s : State) (id : Nat) : Option Task :=
  s.tasks.lookup id

/-- The state with a purge call under a number: in its place, or at the end. -/
def putTask (s : State) (id : Nat) (task : Task) : State :=
  { s with tasks :=
      if s.tasks.any (·.1 == id) then
        s.tasks.map fun entry => if entry.1 == id then (id, task) else entry
      else s.tasks ++ [(id, task)] }

/-- The state without the purge call with a number. -/
def dropTask (s : State) (id : Nat) : State :=
  { s with tasks := s.tasks.filter (·.1 != id) }

/-- The state with what is left of the purge call with a number. -/
def setTask (s : State) (id : Nat) : Option Task → State
  | some task => s.putTask id task
  | none => s.dropTask id

/-- The paths that are still to be warmed under a number. -/
def job (s : State) (id : Nat) : List String :=
  (s.jobs.lookup id).getD []

/-- The state with other paths under a number. -/
def putJob (s : State) (id : Nat) (paths : List String) : State :=
  { s with jobs := s.jobs.map fun entry => if entry.1 == id then (id, paths) else entry }

/-- The state after effects of the request with a number: what is counted goes into the metrics,
and paths to be warmed are put down. -/
def absorb (s : State) (id : Nat) (effects : List Effect) : State :=
  { s with
    metrics := s.metrics.add (Effect.samples effects)
    jobs := s.jobs ++ (Effect.jobs effects).map fun paths => (id, paths) }

/-- The content of the credentials file, if it can be read. -/
def credentialsFile (s : State) (g : Gateway) : Option (List UInt8) :=
  match s.files.read g.credentialsPath with
  | .ok content => some content
  | .error _ => none

end State

/-! ### Replies -/

/-- The reply to a purge call that ended. -/
def outcomeResponse : Except Purge.Error Purge.Relay → Http.Response
  | .ok relay => jsonResponse relay.status relay.result.toJson
  | .error e => (Error.purge e).response

/-- What the gateway says of itself when it is well. -/
def healthJson (time : String) : Json :=
  .object [("status", .text "healthy"), ("service", .text "akapurge"),
    ("version", .text "0.1.0"), ("timestamp", .text time)]

/-- The metrics as a response. -/
def metricsResponse (m : Metrics) : Http.Response :=
  { headers := [⟨"content-type", Utf8.bytes "text/plain; version=0.0.4"⟩]
    body := Utf8.bytes m.text }

/-- The response that shows the metrics, if the gateway shows them. -/
def showMetrics (g : Gateway) (s : State) : Http.Response :=
  if g.showsMetrics then metricsResponse s.metrics else Error.notFound.response

/-- A failure goes to a caller past the access log. -/
def refuse (id : Nat) (request : Http.Request) (e : Error) : List Effect :=
  e.notices.map .notice ++ [.reply id (outside request (.ofResponse e.response))]

/-- A reply goes to a caller through the access log. -/
def deliver (g : Gateway) (clock : AccessLog.Clock) (id : Nat) (request : Http.Request)
    (reply : Http.Reply) : List Effect :=
  let (reply, effects) := g.log.finish clock request reply
  effects ++ [.reply id (outside request reply)]

/-! ### Moves -/

/-- What can happen: a request comes; a purge call is taken on, signed, forwarded or interpreted; a
caller leaves, or is told that the time is up; a path is warmed. -/
inductive Move
  | arrive (request : Http.Request)
  | start (id : Nat)
  | sign (id : Nat) (signer : Signer)
  | forward (id : Nat)
  | interpret (id : Nat)
  | leave (id : Nat)
  | expire (id : Nat)
  | fetch (id : Nat)

/-- What is left of a purge call that has come to a stage, and the effects. If it ended, nothing is
left, and a caller who waits gets the reply. -/
def settle (g : Gateway) (clock : AccessLog.Clock) (id : Nat) (caller : Option Http.Request)
    (progress : Purge.Stage.Progress) : Option Task × List Effect :=
  let (stage, effects) := progress
  match stage.outcome? with
  | none => (some ⟨caller, stage⟩, effects)
  | some outcome =>
    let replies := match caller with
      | some request => g.deliver clock id request (.ofResponse (outcomeResponse outcome))
      | none => []
    (none, effects ++ replies)

/-- The state and the effects after a purge call has come to a stage. -/
def proceed (g : Gateway) (clock : AccessLog.Clock) (s : State) (id : Nat)
    (caller : Option Http.Request) (progress : Purge.Stage.Progress) : State × List Effect :=
  let (task, effects) := g.settle clock id caller progress
  (s.setTask id task, effects)

/-- A purge call is handed over, unless its body is too large. -/
def handOver (g : Gateway) (clock : AccessLog.Clock) (s : State) (id : Nat)
    (request : Http.Request) : State × List Effect :=
  if g.limit < request.body.length then
    (s, g.deliver clock id request (.ofResponse (Error.payloadTooLarge g.limit).response))
  else
    (s.putTask id ⟨some request, .received request.headers request.body⟩, [])

/-- A request that the access log let in is handled. -/
def handle (g : Gateway) (clock : AccessLog.Clock) (s : State) (id : Nat)
    (request : Http.Request) : State × List Effect :=
  let answer (reply : Http.Reply) : State × List Effect := (s, g.deliver clock id request reply)
  match destination request with
  | .route .purge => g.handOver clock s id request
  | .route .health => answer (.ofResponse (jsonResponse 200 (healthJson clock.time)))
  | .route .metrics => answer (.ofResponse (g.showMetrics s))
  | .wrongMethod _ => answer wrongMethodReply
  | .nowhere => answer (.ofResponse Error.notFound.response)

/-- A request comes. -/
def arrive (g : Gateway) (clock : AccessLog.Clock) (s : State) (request : Http.Request) :
    State × List Effect :=
  let id := s.arrived
  let s := { s with arrived := id + 1 }
  match g.log.letIn request with
  | .error e => (s, refuse id request e)
  | .ok admitted => g.handle clock s id admitted

/-- A purge call goes from its stage to another. -/
def advance (g : Gateway) (clock : AccessLog.Clock) (s : State) (id : Nat)
    (next : Purge.Stage → Purge.Stage.Progress) : State × List Effect :=
  match s.task? id with
  | none => (s, [])
  | some task => g.proceed clock s id task.caller (next task.stage)

/-- A purge call is forwarded. -/
def forward (g : Gateway) (clock : AccessLog.Clock) (s : State) (id : Nat) :
    State × List Effect :=
  match s.task? id with
  | none => (s, [])
  | some task =>
    let (progress, peers) := task.stage.forward s.peers
    g.proceed clock { s with peers } id task.caller progress

/-- The caller of a purge call leaves, with the given effects if there was one. -/
def abandon (s : State) (id : Nat) (effects : Http.Request → List Effect) :
    State × List Effect :=
  match s.task? id with
  | none => (s, [])
  | some task =>
    (s.putTask id { task with caller := none }, (task.caller.map effects).getD [])

/-- The next path under a number is warmed. -/
def fetch (g : Gateway) (s : State) (id : Nat) : State × List Effect :=
  match s.job id with
  | [] => (s, [])
  | path :: rest =>
    let (effects, peers) := Warming.fetch (g.warming.getD []) s.peers path
    ({ s.putJob id rest with peers }, effects)

/-- The number of the request that a move is about, for one that is yet to come the next number. -/
def Move.subject (s : State) : Move → Nat
  | .arrive _ => s.arrived
  | .start id | .sign id _ | .forward id | .interpret id | .leave id | .expire id | .fetch id => id

/-- What a move changes, and its effects, before they are taken into the state. -/
def perform (g : Gateway) (clock : AccessLog.Clock) (s : State) : Move → State × List Effect
  | .arrive request => g.arrive clock s request
  | .start id => g.advance clock s id (Purge.Stage.start g.api)
  | .sign id signer => g.advance clock s id (Purge.Stage.sign (signer (s.credentialsFile g)))
  | .forward id => g.forward clock s id
  | .interpret id => g.advance clock s id (Purge.Stage.interpret g.warming.isSome)
  | .leave id => abandon s id fun _ => []
  | .expire id => abandon s id fun request => refuse id request (.ofLayer .elapsed)
  | .fetch id => g.fetch s id

/-- What a move changes, and its effects. -/
def step (g : Gateway) (clock : AccessLog.Clock) (s : State) (m : Move) : State × List Effect :=
  let (after, effects) := g.perform clock s m
  (after.absorb (m.subject s) effects, effects)

/-- What moves change one after the other, and all their effects. -/
def run (g : Gateway) (clock : AccessLog.Clock) (s : State) : List Move → State × List Effect
  | [] => (s, [])
  | m :: rest =>
    let (s, effects) := g.step clock s m
    let (s, later) := g.run clock s rest
    (s, effects ++ later)

end Gateway

end PurgeGateway
