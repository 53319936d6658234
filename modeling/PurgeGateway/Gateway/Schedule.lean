import PurgeGateway.Credentials.Edgerc
import PurgeGateway.Gateway.Basic

/-!
# Requests from end to end

The moves of one request, in the order in which they come when nothing else happens: it comes, its
purge call is taken on, signed, forwarded and interpreted, and the paths that it wants warmed are
fetched. A call whose signature is long in coming can be left waiting and finished later.

## Main definitions

* `Gateway.serve`: a request from end to end.
* `Gateway.await`: a request up to the point where it waits for its signature.
* `Gateway.release`: the purge call that waits longest, from there to the end.
* `Gateway.provision`: the credentials that are configured written to their file.
-/

namespace PurgeGateway.Gateway

/-- The moves of a purge call that was received. -/
def callMoves (signer : Signer) (id : Nat) : List Move :=
  [.start id, .sign id signer, .forward id, .interpret id]

/-- The moves that warm all paths that wait for it. -/
def warmingMoves (s : State) : List Move :=
  s.jobs.flatMap fun entry => entry.2.map fun _ => .fetch entry.1

/-- The state after all warming, its effects behind the given ones. -/
def warmAll (g : Gateway) (clock : AccessLog.Clock) (sofar : State × List Effect) :
    State × List Effect :=
  let (s, effects) := sofar
  let (s, later) := g.run clock s (warmingMoves s)
  (s, effects ++ later)

/-- A request from end to end. -/
def serve (g : Gateway) (clock : AccessLog.Clock) (signer : Signer) (s : State)
    (request : Http.Request) : State × List Effect :=
  g.warmAll clock (g.run clock s (.arrive request :: callMoves signer s.arrived))

/-- The number of the purge call that has waited longest for its signature. -/
def waiting? (s : State) : Option Nat :=
  (s.tasks.find? fun entry => entry.2.stage.isSigning).map (·.1)

/-- The caller of a request does not wait for its signature: it leaves, or its time is up. -/
inductive Impatience
  | leaves
  | timesOut
  deriving DecidableEq, Repr, Inhabited

/-- The move of a caller who does not wait. -/
def Impatience.move (id : Nat) : Impatience → Move
  | .leaves => .leave id
  | .timesOut => .expire id

/-- A request whose caller does not wait for the signature. -/
def await (g : Gateway) (clock : AccessLog.Clock) (caller : Impatience) (s : State)
    (request : Http.Request) : State × List Effect :=
  g.run clock s [.arrive request, .start s.arrived, caller.move s.arrived]

/-- The purge call that waits longest, from its signature to the end. -/
def release (g : Gateway) (clock : AccessLog.Clock) (signer : Signer) (s : State) :
    State × List Effect :=
  match waiting? s with
  | some id => g.warmAll clock (g.run clock s (callMoves signer id))
  | none => (s, [])

/-- The credentials that are configured are written to their file, unless something is there. A
gateway does not start if that fails. -/
def provision (g : Gateway) (s : State) (refused : FileTree.Refusals := {}) :
    Except FileError (State × Bool) :=
  (Credentials.provision s.files g.credentialsPath g.credentials refused).map
    fun (files, written) => ({ s with files }, written)

end PurgeGateway.Gateway
