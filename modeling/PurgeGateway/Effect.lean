import PurgeGateway.AccessLog.Record
import PurgeGateway.Http.Stream
import PurgeGateway.Metrics
import PurgeGateway.Outbound

/-!
# Effects

All that can be seen of the gateway from outside, one thing after the other: answers to callers,
signatures that are asked for, requests that leave, notices, records of the access log, and what is
counted. That paths are to be warmed is an effect too, though the requests for it come later.

## Main definitions

* `Effect`: a thing that the gateway does.
* `Effect.replies`, `asks`, `calls`, `notices`, `records`, `samples`, `jobs`: the effects of one
  sort.
-/

namespace PurgeGateway

/-- A thing that the gateway does. -/
inductive Effect
  | reply (caller : Nat) (r : Http.Reply)
  | ask (r : Outbound)
  | call (r : Outbound)
  | notice (n : Notice)
  | record (r : AccessLog.Record)
  | sample (s : Sample)
  | job (paths : List String)
  deriving Repr

namespace Effect

/-! ### Effects of one sort -/

/-- The answers with the numbers of the callers who get them. -/
def replies (es : List Effect) : List (Nat × Http.Reply) :=
  es.filterMap fun
    | .reply caller r => some (caller, r)
    | _ => none

/-- The requests that a signer is asked to sign. -/
def asks (es : List Effect) : List Outbound :=
  es.filterMap fun
    | .ask r => some r
    | _ => none

/-- The requests that leave. -/
def calls (es : List Effect) : List Outbound :=
  es.filterMap fun
    | .call r => some r
    | _ => none

/-- The notices. -/
def notices (es : List Effect) : List Notice :=
  es.filterMap fun
    | .notice n => some n
    | _ => none

/-- The records of the access log. -/
def records (es : List Effect) : List AccessLog.Record :=
  es.filterMap fun
    | .record r => some r
    | _ => none

/-- What is counted. -/
def samples (es : List Effect) : List Sample :=
  es.filterMap fun
    | .sample s => some s
    | _ => none

/-- The lists of paths that are to be warmed. -/
def jobs (es : List Effect) : List (List String) :=
  es.filterMap fun
    | .job paths => some paths
    | _ => none

end Effect

end PurgeGateway
