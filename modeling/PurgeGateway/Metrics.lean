import PurgeGateway.Purge.Error
import PurgeGateway.Text.Ascii

/-!
# Metrics

What happens is counted: how purge calls end, how often the invalidation API answers, and how often
a warming request gets an answer. The metrics are the samples that were taken; a counter is the
number of samples of one sort.

## Main definitions

* `Sample`: a sort of thing that is counted.
* `Metrics.count`: how often it happened.
* `Metrics.text`: all counters that are not zero, as they are shown.
-/

namespace PurgeGateway

/-- A thing that is counted: a purge call that ended, without a failure or with one; an answer of
the invalidation API; a warming request, which got an answer or did not. -/
inductive Sample
  | purge (failure : Option Purge.Error)
  | latency
  | fetch (answered : Bool)
  deriving DecidableEq, Repr, Inhabited

/-- The samples that were taken. -/
structure Metrics where
  samples : List Sample := []
  deriving Repr, Inhabited

namespace Metrics

/-- How often a thing was counted. -/
def count (m : Metrics) (s : Sample) : Nat :=
  m.samples.count s

/-- The metrics with more samples. -/
def add (m : Metrics) (samples : List Sample) : Metrics :=
  ⟨m.samples ++ samples⟩

theorem count_add (m : Metrics) (samples : List Sample) (s : Sample) :
    (m.add samples).count s = m.count s + samples.count s := by
  simp [count, add]

/-! ### Text -/

/-- The name under which the end of a purge call is counted. -/
def outcomeName : Option Purge.Error → String
  | none => "ok"
  | some e => e.outcome

/-- The ends of purge calls, in the order of their names. -/
def outcomes : List (Option Purge.Error) :=
  [some .invalidContentType, some .invalidPayload, some .invalidType, none, some .signingFailed,
    some .undecodableReply, some .unreachable]

/-- The line of a counter with a label; nothing if it is zero. -/
def counterLine (name outcome : String) (n : Nat) : List String :=
  if n = 0 then []
  else [name ++ "\x7boutcome=\"" ++ outcome ++ "\"\x7d " ++ Ascii.decimal n]

/-- The lines of a metric under a line that tells its type; nothing if there are no lines. -/
def block (name kind : String) (lines : List String) : List String :=
  if lines.isEmpty then [] else ("# TYPE " ++ name ++ " " ++ kind) :: lines ++ [""]

/-- The lines of the counter of purge calls. -/
def purgeLines (m : Metrics) : List String :=
  let name := "akapurge_purge_requests_total"
  block name "counter"
    (outcomes.flatMap fun o => counterLine name (outcomeName o) (m.count (.purge o)))

/-- The lines of the counter of warming requests. -/
def fetchLines (m : Metrics) : List String :=
  let name := "akapurge_post_purge_fetches_total"
  block name "counter"
    (counterLine name "failed" (m.count (.fetch false)) ++
      counterLine name "ok" (m.count (.fetch true)))

/-- The lines of the time that answers of the invalidation API take: how many were timed. -/
def latencyLines (m : Metrics) : List String :=
  let name := "akapurge_upstream_latency_seconds"
  let n := m.count .latency
  block name "summary" (if n = 0 then [] else [name ++ "_count " ++ Ascii.decimal n])

/-- All lines. -/
def lines (m : Metrics) : List String :=
  m.fetchLines ++ m.purgeLines ++ m.latencyLines

/-- All counters that are not zero, as they are shown. -/
def text (m : Metrics) : String :=
  String.join (m.lines.map (· ++ "\n"))

end Metrics

end PurgeGateway
