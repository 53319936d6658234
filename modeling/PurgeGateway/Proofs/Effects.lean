import PurgeGateway.Gateway.Basic

/-!
# Effects and where they come from

The effects of a gateway fall into three sorts. Some are work on the world: signatures asked for,
requests that leave, what is counted, paths to be warmed. Some tell a caller of it. The others,
notices and records, are for those who read the logs. The way out to a caller, through the access
log or past it, adds effects of the last sort only, and the reply that was meant for the caller.

## Main definitions

* `Effect.isWork`, `Effect.work`: the effects of the first sort.
* `Effect.isVisible`, `Effect.visible`: those of the first two.
* `Effect.isAnswer`, `Effect.answers`: replies, and the records that are made of them.

## Main results

* `Effect.calls_map_call`, `samples_map_call` and others: requests that leave show in one view.
* `AccessLog.Layer.finish_ofResponse`: the access log passes a reply on as it is.
* `Gateway.visible_deliver`, `Gateway.visible_refuse`: a delivery is one reply, and so is a refusal.
* `Gateway.work_arrive`: an arrival does no work.
-/

namespace PurgeGateway

namespace Effect

/-! ### Work and what is visible -/

/-- The effect is work on the world: a signature asked for, a request that leaves, something that is
counted, or paths to be warmed. -/
def isWork : Effect → Bool
  | .ask _ | .call _ | .sample _ | .job _ => true
  | .reply _ _ | .notice _ | .record _ => false

/-- The effects that are work. -/
def work (es : List Effect) : List Effect :=
  es.filter isWork

/-- The effect is seen by others than those who read the logs: it is work, or a reply. -/
def isVisible : Effect → Bool
  | .ask _ | .call _ | .sample _ | .job _ | .reply _ _ => true
  | .notice _ | .record _ => false

/-- The effects that are seen outside of the logs. -/
def visible (es : List Effect) : List Effect :=
  es.filter isVisible

/-- The effect is a reply, or a record of the access log. -/
def isAnswer : Effect → Bool
  | .reply _ _ | .record _ => true
  | .ask _ | .call _ | .notice _ | .sample _ | .job _ => false

/-- The effects that are replies or records of the access log. -/
def answers (es : List Effect) : List Effect :=
  es.filter isAnswer

theorem work_append (a b : List Effect) : work (a ++ b) = work a ++ work b :=
  List.filter_append a b

theorem visible_append (a b : List Effect) : visible (a ++ b) = visible a ++ visible b :=
  List.filter_append a b

theorem answers_append (a b : List Effect) : answers (a ++ b) = answers a ++ answers b :=
  List.filter_append a b

theorem records_append (a b : List Effect) : records (a ++ b) = records a ++ records b :=
  List.filterMap_append

theorem replies_append (a b : List Effect) : replies (a ++ b) = replies a ++ replies b :=
  List.filterMap_append

theorem jobs_append (a b : List Effect) : jobs (a ++ b) = jobs a ++ jobs b :=
  List.filterMap_append

theorem notices_append (a b : List Effect) : notices (a ++ b) = notices a ++ notices b :=
  List.filterMap_append

theorem samples_append (a b : List Effect) : samples (a ++ b) = samples a ++ samples b :=
  List.filterMap_append

theorem samples_flatMap {α : Type} (l : List α) (f : α → List Effect) :
    samples (l.flatMap f) = l.flatMap fun a => samples (f a) :=
  List.filterMap_flatMap

theorem samples_perm {a b : List Effect} (h : a.Perm b) : (samples a).Perm (samples b) :=
  h.filterMap _

theorem calls_append (a b : List Effect) : calls (a ++ b) = calls a ++ calls b :=
  List.filterMap_append

theorem asks_append (a b : List Effect) : asks (a ++ b) = asks a ++ asks b :=
  List.filterMap_append

/-! ### Requests that leave -/

theorem calls_map_call (rs : List Outbound) : calls (rs.map .call) = rs := by
  rw [calls, List.filterMap_map]
  exact List.filterMap_some

/-- Requests that leave show in no view that leaves them out. -/
private theorem filterMap_map_call {α : Type} {view : Effect → Option α}
    (h : ∀ r, view (.call r) = none) (rs : List Outbound) : (rs.map .call).filterMap view = [] := by
  rw [List.filterMap_map, List.filterMap_eq_nil_iff]
  exact fun r _ => h r

theorem asks_map_call (rs : List Outbound) : asks (rs.map .call) = [] :=
  filterMap_map_call (fun _ => rfl) rs

theorem notices_map_call (rs : List Outbound) : notices (rs.map .call) = [] :=
  filterMap_map_call (fun _ => rfl) rs

theorem samples_map_call (rs : List Outbound) : samples (rs.map .call) = [] :=
  filterMap_map_call (fun _ => rfl) rs

theorem jobs_map_call (rs : List Outbound) : jobs (rs.map .call) = [] :=
  filterMap_map_call (fun _ => rfl) rs

/-! ### Views of effects -/

/-- A view that shows nothing of what is left out shows all in what is kept. -/
private theorem filterMap_kept {α : Type} {keeps : Effect → Bool} {view : Effect → Option α}
    (h : ∀ e, keeps e = false → view e = none) (es : List Effect) :
    (es.filter keeps).filterMap view = es.filterMap view := by
  rw [List.filterMap_filter]
  congr 1
  funext e
  cases hkeeps : keeps e with
  | true => rfl
  | false => exact (h e hkeeps).symm

theorem asks_work (es : List Effect) : asks (work es) = asks es :=
  filterMap_kept (fun e h => by cases e <;> first | rfl | cases h) es

theorem calls_work (es : List Effect) : calls (work es) = calls es :=
  filterMap_kept (fun e h => by cases e <;> first | rfl | cases h) es

theorem samples_work (es : List Effect) : samples (work es) = samples es :=
  filterMap_kept (fun e h => by cases e <;> first | rfl | cases h) es

theorem jobs_work (es : List Effect) : jobs (work es) = jobs es :=
  filterMap_kept (fun e h => by cases e <;> first | rfl | cases h) es

theorem replies_visible (es : List Effect) : replies (visible es) = replies es :=
  filterMap_kept (fun e h => by cases e <;> first | rfl | cases h) es

theorem replies_answers (es : List Effect) : replies (answers es) = replies es :=
  filterMap_kept (fun e h => by cases e <;> first | rfl | cases h) es

theorem records_answers (es : List Effect) : records (answers es) = records es :=
  filterMap_kept (fun e h => by cases e <;> first | rfl | cases h) es

/-- All work is visible. -/
theorem work_visible (es : List Effect) : work (visible es) = work es := by
  rw [work, visible, List.filter_filter]
  congr 1
  funext e
  cases e <;> rfl

end Effect

/-! ### Through the access log -/

namespace AccessLog.Layer

/-- **The access log passes on what it took in.** A reply whose body is at hand goes out as it is,
with a log or without, whether it is within the limit or not. -/
theorem finish_ofResponse (l : Layer) (clock : Clock) (request : Http.Request)
    (r : Http.Response) :
    (l.finish clock request (.ofResponse r)).1 = .ofResponse r := by
  rw [finish]
  split
  · rfl
  · split
    · rfl
    · next htakes =>
      have hsize : r.body.length ≤ l.limit := by
        simpa [takesIn, Http.Reply.ofResponse, Http.Stream.ofBytes] using htakes
      have hbody : (Http.Reply.ofResponse r).body.collect? l.limit = some r.body := by
        simp [Http.Reply.ofResponse, Http.Stream.collect?, Http.Stream.ofBytes, Http.Stream.bytes,
          hsize]
      rw [hbody]
      rfl

theorem visible_emit (l : Layer) (clock : Clock) (request : Http.Request) (r : Http.Response) :
    Effect.visible (l.emit clock request r) = [] := by
  rw [emit, Effect.visible_append]
  cases l.extractor.userSkipped request <;>
    simp [Effect.visible, Effect.isVisible]

theorem visible_finish (l : Layer) (clock : Clock) (request : Http.Request) (reply : Http.Reply) :
    Effect.visible (l.finish clock request reply).2 = [] := by
  rw [finish]
  split
  · rfl
  · split
    · exact visible_emit l clock request _
    · split
      · exact visible_emit l clock request _
      · rfl

end AccessLog.Layer

/-! ### To the caller -/

namespace Gateway

/-- **A delivery is one reply**, the one that was meant for the caller. -/
theorem visible_deliver (g : Gateway) (clock : AccessLog.Clock) (id : Nat) (request : Http.Request)
    (r : Http.Response) :
    Effect.visible (g.deliver clock id request (.ofResponse r))
      = [.reply id (outside request (.ofResponse r))] := by
  rw [deliver, Effect.visible_append, AccessLog.Layer.visible_finish]
  simp [Effect.visible, Effect.isVisible, AccessLog.Layer.finish_ofResponse]

/-- **A refusal is one reply.** -/
theorem visible_refuse (id : Nat) (request : Http.Request) (e : Error) :
    Effect.visible (refuse id request e)
      = [.reply id (outside request (.ofResponse e.response))] := by
  cases e <;> rfl

theorem work_deliver (g : Gateway) (clock : AccessLog.Clock) (id : Nat) (request : Http.Request)
    (r : Http.Response) : Effect.work (g.deliver clock id request (.ofResponse r)) = [] := by
  rw [← Effect.work_visible, visible_deliver]
  rfl

theorem replies_deliver (g : Gateway) (clock : AccessLog.Clock) (id : Nat)
    (request : Http.Request) (r : Http.Response) :
    Effect.replies (g.deliver clock id request (.ofResponse r))
      = [(id, outside request (.ofResponse r))] := by
  rw [← Effect.replies_visible, visible_deliver]
  rfl

theorem work_refuse (id : Nat) (request : Http.Request) (e : Error) :
    Effect.work (refuse id request e) = [] := by
  rw [← Effect.work_visible, visible_refuse]
  rfl

theorem replies_refuse (id : Nat) (request : Http.Request) (e : Error) :
    Effect.replies (refuse id request e) = [(id, outside request (.ofResponse e.response))] := by
  rw [← Effect.replies_visible, visible_refuse]
  rfl

/-- **An arrival does no work.** -/
theorem work_arrive {g : Gateway} {clock : AccessLog.Clock} {s : State} (request : Http.Request) :
    Effect.work (g.arrive clock s request).2 = [] := by
  simp only [arrive]
  split
  · exact work_refuse _ _ _
  · next admitted _ =>
    simp only [handle, wrongMethodReply]
    split
    · simp only [handOver]
      split
      · rw [work_deliver]
      · rfl
    all_goals rw [work_deliver]

end Gateway

end PurgeGateway
