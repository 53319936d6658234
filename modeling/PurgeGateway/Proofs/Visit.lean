import PurgeGateway.Proofs.Caller
import PurgeGateway.Proofs.HandedOut
import PurgeGateway.Proofs.Share

/-!
# A request among others

A run of a gateway from its start, and one request that comes in it. What happened before the
request is any list of moves, and so is what happens behind it: other requests come, their calls go
on in any order, callers leave or are told that their time is up, paths are warmed.

## Main definitions

* `Visit`: a request that comes in a run.
* `Visit.own`: the effects of the run that belong to the request.
* `Visit.course`: what its purge call meets.
* `Visit.Ended`: the request has no purge call under way when the run is over.

## Main results

* `Visit.work_own`, `Visit.replies_own`: what is done for a request, and what its caller is told, is
  what its course says.
* `Visit.handedOut_own`: so are the signature that is asked for and the requests that leave.
* `Visit.ended_of_sublist`: the request ends once its call has been taken on, signed, forwarded and
  interpreted.
-/

namespace PurgeGateway.Gateway

/-- A request that comes in a run: the world at the start, the moves before it, and those behind
it. -/
structure Visit where
  clock : AccessLog.Clock
  files : FileTree
  peers : Peers
  history : List Move
  request : Http.Request
  moves : List Move

namespace Visit

section
variable (v : Visit) (g : Gateway)

/-- The state of the gateway at the start. -/
def fresh : State :=
  .fresh v.files v.peers

/-- All moves of the run. -/
def all : List Move :=
  v.history ++ .arrive v.request :: v.moves

/-- The state that the request meets. -/
def before : State :=
  (g.run v.clock v.fresh v.history).1

/-- The number of the request. -/
def number : Nat :=
  (v.before g).arrived

/-- No purge call of the request is under way when the run is over. -/
def Ended : Prop :=
  (g.run v.clock v.fresh v.all).1.task? (v.number g) = none

/-- The effects of the run that belong to the request, its warming apart. -/
def own : List Effect :=
  g.share v.clock v.fresh (v.number g) v.all

/-- The stage in which a purge call comes. -/
def received : Purge.Stage :=
  .received v.request.headers v.request.body

/-- The turns of the purge call of the request. -/
def turns : List Turn :=
  g.turns v.clock (v.before g) (v.number g) (.arrive v.request :: v.moves)

/-- What the purge call of the request meets; nothing if it has none. -/
def course : Course :=
  if g.handsOver v.request then courseOf g v.received (v.turns g) else {}

end

/-- Peers that are reached everywhere, of which the first takes what it gets. -/
def accepting : Peers where
  reaches := fun _ => true
  api := [.answers { status := 201, body := .ofBytes (Utf8.bytes "[201,\"taken\"]") }]

/-- A purge of one path with the gateway to itself. -/
def plain (peers : Peers) : Visit where
  clock := { time := "" }
  files := {}
  peers
  history := []
  request := purgeOfOne
  moves := callMoves (fun _ => .ok) 0

variable {v : Visit} {g : Gateway}

/-! ### The request in its run -/

theorem numbered_before (v : Visit) (g : Gateway) : (v.before g).Numbered :=
  numbered_run v.history (State.numbered_fresh v.files v.peers)

theorem run_all (v : Visit) (g : Gateway) : (g.run v.clock v.fresh v.all).1
    = (g.run v.clock (v.before g) (.arrive v.request :: v.moves)).1 :=
  run_append_state g v.clock v.history _ v.fresh

theorem ended_iff : v.Ended g ↔ (takeAll g v.clock (v.number g) (g.received? v.request)
    (v.turns g)).1 = none := by
  rw [Ended, run_all]
  exact Eq.congr_left
    (run_arrive_eq_takeAll g v.clock (numbered_before v g) v.request v.moves).1

/-- Nothing belongs to a request before it comes. -/
theorem own_eq (v : Visit) (g : Gateway) :
    v.own g = (g.arrive v.clock (v.before g) v.request).2
      ++ (takeAll g v.clock (v.number g) (g.received? v.request) (v.turns g)).2 := by
  have hhistory : g.share v.clock v.fresh (v.number g) v.history = [] :=
    share_of_arrived_le v.history (State.numbered_fresh v.files v.peers) (Nat.le_refl _)
  rw [own, all, share_append, hhistory, List.nil_append]
  exact (run_arrive_eq_takeAll g v.clock (numbered_before v g) v.request v.moves).2

/-! ### Requests that become purge calls -/

theorem received?_of_handsOver {request : Http.Request} (h : g.handsOver request = true) :
    g.received? request = some ⟨some request, .received request.headers request.body⟩ :=
  if_pos h

theorem course_of_handsOver (h : g.handsOver v.request = true) :
    v.course g = courseOf g v.received (v.turns g) :=
  if_pos h

theorem own_of_handsOver (h : g.handsOver v.request = true) :
    v.own g = (takeAll g v.clock (v.number g) (some ⟨some v.request, v.received⟩)
      (v.turns g)).2 := by
  rw [own_eq, received?_of_handsOver h, arrive_of_handsOver h, List.nil_append]
  rfl

theorem ended_iff_of_handsOver (h : g.handsOver v.request = true) :
    v.Ended g ↔ (follow g v.received (v.turns g)).1.outcome?.isSome = true := by
  have hopen : v.received.outcome? = none := rfl
  have hleft := (work_takeAll g v.clock (v.number g) (v.turns g) (some v.request) hopen).1
  rw [ended_iff, received?_of_handsOver h]
  show (takeAll g v.clock (v.number g) (some ⟨some v.request, v.received⟩) (v.turns g)).1 = none ↔ _
  rw [← Option.map_eq_none_iff, hleft]
  simp [Option.isSome_iff_ne_none]

/-- **What is done for a purge call** that ended is what its course says. -/
theorem work_own (h : g.handsOver v.request = true) (hend : v.Ended g) :
    Effect.work (v.own g) = Effect.work ((v.course g).finish g v.received).2 := by
  have hfollow := follow_eq_finish (v.turns g) ((ended_iff_of_handsOver h).mp hend)
  rw [own_of_handsOver h, course_of_handsOver h, ← hfollow]
  exact (work_takeAll g v.clock (v.number g) (v.turns g) (some v.request) rfl).2

/-- **What the caller of a purge call is told** once it ended: its outcome, or that the time was up,
or nothing if the caller left before. -/
theorem replies_own (h : g.handsOver v.request = true) (hend : v.Ended g) :
    ∃ outcome, ((v.course g).finish g v.received).1 = .ended outcome ∧
      Effect.replies (v.own g) = match (v.course g).impatience with
        | some i => Effect.replies (farewell (v.number g) v.request i)
        | none => [(v.number g, outside v.request (.ofResponse (outcomeResponse outcome)))] := by
  have hsome := (ended_iff_of_handsOver h).mp hend
  have hfollow := follow_eq_finish (v.turns g) hsome
  obtain ⟨outcome, houtcome⟩ := Option.isSome_iff_exists.mp hsome
  refine ⟨outcome, ?_, ?_⟩
  · rw [course_of_handsOver h, ← hfollow]
    cases hlast : (follow g v.received (v.turns g)).1 <;> rw [hlast] at houtcome <;> cases houtcome
    rfl
  · rw [own_of_handsOver h, course_of_handsOver h, replies_takeAll v.request (v.turns g) rfl,
      houtcome]
    cases (courseOf g v.received (v.turns g)).impatience <;> rfl

/-! ### What is handed out -/

/-- **What is handed out for a request**, whether its call has ended or not. -/
theorem handedOut_own (v : Visit) (g : Gateway) :
    Effect.asks (v.own g) = (v.course g).asked.toList ∧
      Effect.calls (v.own g) = (v.course g).calls := by
  cases h : g.handsOver v.request with
  | true =>
    rw [← Effect.asks_work, ← Effect.calls_work, own_of_handsOver h, course_of_handsOver h,
      (work_takeAll g v.clock (v.number g) (v.turns g) (some v.request) rfl).2,
      Effect.asks_work, Effect.calls_work]
    exact handedOut_follow g (v.turns g) v.received
  | false =>
    have hnone : g.received? v.request = none := by simp [received?, h]
    rw [← Effect.asks_work, ← Effect.calls_work, own_eq, hnone, takeAll_none, List.append_nil,
      work_arrive, course, h]
    exact ⟨rfl, rfl⟩

/-- A signature is asked for the request that the caller's own fields and body are routed to. -/
theorem routed_of_asked {outbound : Outbound} (h : (v.course g).asked = some outbound) :
    g.handsOver v.request = true ∧
      ∃ request, Routed g.api v.request.headers v.request.body request outbound := by
  rw [course] at h
  split at h
  · next hand =>
    refine ⟨hand, ?_⟩
    rcases asked_courseOf _ h with ⟨_, hstage⟩ | ⟨headers, body, request, hstage, hrouted⟩
    · cases hstage
    · cases hstage
      exact ⟨request, hrouted⟩
  · cases h

/-- What is forwarded was signed, by the signer that was asked. -/
theorem signed_of_forwarded {signed : Outbound} (h : (v.course g).forwarded = some signed) :
    ∃ outbound, (v.course g).asked = some outbound ∧
      (v.course g).signer outbound = .ok signed := by
  rw [course] at h ⊢
  split at h
  · next hand =>
    rw [if_pos hand]
    rcases forwarded_courseOf _ h with ⟨_, hstage⟩ | ⟨_, hsigned⟩
    · cases hstage
    · exact hsigned
  · cases h

/-! ### Coming to the end -/

theorem turns_cons_arrive (v : Visit) (g : Gateway) : v.turns g
    = g.turns v.clock (g.step v.clock (v.before g) (.arrive v.request)).1 (v.number g) v.moves := by
  rfl

/-- Moves that hold the four of a purge call in their order hold its four turns. -/
theorem turns_sublist (g : Gateway) (clock : AccessLog.Clock) {signer : Signer} {id : Nat}
    {ms : List Move} (h : (callMoves signer id).Sublist ms) (s : State) :
    ∃ c : Course, c.turns.Sublist (g.turns clock s id ms) := by
  rw [callMoves] at h
  obtain ⟨a, b, rfl, hstart, h⟩ := List.cons_sublist_iff.mp h
  obtain ⟨b, c, rfl, hsign, h⟩ := List.cons_sublist_iff.mp h
  obtain ⟨c, d, rfl, hforward, h⟩ := List.cons_sublist_iff.mp h
  have hinterpret : .interpret id ∈ d := List.singleton_sublist.mp h
  simp only [turns_append]
  obtain ⟨_, hstart⟩ := mem_turns g clock id hstart s
  obtain ⟨s₂, hsign⟩ := mem_turns g clock id hsign (g.run clock s a).1
  obtain ⟨s₃, hforward⟩ := mem_turns g clock id hforward
    (g.run clock (g.run clock s a).1 b).1
  obtain ⟨_, hinterpret⟩ := mem_turns g clock id hinterpret
    (g.run clock (g.run clock (g.run clock s a).1 b).1 c).1
  refine ⟨{ signer := signer (s₂.credentialsFile g), peers := s₃.peers }, ?_⟩
  refine List.cons_sublist_iff.mpr ⟨_, _, rfl, hstart _ (if_pos rfl), ?_⟩
  refine List.cons_sublist_iff.mpr ⟨_, _, rfl, hsign _ (if_pos rfl), ?_⟩
  refine List.cons_sublist_iff.mpr ⟨_, _, rfl, hforward _ (if_pos rfl), ?_⟩
  exact List.singleton_sublist.mpr (hinterpret _ (if_pos rfl))

/-- **Every request ends**, once its call has been taken on, signed, forwarded and interpreted,
whatever else happens meanwhile. -/
theorem ended_of_sublist {signer : Signer}
    (h : (callMoves signer (v.number g)).Sublist v.moves) : v.Ended g := by
  cases hand : g.handsOver v.request with
  | true =>
    obtain ⟨c, hc⟩ := turns_sublist g v.clock h
      (g.step v.clock (v.before g) (.arrive v.request)).1
    rw [ended_iff_of_handsOver hand, turns_cons_arrive]
    exact follow_ends hc
  | false =>
    have hnone : g.received? v.request = none := by simp [received?, hand]
    rw [ended_iff, hnone, takeAll_none]

end Visit

end PurgeGateway.Gateway
