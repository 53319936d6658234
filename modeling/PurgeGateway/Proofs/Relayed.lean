import PurgeGateway.Proofs.Recorded
import PurgeGateway.Proofs.ResultFormat
import PurgeGateway.Proofs.Warmed

/-!
# The answer is passed on

The caller of a purge call gets the answer of the invalidation API: its status, and the result that
its body writes, written again as JSON. What the body says of a status does not count, and neither
does what becomes of the paths that are warmed. Writing a result again is no change if the body was
written that way in the first place.

This is said of all that the caller is told in the run, and not only of what the call tells: each
reply of a run has the number of the request that its move is about, and a move that warms replies
to nobody. A caller whose time is up is told so instead, and the answer that comes later finds no
one.

## Main definitions

* `Visit.heard`: all that the caller of a request is told in a run.
* `Visit.answer?`: the answer to the request that a purge call forwards.
* `Relays`: a reply passes an answer on.

## Main results

* `replies_run`: all replies of a run with a number are of the share of that number.
* `relays_jsonResponse`: a body that was written as a result is passed on byte by byte.
* `Visit.relayed`: the caller hears the answer, once and nothing else.
* `Visit.not_relayed_late`: a caller whose time was up does not.
-/

namespace PurgeGateway.Gateway

variable {g : Gateway} {clock : AccessLog.Clock} {s : State} {id : Nat}

/-! ### Whom a move tells -/

theorem caller_refuse {request : Http.Request} {e : Error} :
    ∀ r ∈ Effect.replies (refuse id request e), r.1 = id := by
  rw [replies_refuse]
  exact List.forall_mem_singleton.mpr rfl

theorem caller_deliver {request : Http.Request} {response : Http.Response} :
    ∀ r ∈ Effect.replies (g.deliver clock id request (.ofResponse response)), r.1 = id := by
  rw [replies_deliver]
  exact List.forall_mem_singleton.mpr rfl

theorem caller_arrive (g : Gateway) (clock : AccessLog.Clock) (s : State)
    (request : Http.Request) :
    ∀ r ∈ Effect.replies (g.arrive clock s request).2, r.1 = s.arrived := by
  rw [arrive]
  split
  · exact caller_refuse
  · rw [effects_handle]
    cases g.answer? clock _ _ with
    | none => exact List.forall_mem_nil _
    | some response => exact caller_deliver

/-- A turn tells the caller of its call only. -/
theorem caller_take (task : Task) (turn : Turn) :
    ∀ r ∈ Effect.replies (task.take g clock id turn).2, r.1 = id := by
  have hprogress : Effect.replies (turn.progress g task.stage).2 = [] := by
    rw [← Effect.replies_answers, answers_progress]
    rfl
  rw [Task.take]
  split
  · next i _ =>
    cases task.caller with
    | none => exact List.forall_mem_nil _
    | some request =>
      cases i with
      | leaves => exact List.forall_mem_nil _
      | timesOut => exact caller_refuse
  · cases hnext : (turn.progress g task.stage).1.outcome? with
    | none =>
      rw [settle_of_none hnext, hprogress]
      exact List.forall_mem_nil _
    | some outcome =>
      rw [settle_of_some hnext, Effect.replies_append, hprogress, List.nil_append]
      cases task.caller with
      | none => exact List.forall_mem_nil _
      | some request => exact caller_deliver

/-- **A move tells the caller that it is about**, and nobody if it warms. -/
theorem replies_step (g : Gateway) (clock : AccessLog.Clock) (s : State) (id : Nat) (m : Move) :
    (Effect.replies (g.step clock s m).2).filter (·.1 == id)
      = Effect.replies (if m.concerns s id then (g.step clock s m).2 else []) := by
  have hcaller : ∀ r ∈ Effect.replies (g.step clock s m).2, m.isFetch = false ∧
      r.1 = m.subject s := by
    rcases move_cases g s m with ⟨i, rfl⟩ | ⟨request, rfl⟩ | ⟨turn, hturn⟩
    · have hnone : Effect.replies (g.fetch s i).2 = [] := by
        rw [← Effect.replies_answers, answers_fetch]
        rfl
      intro r hr
      rw [show (g.step clock s (.fetch i)).2 = (g.fetch s i).2 from rfl, hnone] at hr
      cases hr
    · exact fun r hr => ⟨rfl, caller_arrive g clock s request r hr⟩
    · have hfetch : m.isFetch = false := by
        cases m <;> first | rfl | cases hturn
      rw [(step_of_turn?_eq_some clock hturn).2]
      cases s.task? (m.subject s) with
      | none => exact List.forall_mem_nil _
      | some task => exact fun r hr => ⟨hfetch, caller_take task turn r hr⟩
  cases hm : m.concerns s id with
  | true =>
    simp only [Move.concerns, Bool.and_eq_true, beq_iff_eq] at hm
    refine List.filter_eq_self.mpr fun r hr => ?_
    rw [(hcaller r hr).2, hm.2, beq_self_eq_true]
  | false =>
    refine List.filter_eq_nil_iff.mpr fun r hr => ?_
    obtain ⟨hfetch, hsubject⟩ := hcaller r hr
    rw [Move.concerns, hfetch] at hm
    rw [hsubject]
    simpa using hm

/-- **All replies with a number belong to the request with that number.** -/
theorem replies_run (g : Gateway) (clock : AccessLog.Clock) (id : Nat) (ms : List Move) :
    ∀ s : State, (Effect.replies (g.run clock s ms).2).filter (·.1 == id)
      = Effect.replies (g.share clock s id ms) := by
  induction ms with
  | nil => intro s; rfl
  | cons m rest ih =>
    intro s
    rw [run_cons_effects, share, Effect.replies_append, Effect.replies_append, List.filter_append,
      replies_step, ih]

/-! ### What is passed on -/

/-- The reply passes the answer on: it has the status of the answer and, as JSON, the result that
the answer tells; a body that a result was written as is passed on byte by byte. -/
structure Relays (answer : Http.Reply) (result : Purge.Result) (reply : Http.Reply) : Prop where
  status : reply.status = answer.status
  headers : reply.headers = [⟨"content-type", Utf8.bytes "application/json"⟩]
  body : reply.body.whole? = some (Utf8.bytes result.toJson.compact)
  verbatim : ∀ r : Purge.Result, answer.body.whole? = some (Utf8.bytes r.toJson.compact) →
    reply.body.whole? = answer.body.whole?

/-- **The response to a call that went through passes the answer on.** -/
theorem relays_jsonResponse {answer : Http.Reply} {result : Purge.Result}
    (hdecode : answer.body.whole?.bind Purge.Result.ofBytes? = some result) :
    Relays answer result (.ofResponse (jsonResponse answer.status result.toJson)) := by
  have hbody : (Http.Reply.ofResponse (jsonResponse answer.status result.toJson)).body.whole?
      = some (Utf8.bytes result.toJson.compact) := by
    rw [Http.Reply.ofResponse, jsonResponse, Http.Stream.whole?_ofBytes]
  refine ⟨?_, ?_, hbody, ?_⟩
  · rw [Http.Reply.ofResponse, jsonResponse]
  · rw [Http.Reply.ofResponse, jsonResponse, jsonHeader]
  · intro r hwritten
    rw [hwritten, Option.bind_some, Purge.Result.ofBytes?_compact] at hdecode
    obtain rfl := Option.some.inj hdecode
    rw [hbody, hwritten]

/-! ### Callers -/

namespace Visit

section
variable (v : Visit) (g : Gateway)

/-- All that the caller of the request is told in the run. -/
def heard : List Http.Reply :=
  ((Effect.replies (g.run v.clock v.fresh v.all).2).filter (·.1 == v.number g)).map (·.2)

/-- The answer of the invalidation API to the request that the purge call forwards, the last one if
answers led elsewhere. -/
def answer? : Option Http.Reply :=
  (v.course g).forwarded.bind fun signed => ((v.course g).peers.send signed).answer

end

variable {v : Visit}

theorem heard_eq (v : Visit) (g : Gateway) :
    v.heard g = (Effect.replies (v.own g)).map (·.2) := by
  rw [heard, replies_run]
  rfl

/-- A call with an answer that tells a result comes to the rule for calls that go through. -/
theorem verdict_of_answer? {answer : Http.Reply} {result : Purge.Result}
    (hanswer : v.answer? g = some answer)
    (hdecode : answer.body.whole?.bind Purge.Result.ofBytes? = some result) :
    g.handsOver v.request = true ∧ ∃ ending,
      Verdict g.limit g.api v.request (v.course g).signer (v.course g).peers ending ∧
        ending.response = jsonResponse answer.status result.toJson := by
  obtain ⟨signed, hforwarded, hsend⟩ := Option.bind_eq_some_iff.mp hanswer
  obtain ⟨outbound, hasked, hsigned⟩ := signed_of_forwarded hforwarded
  obtain ⟨hand, request, hrouted⟩ := routed_of_asked hasked
  exact ⟨hand, _, .relayed (destination_of_handsOver hand).2 hrouted hsigned hsend hdecode, rfl⟩

/-- **The caller hears the answer.** Take any gateway and any purge call in a run of it, with
anything before it and anything beside and behind it: other calls, and the warming of its own paths
or of others, whatever comes of it. Say that the call is answered in the end, with any status, and
that a result can be read from the body of the answer.

* The call ends once it has been taken on, signed, forwarded and interpreted.
* Once it ended, a caller who waited for it is told one thing in the whole run: the status of the
  answer with that result as JSON, and byte by byte the body of the answer if that is how a result
  is written. -/
theorem relayed (v : Visit) (g : Gateway) {answer : Http.Reply} {result : Purge.Result}
    (hanswer : v.answer? g = some answer)
    (hdecode : answer.body.whole?.bind Purge.Result.ofBytes? = some result) :
    ((∃ signer, (callMoves signer (v.number g)).Sublist v.moves) → v.Ended g) ∧
      (v.Ended g → (v.course g).impatience = none →
        ∃ reply, v.heard g = [reply] ∧ Relays answer result reply) := by
  constructor
  · rintro ⟨signer, hsub⟩
    exact ended_of_sublist hsub
  · intro hend hpatient
    obtain ⟨hand, ending, hverdict, hresponse⟩ := verdict_of_answer? hanswer hdecode
    obtain ⟨hroute, hsize⟩ := destination_of_handsOver hand
    refine ⟨_, ?_, relays_jsonResponse hdecode⟩
    rw [heard_eq, replies_of_verdict hand hend hsize hverdict hpatient, outside_purge hroute,
      hresponse]
    rfl

/-! A purge that is taken with another status than its body tells, by a gateway that warms; the
first path to be warmed meets a closed connection. -/

/-- A result that says nothing of who can be asked about it. -/
def taken : Purge.Result :=
  { httpStatus := 202, detail := "taken", estimatedSeconds := some 5 }

/-- A purge of paths that are warmed as soon as the call has ended. -/
def warmedBehind : Visit where
  clock := { time := "" }
  files := {}
  peers :=
    { accepting with
      api := [.answers { status := 201, body := .ofBytes (Utf8.bytes taken.toJson.compact) }]
      origin := [.closes] }
  history := []
  request := purgeToWarm
  moves := callMoves (fun _ => .ok) 0 ++ [.fetch 0, .fetch 0]

/-- The caller is told the status of the answer, and gets the body of the answer. -/
theorem relayed_warmedBehind :
    ofConfig warmingConfig true = .ok warmingGateway ∧
      ∃ answer, warmedBehind.answer? warmingGateway = some answer ∧
        answer.body.whole?.bind Purge.Result.ofBytes? = some taken ∧
        (warmedBehind.heard warmingGateway).map (fun reply => (reply.status, reply.body.whole?))
          = [(201, answer.body.whole?)] := by
  have hparts : (warmedBehind.answer? warmingGateway).map (fun a => (a.status, a.body))
      = some (201, .ofBytes (Utf8.bytes taken.toJson.compact)) := by
    decide +kernel
  have hpatient : (warmedBehind.course warmingGateway).impatience = none := by
    decide +kernel
  obtain ⟨answer, hanswer, hparts⟩ := Option.map_eq_some_iff.mp hparts
  obtain ⟨hstatus, hbody⟩ := Prod.mk.inj hparts
  have hwritten : answer.body.whole? = some (Utf8.bytes taken.toJson.compact) := by
    rw [hbody, Http.Stream.whole?_ofBytes]
  have hdecode : answer.body.whole?.bind Purge.Result.ofBytes? = some taken := by
    rw [hwritten, Option.bind_some, Purge.Result.ofBytes?_compact]
  obtain ⟨hends, hrelayed⟩ := relayed warmedBehind warmingGateway hanswer hdecode
  have hend := hends ⟨fun _ => .ok, List.sublist_append_left _ _⟩
  obtain ⟨reply, hheard, hrelays⟩ := hrelayed hend hpatient
  refine ⟨ofConfig_warming, answer, hanswer, hdecode, ?_⟩
  rw [hheard, List.map_singleton, hrelays.status, hstatus, hrelays.verbatim taken hwritten]

/-- The same purge, with a caller whose time is up while the signature is waited for. -/
def late : Visit :=
  { warmedBehind with moves := .start 0 :: .expire 0 :: (callMoves (fun _ => .ok) 0).tail }

/-- It is not so that every caller hears the answer: whose time is up is told that alone. -/
theorem not_relayed_late :
    ¬∀ (c : Config) (shows : Bool) (g : Gateway) (v : Visit) (answer : Http.Reply)
        (result : Purge.Result), ofConfig c shows = .ok g → v.answer? g = some answer →
      answer.body.whole?.bind Purge.Result.ofBytes? = some result → v.Ended g →
        ∃ reply, v.heard g = [reply] ∧ Relays answer result reply := by
  intro h
  have hparts : (late.answer? warmingGateway).map (fun a => (a.status, a.body))
      = some (201, .ofBytes (Utf8.bytes taken.toJson.compact)) := by
    decide +kernel
  have hstatuses : (late.heard warmingGateway).map (·.status) = [408] := by
    decide +kernel
  obtain ⟨answer, hanswer, hparts⟩ := Option.map_eq_some_iff.mp hparts
  obtain ⟨hstatus, hbody⟩ := Prod.mk.inj hparts
  have hdecode : answer.body.whole?.bind Purge.Result.ofBytes? = some taken := by
    rw [hbody, Http.Stream.whole?_ofBytes, Option.bind_some, Purge.Result.ofBytes?_compact]
  have hsub : (callMoves (fun _ => .ok) (late.number warmingGateway)).Sublist late.moves :=
    .cons_cons _ (.cons _ (List.Sublist.refl _))
  have hend : late.Ended warmingGateway := ended_of_sublist hsub
  obtain ⟨reply, hheard, hrelays⟩ :=
    h warmingConfig true warmingGateway late answer taken ofConfig_warming hanswer hdecode hend
  rw [hheard, List.map_singleton, hrelays.status, hstatus] at hstatuses
  cases hstatuses

end Visit

end PurgeGateway.Gateway
