import PurgeGateway.Proofs.Verdict
import PurgeGateway.Proofs.Visit

/-!
# What a purge call wants warmed

A purge call puts its paths down to be warmed at the turn that ends it, once, and only if it went
through, the request asks for warming, and the gateway warms.

## Main definitions

* `Course.GoesThrough`: the invalidation API took a call in its course.
* `Visit.GoesThrough`: the same of the call of a request in a run.

## Main results

* `jobs_progress`: paths are put down by a turn that ends the call.
* `jobs_finish_of_goesThrough`, `goesThrough_of_jobs`: when a course puts paths down.
* `Visit.jobs_own_eq_iff`: what the call of a request puts down.
-/

namespace PurgeGateway.Gateway

variable {g : Gateway} {clock : AccessLog.Clock} {id : Nat} {stage : Purge.Stage} {turn : Turn}

/-! ### One turn -/

theorem jobs_callEffects (sent : Peers.Sent) : Effect.jobs (Purge.Stage.callEffects sent) = [] :=
  Effect.jobs_map_call sent.calls

theorem jobs_arrive (g : Gateway) (clock : AccessLog.Clock) (s : State) (request : Http.Request) :
    Effect.jobs (g.arrive clock s request).2 = [] := by
  rw [← Effect.jobs_work, work_arrive]
  rfl

/-- What is put down when an answer is interpreted. -/
theorem jobs_interpret {request : Purge.Request} {answer : Http.Reply} {result : Purge.Result}
    (h : answer.body.whole?.bind Purge.Result.ofBytes? = some result) (warms : Bool) :
    Effect.jobs (Purge.Stage.interpret warms (.interpreting request answer)).2
      = if Http.isSuccess answer.status && request.warm && warms then [request.paths] else [] := by
  rw [Purge.Stage.interpret, h]
  simp only [Purge.Stage.succeed]
  split <;> rfl

/-- **Paths are put down by a turn that ends the call**, and once in it. -/
theorem jobs_progress (g : Gateway) (turn : Turn) (stage : Purge.Stage) :
    Effect.jobs (turn.progress g stage).2 = [] ∨
      ∃ paths outcome, Effect.jobs (turn.progress g stage).2 = [paths] ∧
        (turn.progress g stage).1 = .ended outcome := by
  cases happ : turn.applies stage with
  | false => exact .inl (by rw [progress_of_not_applies happ]; rfl)
  | true =>
    induction turn, stage, happ using Turn.applies_cases with
    | start headers body =>
      left
      rw [Turn.progress, Purge.Stage.start]
      rcases accept_cases g.api headers body with ⟨_, _, h⟩ | ⟨_, _, h⟩
      · rw [accept_of_routed h]; rfl
      · rw [h]; rfl
    | sign signer request outbound =>
      left
      rw [Turn.progress]
      rcases sign_cases signer request outbound with ⟨_, _, h⟩ | ⟨_, _, _, _, h⟩ <;> rw [h] <;> rfl
    | forward peers request signed =>
      left
      simp only [Turn.progress]
      rcases forward_cases peers request signed with ⟨_, _, h⟩ | ⟨_, _, _, h⟩ <;>
        rw [h, Effect.jobs_append, jobs_callEffects] <;> rfl
    | interpret request answer =>
      rw [Turn.progress]
      rcases interpret_cases g.warming.isSome request answer with ⟨_, hdecode, h⟩ | ⟨_, _, _, h⟩
      · rw [jobs_interpret hdecode]
        split
        · exact .inr ⟨request.paths, _, rfl, by rw [h]; rfl⟩
        · exact .inl rfl
      · exact .inl (by rw [h]; rfl)

/-- A call that is still under way has put nothing down. -/
theorem jobs_follow_of_open (ts : List Turn) : ∀ {stage : Purge.Stage},
    (follow g stage ts).1.outcome? = none → Effect.jobs (follow g stage ts).2 = [] := by
  induction ts with
  | nil => intro stage _; rfl
  | cons turn rest ih =>
    intro stage h
    rw [follow_cons] at h ⊢
    rw [Effect.jobs_append, ih h, List.append_nil]
    rcases jobs_progress g turn stage with hnone | ⟨_, outcome, _, hend⟩
    · exact hnone
    · rw [hend, follow_of_outcome? rfl] at h
      cases h

/-- Who the caller is, and what is told, has nothing to do with what is put down. -/
theorem jobs_take (g : Gateway) (clock : AccessLog.Clock) (id : Nat) (task : Task) (turn : Turn) :
    Effect.jobs (task.take g clock id turn).2 = Effect.jobs (turn.progress g task.stage).2 := by
  rw [← Effect.jobs_work, Task.take]
  rcases impatience?_cases turn task.stage with ⟨i, hi, happ⟩ | hi
  · rw [hi, progress_of_not_applies happ]
    cases task.caller with
    | none => rfl
    | some request => exact congrArg Effect.jobs (work_farewell id request i)
  · rw [hi]
    cases hnext : (turn.progress g task.stage).1.outcome? with
    | none => rw [settle_of_none hnext, Effect.jobs_work]
    | some outcome =>
      rw [settle_of_some hnext, Effect.work_append, Effect.jobs_append, Effect.jobs_work]
      cases task.caller with
      | none => exact List.append_nil _
      | some request =>
        rw [Option.map_some, Option.getD_some, work_deliver]
        exact List.append_nil _

/-- A call that puts paths down is over. -/
theorem take_eq_none_of_jobs {task : Task}
    (h : Effect.jobs (task.take g clock id turn).2 ≠ []) :
    (task.take g clock id turn).1 = none := by
  rw [jobs_take] at h
  rcases jobs_progress g turn task.stage with hnone | ⟨_, outcome, _, hend⟩
  · exact absurd hnone h
  · have hnext : (turn.progress g task.stage).1.outcome? = some outcome := by rw [hend]; rfl
    rcases impatience?_cases turn task.stage with ⟨i, _, happ⟩ | hi
    · rw [progress_of_not_applies happ] at h
      exact absurd rfl h
    · rw [Task.take, hi]
      exact congrArg Prod.fst (settle_of_some hnext)

/-! ### A course -/

/-- A call in its course goes through: it is routed and signed, the invalidation API answers it and
tells of success, and the answer can be read. -/
def Course.GoesThrough (c : Course) (api : String) (headers : Http.Headers) (body : List UInt8)
    (request : Purge.Request) : Prop :=
  ∃ outbound signed answer result, Routed api headers body request outbound ∧
    c.signer outbound = .ok signed ∧ (c.peers.send signed).answer = some answer ∧
      Http.isSuccess answer.status = true ∧
        answer.body.whole?.bind Purge.Result.ofBytes? = some result

section
variable {c : Course} {headers : Http.Headers} {body : List UInt8} {request : Purge.Request}

/-- A call that ends in a failure puts nothing down. -/
theorem jobs_finish_of_fail {stage : Purge.Stage} {turn : Turn} {e : Purge.Error}
    (hnext : c.next? stage = some turn) (hend : (turn.progress g stage).1 = .ended (.error e))
    (hjobs : Effect.jobs (turn.progress g stage).2 = []) :
    Effect.jobs (c.finish g stage).2 = [] := by
  rw [finish_of_progress_ended hnext hend, hjobs]

theorem jobs_finish_of_signed {outbound signed : Outbound} (h : c.signer outbound = .ok signed) :
    Effect.jobs (c.finish g (.signing request outbound)).2
      = Effect.jobs (c.finish g (.forwarding request signed)).2 := by
  rw [finish_of_signed h]
  rfl

theorem jobs_finish_of_answered {signed : Outbound} {answer : Http.Reply}
    (h : (c.peers.send signed).answer = some answer) :
    Effect.jobs (c.finish g (.forwarding request signed)).2
      = Effect.jobs (c.finish g (.interpreting request answer)).2 := by
  rw [finish_of_answered h, Effect.jobs_append, jobs_callEffects]
  rfl

theorem jobs_finish_of_decoded {answer : Http.Reply} {result : Purge.Result}
    (h : answer.body.whole?.bind Purge.Result.ofBytes? = some result) :
    Effect.jobs (c.finish g (.interpreting request answer)).2
      = if Http.isSuccess answer.status && request.warm && g.warming.isSome then [request.paths]
        else [] := by
  have hnext : c.next? (.interpreting request answer) = some .interpret := rfl
  have hend : (Turn.interpret.progress g (.interpreting request answer)).1
      = .ended (.ok ⟨answer.status, result⟩) := by
    simp only [Turn.progress, Purge.Stage.interpret, h]
    rfl
  rw [finish_of_progress_ended hnext hend]
  exact jobs_interpret h g.warming.isSome

/-- A call that goes through puts its paths down, if it asks for that and the gateway warms. -/
theorem jobs_finish_of_goesThrough (h : c.GoesThrough g.api headers body request)
    (hwarms : g.warming.isSome = true) (hasks : request.warm = true) :
    Effect.jobs (c.finish g (.received headers body)).2 = [request.paths] := by
  obtain ⟨outbound, signed, answer, result, hrouted, hsigned, hanswer, hsuccess, hdecoded⟩ := h
  rw [finish_of_routed c hrouted, jobs_finish_of_signed hsigned, jobs_finish_of_answered hanswer,
    jobs_finish_of_decoded hdecoded, hsuccess, hasks, hwarms]
  rfl

/-! A call that puts paths down has passed every stage. -/

theorem routed_of_jobs (h : Effect.jobs (c.finish g (.received headers body)).2 ≠ []) :
    ∃ request outbound, Routed g.api headers body request outbound := by
  rcases accept_cases g.api headers body with hrouted | ⟨e, notice, hfail⟩
  · exact hrouted
  · have hstart : Turn.start.progress g (.received headers body) = Purge.Stage.fail e notice :=
      hfail
    refine absurd (jobs_finish_of_fail (e := e) rfl ?_ ?_) h <;> rw [hstart] <;> rfl

theorem signed_of_jobs {outbound : Outbound}
    (h : Effect.jobs (c.finish g (.signing request outbound)).2 ≠ []) :
    ∃ signed, c.signer outbound = .ok signed := by
  rcases sign_cases c.signer request outbound with ⟨signed, hsigned, -⟩ | ⟨_, e, notice, -, hfail⟩
  · exact ⟨signed, hsigned⟩
  · have hsign : (Turn.sign c.signer).progress g (.signing request outbound)
        = ((Purge.Stage.fail e notice).1, .ask outbound :: (Purge.Stage.fail e notice).2) := hfail
    refine absurd (jobs_finish_of_fail (e := e) rfl ?_ ?_) h <;> rw [hsign] <;> rfl

theorem answered_of_jobs {signed : Outbound}
    (h : Effect.jobs (c.finish g (.forwarding request signed)).2 ≠ []) :
    ∃ answer, (c.peers.send signed).answer = some answer := by
  rcases forward_cases c.peers request signed with ⟨answer, hanswer, -⟩ | ⟨e, notice, -, hfail⟩
  · exact ⟨answer, hanswer⟩
  · have hforward : (Turn.forward c.peers).progress g (.forwarding request signed)
        = ((Purge.Stage.fail e notice).1,
          Purge.Stage.callEffects (c.peers.send signed) ++ (Purge.Stage.fail e notice).2) := hfail
    refine absurd (jobs_finish_of_fail (e := e) rfl ?_ ?_) h
    · rw [hforward]
      rfl
    · rw [hforward, Effect.jobs_append, jobs_callEffects]
      rfl

theorem decoded_of_jobs {answer : Http.Reply}
    (h : Effect.jobs (c.finish g (.interpreting request answer)).2 ≠ []) :
    ∃ result, answer.body.whole?.bind Purge.Result.ofBytes? = some result := by
  rcases interpret_cases g.warming.isSome request answer with
    ⟨result, hdecoded, -⟩ | ⟨e, notice, -, hfail⟩
  · exact ⟨result, hdecoded⟩
  · have hinterpret : Turn.interpret.progress g (.interpreting request answer)
        = Purge.Stage.fail e notice := hfail
    refine absurd (jobs_finish_of_fail (e := e) rfl ?_ ?_) h <;> rw [hinterpret] <;> rfl

/-- **A call that puts paths down went through**, asks for that, and the gateway warms. -/
theorem goesThrough_of_jobs (h : Effect.jobs (c.finish g (.received headers body)).2 ≠ []) :
    ∃ request, c.GoesThrough g.api headers body request ∧ g.warming.isSome = true ∧
      request.warm = true := by
  obtain ⟨request, outbound, hrouted⟩ := routed_of_jobs h
  rw [finish_of_routed c hrouted] at h
  obtain ⟨signed, hsigned⟩ := signed_of_jobs h
  rw [jobs_finish_of_signed hsigned] at h
  obtain ⟨answer, hanswer⟩ := answered_of_jobs h
  rw [jobs_finish_of_answered hanswer] at h
  obtain ⟨result, hdecoded⟩ := decoded_of_jobs h
  rw [jobs_finish_of_decoded hdecoded] at h
  split at h
  · next hall =>
    simp only [Bool.and_eq_true] at hall
    obtain ⟨⟨hsuccess, hasks⟩, hwarms⟩ := hall
    exact ⟨request, ⟨outbound, signed, answer, result, hrouted, hsigned, hanswer, hsuccess,
      hdecoded⟩, hwarms, hasks⟩
  · exact absurd rfl h

end

/-! ### The call of a request -/

namespace Visit

/-- A request becomes a purge call, which goes through. -/
def GoesThrough (v : Visit) (g : Gateway) (request : Purge.Request) : Prop :=
  g.handsOver v.request = true ∧
    (v.course g).GoesThrough g.api v.request.headers v.request.body request

variable {v : Visit}

/-- A request whose call is still under way, or that has none, has put nothing down. -/
theorem jobs_own_of_open (h : ¬v.Ended g ∨ g.handsOver v.request = false) :
    Effect.jobs (v.own g) = [] := by
  cases hand : g.handsOver v.request with
  | true =>
    have hopen : (follow g v.received (v.turns g)).1.outcome? = none := by
      rw [ended_iff_of_handsOver hand, hand] at h
      simpa using h
    rw [own_of_handsOver hand, ← Effect.jobs_work,
      (work_takeAll g v.clock (v.number g) (v.turns g) (some v.request) rfl).2, Effect.jobs_work]
    exact jobs_follow_of_open _ hopen
  | false =>
    have hnone : g.received? v.request = none := by simp [received?, hand]
    rw [own_eq, hnone, takeAll_none, List.append_nil]
    exact jobs_arrive g v.clock (v.before g) v.request

theorem jobs_own (hand : g.handsOver v.request = true) (hend : v.Ended g) :
    Effect.jobs (v.own g) = Effect.jobs ((v.course g).finish g v.received).2 := by
  rw [← Effect.jobs_work, work_own hand hend, Effect.jobs_work]

/-- **What the call of a request puts down**, once it ended. -/
theorem jobs_own_eq_iff (hend : v.Ended g) (paths : List String) :
    Effect.jobs (v.own g) = [paths] ↔ ∃ request, v.GoesThrough g request ∧
      g.warming.isSome = true ∧ request.warm = true ∧ request.paths = paths := by
  cases hand : g.handsOver v.request with
  | true =>
    rw [jobs_own hand hend]
    constructor
    · intro h
      have hsome : Effect.jobs ((v.course g).finish g v.received).2 ≠ [] := by
        rw [h]
        exact List.cons_ne_nil _ _
      obtain ⟨request, hthrough, hwarms, hasks⟩ := goesThrough_of_jobs hsome
      refine ⟨request, ⟨hand, hthrough⟩, hwarms, hasks, ?_⟩
      rw [received, jobs_finish_of_goesThrough hthrough hwarms hasks] at h
      exact (List.cons.inj h).1
    · rintro ⟨request, ⟨-, hthrough⟩, hwarms, hasks, rfl⟩
      exact jobs_finish_of_goesThrough hthrough hwarms hasks
  | false =>
    rw [jobs_own_of_open (.inr hand)]
    constructor
    · intro h
      cases h
    · rintro ⟨request, ⟨hover, -⟩, -⟩
      rw [hand] at hover
      cases hover

/-- A call puts paths down once at most. -/
theorem jobs_own_cases (v : Visit) (g : Gateway) :
    Effect.jobs (v.own g) = [] ∨ ∃ paths, Effect.jobs (v.own g) = [paths] := by
  by_cases hopen : ¬v.Ended g ∨ g.handsOver v.request = false
  · exact .inl (jobs_own_of_open hopen)
  · rw [not_or, not_not, Bool.not_eq_false] at hopen
    obtain ⟨hend, hand⟩ := hopen
    rw [jobs_own hand hend]
    by_cases hnone : Effect.jobs ((v.course g).finish g v.received).2 = []
    · exact .inl hnone
    · obtain ⟨request, hthrough, hwarms, hasks⟩ := goesThrough_of_jobs hnone
      exact .inr ⟨request.paths, jobs_finish_of_goesThrough hthrough hwarms hasks⟩

end Visit

end PurgeGateway.Gateway
