import PurgeGateway.Proofs.Caller

/-!
# What the access log changes

A gateway with an access log and the same gateway without one get the same moves. They come to the
same states, ask for the same signatures, make the same requests, count the same, and want the same
paths warmed, whatever the log records.

What callers are told differs in one case only. With a log, a body that is too large is refused on
every route, as the log takes it in first; without a log only the purge route refuses it, and the
others, which do not look at bodies, answer as they always do.

## Main definitions

* `Gateway.withLog`, `Config.withLog`: the same with an access log or without one.
* `Move.isEven`: no request that comes in the move is told apart by the log.

## Main results

* `step_withLog`: one step with a log and without.
* `run_withLog`: all steps.
* `observes_iff`: when exactly the access log is but an observer.
-/

namespace PurgeGateway

/-- The configuration with an access log or without one. -/
def Config.withLog (c : Config) (on : Bool) : Config :=
  { c with logs := { c.logs with enabled := on } }

namespace Gateway

/-- The gateway with an access log or without one. -/
def withLog (g : Gateway) (on : Bool) : Gateway :=
  { g with log := { g.log with enabled := on } }

/-- A request that comes in the move has a body within the limit, or leads to the route that
refuses larger ones itself. -/
def Move.isEven (limit : Nat) : Move → Bool
  | .arrive request => request.body.length ≤ limit || destination request == .route .purge
  | _ => true

variable {g : Gateway} {clock : AccessLog.Clock} {s : State} {id : Nat}

/-- A configuration that differs only in the log gives a gateway that differs only in the log. -/
theorem ofConfig_withLog {c : Config} {shows : Bool} (h : ofConfig c shows = .ok g) (on : Bool) :
    ofConfig (c.withLog on) shows = .ok (g.withLog on) := by
  rw [ofConfig] at h ⊢
  rw [show (c.withLog on).warming = c.warming from rfl]
  cases hw : warmingFields c.warming with
  | error e => rw [hw] at h; cases h
  | ok warming =>
    rw [hw, Except.map, Except.ok.injEq] at h
    have hlog : AccessLog.Layer.ofConfig (c.withLog on)
        = { AccessLog.Layer.ofConfig c with enabled := on } := rfl
    rw [Except.map, ← h, hlog]
    simp only [Config.withLog, withLog]

/-! ### What is told on arrival -/

/-- What the caller of a request that was let in is told at once, if anything. -/
def answer? (g : Gateway) (clock : AccessLog.Clock) (s : State) (request : Http.Request) :
    Option Http.Response :=
  match destination request with
  | .route .purge =>
    if g.limit < request.body.length then some (Error.payloadTooLarge g.limit).response else none
  | .route .health => some (jsonResponse 200 (healthJson clock.time))
  | .route .metrics => some (g.showMetrics s)
  | .wrongMethod _ => some { status := 405 }
  | .nowhere => some Error.notFound.response

/-- The reply with a response, as an effect. -/
def told (id : Nat) (request : Http.Request) (r : Http.Response) : Effect :=
  .reply id (outside request (.ofResponse r))

/-- What comes of a request that was let in goes through the access log. -/
theorem effects_handle (request : Http.Request) :
    (g.handle clock s id request).2 = ((g.answer? clock s request).map fun r =>
      g.deliver clock id request (.ofResponse r)).getD [] := by
  rcases hroute : destination request with (_ | _ | _) | r | _
  · simp only [handle, answer?, hroute, handOver]
    split <;> rfl
  all_goals
    simp only [handle, answer?, hroute]
    rfl

theorem visible_handle (request : Http.Request) :
    Effect.visible (g.handle clock s id request).2
      = (g.answer? clock s request).toList.map (told id request) := by
  rw [effects_handle]
  cases g.answer? clock s request with
  | none => rfl
  | some r => exact visible_deliver g clock id request r

theorem visible_arrive (hlog : g.log.limit = g.limit) (request : Http.Request) :
    Effect.visible (g.arrive clock s request).2
      = if g.log.enabled && decide (g.limit < request.body.length) then
          [told s.arrived request (Error.payloadTooLarge g.limit).response]
        else
          (g.answer? clock { s with arrived := s.arrived + 1 } request).toList.map
            (told s.arrived request) := by
  simp only [arrive, AccessLog.Layer.letIn, hlog]
  cases h : g.log.enabled && decide (g.limit < request.body.length) with
  | true => exact visible_refuse _ _ _
  | false => exact visible_handle request

/-- Only the purge route tells that a body is too large. -/
theorem status_answer? (g : Gateway) (clock : AccessLog.Clock) (s : State)
    {request : Http.Request} (h : destination request ≠ .route .purge) :
    ∃ r, g.answer? clock s request = some r ∧ r.status ≠ 413 := by
  rw [answer?]
  split
  · next hroute => exact absurd hroute h
  · refine ⟨_, rfl, ?_⟩
    show (200 : Nat) ≠ 413
    decide
  · refine ⟨_, rfl, ?_⟩
    rw [showMetrics]
    split
    · show (200 : Nat) ≠ 413
      decide
    · show (404 : Nat) ≠ 413
      decide
  · refine ⟨_, rfl, ?_⟩
    show (405 : Nat) ≠ 413
    decide
  · refine ⟨_, rfl, ?_⟩
    show (404 : Nat) ≠ 413
    decide

theorem status_outside (request : Http.Request) (reply : Http.Reply) :
    (outside request reply).status = reply.status := by
  rw [outside, withoutBody, withAllow]
  split <;> split <;> rfl

/-- Replies with other statuses are other replies. -/
theorem told_ne {request : Http.Request} {a b : Http.Response} (h : a.status ≠ b.status) :
    told id request a ≠ told id request b := by
  intro heq
  have hreply : outside request (.ofResponse a) = outside request (.ofResponse b) :=
    (Effect.reply.inj heq).2
  have hstatus := congrArg Http.Reply.status hreply
  rw [status_outside, status_outside] at hstatus
  exact h hstatus

/-! ### One step -/

theorem settle_withLog (on : Bool) (caller : Option Http.Request) (p : Purge.Stage.Progress) :
    ((g.withLog on).settle clock id caller p).1 = (g.settle clock id caller p).1 ∧
      Effect.visible ((g.withLog on).settle clock id caller p).2
        = Effect.visible (g.settle clock id caller p).2 := by
  cases h : p.1.outcome? with
  | none =>
    rw [settle_of_none h, settle_of_none h]
    exact ⟨rfl, rfl⟩
  | some outcome =>
    rw [settle_of_some h, settle_of_some h]
    refine ⟨rfl, ?_⟩
    rw [Effect.visible_append, Effect.visible_append]
    cases caller with
    | none => rfl
    | some request =>
      simp only [Option.map_some, Option.getD_some, visible_deliver]

theorem proceed_withLog (on : Bool) (s : State) (id : Nat) (caller : Option Http.Request)
    (p : Purge.Stage.Progress) :
    ((g.withLog on).proceed clock s id caller p).1 = (g.proceed clock s id caller p).1 ∧
      Effect.visible ((g.withLog on).proceed clock s id caller p).2
        = Effect.visible (g.proceed clock s id caller p).2 := by
  obtain ⟨hleft, hvisible⟩ := settle_withLog (g := g) on caller p
  exact ⟨congrArg (s.setTask id) hleft, hvisible⟩

/-- A move that brings no request is the same with a log and without. -/
theorem perform_withLog (on : Bool) {m : Move} (h : ∀ request, m ≠ .arrive request) :
    ((g.withLog on).perform clock s m).1 = (g.perform clock s m).1 ∧
      Effect.visible ((g.withLog on).perform clock s m).2
        = Effect.visible (g.perform clock s m).2 := by
  cases m with
  | arrive request => exact absurd rfl (h request)
  | fetch id => exact ⟨rfl, rfl⟩
  | leave id => exact ⟨rfl, rfl⟩
  | expire id => exact ⟨rfl, rfl⟩
  | _ id =>
    simp only [perform, advance, forward]
    cases s.task? id with
    | none => exact ⟨rfl, rfl⟩
    | some task => exact proceed_withLog on _ id task.caller _

/-- An arrival leaves the same, and does no work, with a log and without. -/
theorem arrive_withLog (hlog : g.log.limit = g.limit) (on : Bool) (request : Http.Request) :
    ((g.withLog on).arrive clock s request).1 = (g.arrive clock s request).1 := by
  have hlog' : (g.withLog on).log.limit = (g.withLog on).limit := hlog
  have hsame : (g.withLog on).handsOver request = g.handsOver request := by
    rw [handsOver_eq hlog', handsOver_eq hlog]
    rfl
  cases hand : g.handsOver request with
  | true => rw [arrive_of_handsOver hand, arrive_of_handsOver (hsame.trans hand)]
  | false => rw [arrive_of_not_handsOver hand, arrive_of_not_handsOver (hsame.trans hand)]

/-- What is taken into the state is work. -/
theorem absorb_congr {a b : List Effect} (h : Effect.work a = Effect.work b) (s : State)
    (id : Nat) : s.absorb id a = s.absorb id b := by
  rw [State.absorb, State.absorb, ← Effect.samples_work, ← Effect.jobs_work, h,
    Effect.samples_work, Effect.jobs_work]

/-- **One step.** It leaves the same state with a log and without, and does the same work. -/
theorem step_withLog (hlog : g.log.limit = g.limit) (on : Bool) (clock : AccessLog.Clock)
    (s : State) (m : Move) :
    ((g.withLog on).step clock s m).1 = (g.step clock s m).1 ∧
      Effect.work ((g.withLog on).step clock s m).2 = Effect.work (g.step clock s m).2 := by
  have hperform : ((g.withLog on).perform clock s m).1 = (g.perform clock s m).1 ∧
      Effect.work ((g.withLog on).perform clock s m).2
        = Effect.work (g.perform clock s m).2 := by
    by_cases h : ∃ request, m = .arrive request
    · obtain ⟨request, rfl⟩ := h
      refine ⟨arrive_withLog hlog on request, ?_⟩
      simp only [perform, work_arrive]
    · obtain ⟨hstate, hvisible⟩ := perform_withLog (g := g) on fun request heq => h ⟨request, heq⟩
      rw [← Effect.work_visible, hvisible, Effect.work_visible]
      exact ⟨hstate, rfl⟩
  obtain ⟨hstate, hwork⟩ := hperform
  refine ⟨?_, hwork⟩
  simp only [step, hstate]
  exact absorb_congr hwork _ _

/-- A step that is even shows the same with a log and without. -/
theorem visible_step_even (hlog : g.log.limit = g.limit) {m : Move} (h : m.isEven g.limit = true) :
    Effect.visible ((g.withLog true).step clock s m).2
      = Effect.visible ((g.withLog false).step clock s m).2 := by
  by_cases harrive : ∃ request, m = .arrive request
  · obtain ⟨request, rfl⟩ := harrive
    simp only [step, perform]
    rw [visible_arrive (g := g.withLog true) hlog, visible_arrive (g := g.withLog false) hlog]
    simp only [withLog, Bool.true_and, Bool.false_and, Bool.false_eq_true, if_false]
    split
    · next hlarge =>
      have hroute : destination request = .route .purge := by
        simpa [Move.isEven, Nat.not_le.mpr (of_decide_eq_true hlarge)] using h
      simp only [answer?, hroute, of_decide_eq_true hlarge, if_true]
      rfl
    · rfl
  · have hother : ∀ request, m ≠ .arrive request := fun request heq => harrive ⟨request, heq⟩
    exact (perform_withLog true hother).2.trans (perform_withLog false hother).2.symm

/-- A step that is not shows one reply with a log and another without. -/
theorem visible_step_uneven (hlog : g.log.limit = g.limit) (clock : AccessLog.Clock) (s : State)
    {m : Move} (h : m.isEven g.limit = false) :
    ∃ e e', Effect.visible ((g.withLog true).step clock s m).2 = [e] ∧
      Effect.visible ((g.withLog false).step clock s m).2 = [e'] ∧ e ≠ e' := by
  cases m with
  | arrive request =>
    simp only [Move.isEven, Bool.or_eq_false_iff, decide_eq_false_iff_not, Nat.not_le,
      beq_eq_false_iff_ne] at h
    obtain ⟨hlarge, hroute⟩ := h
    obtain ⟨r, hr, hstatus⟩ := status_answer? (g.withLog false) clock
      { s with arrived := s.arrived + 1 } hroute
    refine ⟨told s.arrived request (Error.payloadTooLarge g.limit).response,
      told s.arrived request r, ?_, ?_, told_ne hstatus.symm⟩
    · simp only [step, perform]
      rw [visible_arrive (g := g.withLog true) hlog]
      simp [withLog, hlarge]
    · simp only [step, perform]
      rw [visible_arrive (g := g.withLog false) hlog, hr]
      simp [withLog]
  | _ => cases h

/-! ### All steps -/

/-- **All steps.** They leave the same state with a log and without, and do the same work. -/
theorem run_withLog (hlog : g.log.limit = g.limit) (on : Bool) (clock : AccessLog.Clock)
    (ms : List Move) : ∀ s : State,
    ((g.withLog on).run clock s ms).1 = (g.run clock s ms).1 ∧
      Effect.work ((g.withLog on).run clock s ms).2 = Effect.work (g.run clock s ms).2 := by
  induction ms with
  | nil => intro s; exact ⟨rfl, rfl⟩
  | cons m rest ih =>
    intro s
    obtain ⟨hstate, hwork⟩ := step_withLog hlog on clock s m
    obtain ⟨hlast, hlater⟩ := ih (g.step clock s m).1
    rw [run_cons_state, run_cons_state, run_cons_effects, run_cons_effects, hstate]
    refine ⟨hlast, ?_⟩
    rw [Effect.work_append, Effect.work_append, hwork, hlater]

/-- Runs show the same with a log and without if and only if all their steps are even. -/
theorem visible_run_iff (hlog : g.log.limit = g.limit) (ms : List Move) : ∀ s : State,
    Effect.visible ((g.withLog true).run clock s ms).2
        = Effect.visible ((g.withLog false).run clock s ms).2 ↔
      ∀ m ∈ ms, m.isEven g.limit = true := by
  induction ms with
  | nil => intro s; simp
  | cons m rest ih =>
    intro s
    rw [run_cons_effects, run_cons_effects, Effect.visible_append, Effect.visible_append,
      (step_withLog hlog true clock s m).1, (step_withLog hlog false clock s m).1,
      List.forall_mem_cons]
    cases h : m.isEven g.limit with
    | true =>
      rw [visible_step_even hlog h, List.append_cancel_left_eq, ih]
      simp
    | false =>
      -- the first uneven step shows one reply in each run, so no later effect can make up for it
      obtain ⟨e, e', he, he', hne⟩ := visible_step_uneven hlog clock s h
      rw [he, he']
      simp [hne]

/-- **When exactly the access log is but an observer.** Take a gateway of any configuration, with an
access log and without one, from the start, and any moves.

* The two configurations differ in the access log only.
* The two gateways come to the same state, metrics included, and do the same work: the signatures
  they ask for, the requests they make, what they count and what they want warmed are the same, in
  the same order.
* They also tell their callers the same, if and only if no request whose body is too large comes on
  another route than that for purges. -/
theorem observes_iff {c : Config} {shows : Bool} {g : Gateway} (hg : ofConfig c shows = .ok g)
    (clock : AccessLog.Clock) (files : FileTree) (peers : Peers) (ms : List Move) :
    (∀ on, ofConfig (c.withLog on) shows = .ok (g.withLog on)) ∧
      ((g.withLog true).run clock (.fresh files peers) ms).1
        = ((g.withLog false).run clock (.fresh files peers) ms).1 ∧
      Effect.work ((g.withLog true).run clock (.fresh files peers) ms).2
        = Effect.work ((g.withLog false).run clock (.fresh files peers) ms).2 ∧
      (Effect.visible ((g.withLog true).run clock (.fresh files peers) ms).2
          = Effect.visible ((g.withLog false).run clock (.fresh files peers) ms).2 ↔
        ∀ request, .arrive request ∈ ms →
          request.body.length ≤ c.listener.maxBodySize ∨ destination request = .route .purge) := by
  obtain ⟨-, hlimit, hlayer⟩ := of_ofConfig hg
  have hlog : g.log.limit = g.limit := by rw [hlayer, hlimit]; rfl
  obtain ⟨hstate, hwork⟩ := run_withLog hlog true clock ms (.fresh files peers)
  obtain ⟨hstate', hwork'⟩ := run_withLog hlog false clock ms (.fresh files peers)
  refine ⟨ofConfig_withLog hg, hstate.trans hstate'.symm, hwork.trans hwork'.symm, ?_⟩
  rw [visible_run_iff hlog, ← hlimit]
  constructor
  · intro h request hmem
    simpa [Move.isEven] using h (.arrive request) hmem
  · intro h m hmem
    cases m with
    | arrive request => simpa [Move.isEven] using h request hmem
    | _ => rfl

/-- With a log and without one, a purge shows the same. -/
theorem observes_plain :
    ofConfig (plainConfig loopback) true = .ok (plainGateway loopback) ∧
      Effect.visible (((plainGateway loopback).withLog true).run { time := "" }
          (.fresh {} .unreachable) (.arrive purgeOfOne :: callMoves (fun _ => .ok) 0)).2
        = Effect.visible (((plainGateway loopback).withLog false).run { time := "" }
          (.fresh {} .unreachable) (.arrive purgeOfOne :: callMoves (fun _ => .ok) 0)).2 := by
  have hconfig := ofConfig_plain loopback
  refine ⟨hconfig, (observes_iff hconfig { time := "" } {} .unreachable _).2.2.2.mpr ?_⟩
  intro request hmem
  refine .inr ?_
  have hrequest : request = purgeOfOne := by simpa [callMoves] using hmem
  rw [hrequest]
  decide +kernel

/-- A configuration in which bodies must be empty. -/
def bodiless : Config :=
  { plainConfig loopback with listener := { maxBodySizeMb := 0 } }

/-- A request to the route that tells how the gateway is, with a body of one byte. -/
def healthWithBody : Http.Request where
  target := { path := "/health" }
  body := [0]

/-- It is not so that the access log is but an observer: where bodies must be empty, a request with
a body is refused with a log and served without one. -/
theorem refused_with_log :
    ¬∀ (c : Config) (shows : Bool) (g : Gateway) (clock : AccessLog.Clock) (files : FileTree)
      (peers : Peers) (ms : List Move), ofConfig c shows = .ok g →
        Effect.replies ((g.withLog true).run clock (.fresh files peers) ms).2
          = Effect.replies ((g.withLog false).run clock (.fresh files peers) ms).2 := by
  intro h
  have hsame := h bodiless true (coldGateway bodiless) { time := "" } {} .unreachable
    [.arrive healthWithBody] (ofConfig_cold rfl)
  have hstatus := congrArg (List.map fun r => r.2.status) hsame
  revert hstatus
  decide +kernel

end Gateway

end PurgeGateway
