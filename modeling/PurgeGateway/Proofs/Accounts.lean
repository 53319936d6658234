import PurgeGateway.Proofs.Warmed
import Mathlib.Algebra.BigOperators.Group.List.Basic
import Mathlib.Algebra.GroupWithZero.Nat

/-!
# What is counted

Counters go up in three places that know nothing of each other: where a purge call ends, where the
invalidation API has answered, and where a path was tried. What keeps them together is that a stage
of a call fixes all that was counted on the way to it. So the counters of a gateway with nothing
under way can be read off the calls that it took.

All requests of a run are looked at side by side, each as a visit of its own. The effects of the run
are those of its visits, and a count is the sum of their counts.

## Main definitions

* `Purge.Stage.counted`: what a call has counted on its way to a stage.
* `visits`: the requests of a run, each with what happens around it.
* `Visit.outcome?`: how the call of a request ended.
* `State.Quiet`: no call is under way, and no path waits to be warmed.

## Main results

* `counted_progress`, `counted_follow`: turns count what the stage says.
* `run_perm_visits`: the effects of a run, visit by visit.
* `count_run`: a counter is the sum over the visits.
* `calls_conserved`: what the counters of a quiet gateway say.
-/

namespace PurgeGateway

/-! ### What a call counts -/

/-- How a call ended, as it is counted: with a failure, or without one. -/
def Purge.failure? : Except Purge.Error Purge.Relay → Option Purge.Error
  | .ok _ => none
  | .error e => some e

/-- The invalidation API answered a call that ended so. An answer that cannot be read is one. -/
def Purge.wasAnswered : Except Purge.Error Purge.Relay → Bool
  | .ok _ => true
  | .error e => e == .undecodableReply

/-- What a call has counted on its way to a stage. -/
def Purge.Stage.counted : Purge.Stage → List Sample
  | .received _ _ | .signing _ _ | .forwarding _ _ => []
  | .interpreting _ _ => [.latency]
  | .ended outcome =>
    (if wasAnswered outcome then [.latency] else []) ++ [.purge (failure? outcome)]

/-- The sample is of the end of a purge call. -/
def Sample.isPurge : Sample → Bool
  | .purge _ => true
  | _ => false

/-- The counters of purge calls add up to the number of calls that were counted. -/
theorem Metrics.sum_outcomes (m : Metrics) :
    (outcomes.map fun o => m.count (.purge o)).sum = m.samples.countP Sample.isPurge := by
  unfold count
  induction m.samples with
  | nil => rfl
  | cons sample rest ih =>
    rw [List.countP_cons, ← ih]
    cases sample with
    | purge failure =>
      cases failure with
      | none => simp [outcomes, Sample.isPurge]; omega
      | some e => cases e <;> simp [outcomes, Sample.isPurge] <;> omega
    | latency => simp [outcomes, Sample.isPurge]
    | fetch answered => simp [outcomes, Sample.isPurge]

namespace Gateway

variable {g : Gateway} {clock : AccessLog.Clock} {s : State} {id : Nat}

theorem samples_callEffects (sent : Peers.Sent) :
    Effect.samples (Purge.Stage.callEffects sent) = [] :=
  Effect.samples_map_call sent.calls

/-- **One turn counts what the next stage says**, beyond what its own stage says. -/
theorem counted_progress (g : Gateway) (turn : Turn) (stage : Purge.Stage) :
    stage.counted ++ Effect.samples (turn.progress g stage).2
      = (turn.progress g stage).1.counted := by
  cases happ : turn.applies stage with
  | false =>
    rw [progress_of_not_applies happ]
    exact List.append_nil _
  | true =>
    induction turn, stage, happ using Turn.applies_cases with
    | start headers body =>
      simp only [Turn.progress, Purge.Stage.start, Purge.Stage.accept, Purge.Stage.routed]
      split
      · rfl
      · split
        · rfl
        · split
          · rfl
          · split <;> rfl
    | sign signer request outbound =>
      simp only [Turn.progress, Purge.Stage.sign]
      split <;> rfl
    | forward peers request signed =>
      simp only [Turn.progress, Purge.Stage.forward]
      split <;> rw [Effect.samples_append, samples_callEffects] <;> rfl
    | interpret request answer =>
      simp only [Turn.progress, Purge.Stage.interpret]
      split
      · rw [Purge.Stage.succeed]
        split <;> rfl
      · rfl

/-- **So do turns one after the other.** -/
theorem counted_follow (g : Gateway) (ts : List Turn) : ∀ stage : Purge.Stage,
    stage.counted ++ Effect.samples (follow g stage ts).2 = (follow g stage ts).1.counted := by
  induction ts with
  | nil => intro stage; exact List.append_nil _
  | cons turn rest ih =>
    intro stage
    rw [follow_cons, Effect.samples_append, ← List.append_assoc, counted_progress, ih]

/-! ### What a state has counted -/

theorem samples_run (g : Gateway) (clock : AccessLog.Clock) (ms : List Move) : ∀ s : State,
    (g.run clock s ms).1.metrics.samples
      = s.metrics.samples ++ Effect.samples (g.run clock s ms).2 := by
  induction ms with
  | nil => intro s; exact (List.append_nil _).symm
  | cons m rest ih =>
    intro s
    have hstep : (g.step clock s m).1.metrics.samples
        = s.metrics.samples ++ Effect.samples (g.step clock s m).2 := by
      simp only [step, State.absorb, Metrics.add, metrics_perform]
    rw [run_cons_state, run_cons_effects, ih, hstep, Effect.samples_append, List.append_assoc]

/-! ### The requests of a run -/

/-- The request that comes in a move. -/
def Move.request? : Move → Option Http.Request
  | .arrive request => some request
  | _ => none

/-- The requests among moves, each with what happens around it, where other moves have been
before. -/
def visitsFrom (clock : AccessLog.Clock) (files : FileTree) (peers : Peers) (history : List Move) :
    List Move → List Visit
  | [] => []
  | m :: rest =>
    (m.request?.map fun request => ⟨clock, files, peers, history, request, rest⟩).toList
      ++ visitsFrom clock files peers (history ++ [m]) rest

/-- The requests of a run, each with what happens around it. -/
def visits (clock : AccessLog.Clock) (files : FileTree) (peers : Peers) (ms : List Move) :
    List Visit :=
  visitsFrom clock files peers [] ms

theorem of_mem_visitsFrom {clock : AccessLog.Clock} {files : FileTree} {peers : Peers} {v : Visit}
    (ms : List Move) : ∀ {history : List Move}, v ∈ visitsFrom clock files peers history ms →
      v.clock = clock ∧ v.files = files ∧ v.peers = peers ∧ v.all = history ++ ms := by
  induction ms with
  | nil => intro history h; cases h
  | cons m rest ih =>
    intro history h
    rcases List.mem_append.mp h with hhere | hlater
    · obtain ⟨request, hrequest, rfl⟩ := Option.map_eq_some_iff.mp (Option.mem_toList.mp hhere)
      cases m with
      | arrive _ =>
        cases hrequest
        exact ⟨rfl, rfl, rfl, rfl⟩
      | _ => cases hrequest
    · have hall := ih hlater
      rwa [List.append_assoc] at hall

theorem of_mem_visits {files : FileTree} {peers : Peers} {ms : List Move} {v : Visit}
    (h : v ∈ visits clock files peers ms) :
    v.clock = clock ∧ v.files = files ∧ v.peers = peers ∧ v.all = ms :=
  of_mem_visitsFrom ms h

theorem map_request_visitsFrom (clock : AccessLog.Clock) (files : FileTree) (peers : Peers)
    (ms : List Move) : ∀ history : List Move,
      (visitsFrom clock files peers history ms).map Visit.request
        = ms.filterMap Move.request? := by
  induction ms with
  | nil => intro history; rfl
  | cons m rest ih =>
    intro history
    rw [visitsFrom, List.map_append, ih, List.filterMap_cons]
    cases m.request? <;> rfl

theorem arrived_step_eq (g : Gateway) (clock : AccessLog.Clock) (s : State) (m : Move) :
    (g.step clock s m).1.arrived = s.arrived + m.request?.toList.length := by
  rw [arrived_step]
  cases m <;> rfl

theorem arrived_run (g : Gateway) (clock : AccessLog.Clock) (ms : List Move) : ∀ s : State,
    (g.run clock s ms).1.arrived = s.arrived + (ms.filterMap Move.request?).length := by
  induction ms with
  | nil => intro s; rfl
  | cons m rest ih =>
    intro s
    rw [run_cons_state, ih, arrived_step_eq, List.filterMap_cons]
    cases m.request? with
    | none => rfl
    | some request => simp only [Option.toList_some, List.length_cons, List.length_nil]; omega

/-- The requests of a run have their numbers in turn. -/
theorem map_number_visitsFrom (g : Gateway) (clock : AccessLog.Clock) (files : FileTree)
    (peers : Peers) (ms : List Move) : ∀ history : List Move,
      (visitsFrom clock files peers history ms).map (·.number g)
        = List.range' (g.run clock (.fresh files peers) history).1.arrived
            (ms.filterMap Move.request?).length := by
  induction ms with
  | nil => intro history; rfl
  | cons m rest ih =>
    intro history
    have hnext : (g.run clock (.fresh files peers) (history ++ [m])).1.arrived
        = (g.run clock (.fresh files peers) history).1.arrived + m.request?.toList.length := by
      rw [run_append_state]
      exact arrived_step_eq g clock _ m
    rw [visitsFrom, List.map_append, ih, hnext, List.filterMap_cons]
    cases m.request? <;> rfl

theorem map_number_visits (g : Gateway) (clock : AccessLog.Clock) (files : FileTree)
    (peers : Peers) (ms : List Move) : (visits clock files peers ms).map (·.number g)
      = List.range (g.run clock (.fresh files peers) ms).1.arrived := by
  have hcame : (g.run clock (.fresh files peers) ms).1.arrived
      = (ms.filterMap Move.request?).length := (arrived_run g clock ms _).trans (Nat.zero_add _)
  rw [visits, map_number_visitsFrom, hcame, List.range_eq_range']
  rfl

/-- **The effects of a run are those of its requests**, each with its warming, and nothing
besides. -/
theorem run_perm_visits (g : Gateway) (clock : AccessLog.Clock) (files : FileTree) (peers : Peers)
    (ms : List Move) : (g.run clock (.fresh files peers) ms).2.Perm
      ((visits clock files peers ms).flatMap fun v => v.own g ++ v.warmed g) := by
  have hnumbers : (visits clock files peers ms).flatMap (fun v => v.own g ++ v.warmed g)
      = (List.range (g.run clock (.fresh files peers) ms).1.arrived).flatMap fun id =>
          g.share clock (.fresh files peers) id ms
            ++ g.warmed clock (.fresh files peers) id ms := by
    rw [← map_number_visits, List.flatMap_map]
    refine List.flatMap_congr fun v hv => ?_
    obtain ⟨hclock, hfiles, hpeers, hall⟩ := of_mem_visits hv
    simp only [Visit.own, Visit.warmed, Visit.fresh, hclock, hfiles, hpeers, hall]
  rw [hnumbers]
  exact run_perm ms (State.orderly_fresh files peers) (Nat.le_refl _)

/-! ### What a visit counts -/

namespace Visit

section
variable (v : Visit) (g : Gateway)

/-- How the call of the request ended; nothing if it has not, or if there was none. -/
def outcome? : Option (Except Purge.Error Purge.Relay) :=
  if g.handsOver v.request then (follow g v.received (v.turns g)).1.outcome? else none

/-- What is counted for the request. -/
def samples : List Sample :=
  Effect.samples (v.own g) ++ Effect.samples (v.warmed g)

end

variable {v : Visit}

theorem isSome_outcome? (hend : v.Ended g) : (v.outcome? g).isSome = g.handsOver v.request := by
  rw [outcome?]
  cases hand : g.handsOver v.request with
  | true => exact (ended_iff_of_handsOver hand).mp hend
  | false => rfl

/-- **What the call of a request counts**, once it has ended, is said by its outcome. -/
theorem samples_own (hend : v.Ended g) : Effect.samples (v.own g)
    = match v.outcome? g with
      | some outcome => (Purge.Stage.ended outcome).counted
      | none => [] := by
  cases hand : g.handsOver v.request with
  | true =>
    have hsome := (ended_iff_of_handsOver hand).mp hend
    have hcounted : Effect.samples (follow g v.received (v.turns g)).2
        = (follow g v.received (v.turns g)).1.counted := counted_follow g (v.turns g) v.received
    rw [← Effect.samples_work, own_of_handsOver hand,
      (work_takeAll g v.clock (v.number g) (v.turns g) (some v.request) rfl).2,
      Effect.samples_work, hcounted, outcome?, hand, if_pos rfl]
    cases hlast : (follow g v.received (v.turns g)).1 with
    | ended outcome => rfl
    | _ => rw [hlast] at hsome; cases hsome
  | false =>
    rw [own_of_not_handsOver hand, ← Effect.samples_work, work_arrive, outcome?, hand]
    rfl

/-- The warming of a request counts what was tried for it. -/
theorem samples_eq (hend : v.Ended g) : v.samples g
    = (match v.outcome? g with
      | some outcome => (Purge.Stage.ended outcome).counted
      | none => [])
      ++ (v.attempts g).map fun a => .fetch (a.answered (g.warming.getD [])) := by
  rw [samples, samples_own hend]
  exact congrArg _ (samples_warmed v.all v.fresh)

theorem countP_isPurge_samples (hend : v.Ended g) :
    (v.samples g).countP Sample.isPurge = if g.handsOver v.request then 1 else 0 := by
  have hwarmed : ((v.attempts g).map fun a =>
      Sample.fetch (a.answered (g.warming.getD []))).countP Sample.isPurge = 0 := by
    simp [List.countP_eq_zero, Sample.isPurge]
  rw [samples_eq hend, List.countP_append, hwarmed, ← isSome_outcome? hend]
  cases v.outcome? g with
  | none => rfl
  | some outcome =>
    cases h : Purge.wasAnswered outcome <;> simp [Purge.Stage.counted, h, Sample.isPurge]

theorem count_purge_samples (hend : v.Ended g) (o : Option Purge.Error) :
    (v.samples g).count (.purge o)
      = if (v.outcome? g).map Purge.failure? = some o then 1 else 0 := by
  have hwarmed : ((v.attempts g).map fun a =>
      Sample.fetch (a.answered (g.warming.getD []))).count (.purge o) = 0 := by
    simp [List.count_eq_zero]
  rw [samples_eq hend, List.count_append, hwarmed]
  cases v.outcome? g with
  | none => rfl
  | some outcome =>
    cases h : Purge.wasAnswered outcome <;> simp [Purge.Stage.counted, h, List.count_singleton]

theorem count_latency_samples (hend : v.Ended g) : (v.samples g).count .latency
    = (v.samples g).count (.purge none)
      + (v.samples g).count (.purge (some .undecodableReply)) := by
  have hwarmed : ((v.attempts g).map fun a =>
      Sample.fetch (a.answered (g.warming.getD []))).count .latency = 0 := by
    simp [List.count_eq_zero]
  rw [count_purge_samples hend, count_purge_samples hend, samples_eq hend, List.count_append,
    hwarmed]
  rcases v.outcome? g with _ | e | relay
  · rfl
  · cases e <;> rfl
  · rfl

/-- All that was wanted is counted once nothing waits. -/
theorem count_fetch_samples (hend : v.Ended g) (hdone : v.waiting g = []) :
    (v.samples g).count (.fetch true) + (v.samples g).count (.fetch false)
      = (v.wanted g).length := by
  have htried : (v.wanted g).length = (v.attempts g).length := by
    rw [← attempts_append_waiting, hdone, List.append_nil, List.length_map]
  have hown : ∀ answered : Bool, (match v.outcome? g with
      | some outcome => (Purge.Stage.ended outcome).counted
      | none => []).count (Sample.fetch answered) = 0 := by
    intro answered
    cases v.outcome? g with
    | none => rfl
    | some outcome => cases h : Purge.wasAnswered outcome <;> simp [Purge.Stage.counted, h]
  rw [samples_eq hend, List.count_append, List.count_append, hown, hown, htried]
  induction v.attempts g with
  | nil => rfl
  | cons a rest ih =>
    rw [List.map_cons, List.count_cons, List.count_cons, List.length_cons, ← ih]
    cases a.answered (g.warming.getD []) <;> simp <;> omega

/-- **How a call ended is what the rules say**, and what its caller is told, if still there. -/
theorem told_of_outcome? {outcome : Except Purge.Error Purge.Relay}
    (h : v.outcome? g = some outcome) :
    (∃ ending, Verdict g.limit g.api v.request (v.course g).signer (v.course g).peers ending ∧
        ending.response = outcomeResponse outcome) ∧
      ((v.course g).impatience = none → Effect.replies (v.own g)
        = [(v.number g, outside v.request (.ofResponse (outcomeResponse outcome)))]) := by
  rw [outcome?] at h
  split at h
  · next hand =>
    have hsome : (follow g v.received (v.turns g)).1.outcome?.isSome = true := by rw [h]; rfl
    have hend : v.Ended g := (ended_iff_of_handsOver hand).mpr hsome
    obtain ⟨-, hsize⟩ := destination_of_handsOver hand
    have hfinish : ((v.course g).finish g v.received).1.outcome? = some outcome := by
      rw [course_of_handsOver hand, ← follow_eq_finish (v.turns g) hsome, h]
    obtain ⟨ending, hverdict⟩ := exists_verdict g.limit g.api v.request
      (v.course g).signer (v.course g).peers
    have hresponse : ending.response = outcomeResponse outcome := by
      obtain ⟨other, hother, hresponse⟩ := (verdict_meets hsize hverdict).outcome
      have hsame : some other = some outcome := by
        rw [← hfinish, received, hother]
        rfl
      rw [hresponse, Option.some.inj hsame]
    refine ⟨⟨ending, hverdict, hresponse⟩, fun hpatient => ?_⟩
    rw [replies_of_verdict hand hend hsize hverdict hpatient, hresponse]
  · cases h

end Visit

/-! ### The account -/

/-- No purge call is under way, and no path waits to be warmed. -/
structure State.Quiet (s : State) : Prop where
  tasks : ∀ id, s.task? id = none
  jobs : ∀ id, s.job id = []

section
variable {files : FileTree} {peers : Peers} {ms : List Move}

/-- In a quiet state every call has ended, and nothing of what it wanted waits. -/
theorem State.Quiet.of_mem_visits (h : (g.run clock (.fresh files peers) ms).1.Quiet) {v : Visit}
    (hv : v ∈ visits clock files peers ms) : v.Ended g ∧ v.waiting g = [] := by
  obtain ⟨hclock, hfiles, hpeers, hall⟩ := Gateway.of_mem_visits hv
  rw [Visit.Ended, Visit.waiting, Visit.fresh, hclock, hfiles, hpeers, hall]
  exact ⟨h.tasks _, h.jobs _⟩

/-- What was counted in a run was counted for its requests. -/
theorem samples_perm_visits (g : Gateway) (clock : AccessLog.Clock) (files : FileTree)
    (peers : Peers) (ms : List Move) : (g.run clock (.fresh files peers) ms).1.metrics.samples.Perm
      ((visits clock files peers ms).flatMap fun v => v.samples g) := by
  have hperm := Effect.samples_perm (run_perm_visits g clock files peers ms)
  rw [Effect.samples_flatMap] at hperm
  rw [samples_run]
  exact hperm.trans (.of_eq (List.flatMap_congr fun v _ => Effect.samples_append _ _))

/-- **A counter is the sum over the requests.** -/
theorem count_run (x : Sample) : (g.run clock (.fresh files peers) ms).1.metrics.count x
    = ((visits clock files peers ms).map fun v => (v.samples g).count x).sum := by
  rw [Metrics.count, (samples_perm_visits g clock files peers ms).count_eq, List.count_flatMap]
  rfl

/-- Lists with one element of a sort, or none, put together. -/
theorem countP_flatMap_of_ite {α β : Type} {p : β → Bool} {q : α → Bool} {f : α → List β}
    (l : List α) (h : ∀ a ∈ l, (f a).countP p = if q a then 1 else 0) :
    (l.flatMap f).countP p = l.countP q := by
  induction l with
  | nil => rfl
  | cons a rest ih =>
    rw [List.flatMap_cons, List.countP_append, h a List.mem_cons_self,
      ih fun b hb => h b (List.mem_cons_of_mem a hb), List.countP_cons, Nat.add_comm]

/-- **Calls are conserved.** Take a gateway of any configuration, and any moves from its start after
which no purge call is under way and no path waits to be warmed.

* The counters of purge calls add up to the number of requests to the purge route whose body is not
  too large, whatever their callers did.
* Each counter is the number of calls that ended so. How a call ended is what the rules of the
  verdict say of it, and what its caller was told, if still there.
* Answers of the invalidation API are counted as often as calls that went through and calls whose
  answer could not be read.
* Warming requests are counted as often as there are paths in the calls that caused warming. -/
theorem calls_conserved {c : Config} {shows : Bool} (hg : ofConfig c shows = .ok g)
    (hquiet : (g.run clock (.fresh files peers) ms).1.Quiet) :
    ((visits clock files peers ms).map Visit.request = ms.filterMap Move.request? ∧
      ∀ v ∈ visits clock files peers ms,
        v.clock = clock ∧ v.files = files ∧ v.peers = peers ∧ v.all = ms) ∧
    (Metrics.outcomes.map fun o =>
        (g.run clock (.fresh files peers) ms).1.metrics.count (.purge o)).sum
      = (visits clock files peers ms).countP (fun v => destination v.request == .route .purge &&
          decide (v.request.body.length ≤ c.listener.maxBodySize)) ∧
    (∀ o, (g.run clock (.fresh files peers) ms).1.metrics.count (.purge o)
      = (visits clock files peers ms).countP fun v =>
          decide ((v.outcome? g).map Purge.failure? = some o)) ∧
    (∀ v ∈ visits clock files peers ms, ∀ outcome, v.outcome? g = some outcome →
      (∃ ending, Verdict c.listener.maxBodySize c.api.baseUrl v.request (v.course g).signer
          (v.course g).peers ending ∧ ending.response = outcomeResponse outcome) ∧
        ((v.course g).impatience = none → Effect.replies (v.own g)
          = [(v.number g, outside v.request (.ofResponse (outcomeResponse outcome)))])) ∧
    (g.run clock (.fresh files peers) ms).1.metrics.count .latency
      = (g.run clock (.fresh files peers) ms).1.metrics.count (.purge none)
        + (g.run clock (.fresh files peers) ms).1.metrics.count
            (.purge (some .undecodableReply)) ∧
    (g.run clock (.fresh files peers) ms).1.metrics.count (.fetch true)
        + (g.run clock (.fresh files peers) ms).1.metrics.count (.fetch false)
      = ((visits clock files peers ms).map fun v => (v.wanted g).length).sum ∧
    ∀ v ∈ visits clock files peers ms,
      (∀ request, v.GoesThrough g request → c.warming.enabled = true → request.warm = true →
        v.wanted g = request.paths) ∧
      ((¬∃ request, v.GoesThrough g request ∧ c.warming.enabled = true ∧ request.warm = true) →
        v.wanted g = []) := by
  obtain ⟨hapi, hlimit, hlayer⟩ := of_ofConfig hg
  obtain ⟨henabled, -⟩ := warming_of_ofConfig hg
  have hlog : g.log.limit = g.limit := by rw [hlayer, hlimit]; rfl
  have hended : ∀ v ∈ visits clock files peers ms, v.Ended g ∧ v.waiting g = [] :=
    fun v hv => hquiet.of_mem_visits hv
  refine ⟨⟨map_request_visitsFrom clock files peers ms [], fun v hv => of_mem_visits hv⟩,
    ?_, ?_, ?_, ?_, ?_, ?_⟩
  · rw [Metrics.sum_outcomes, (samples_perm_visits g clock files peers ms).countP_eq,
      countP_flatMap_of_ite _ fun v hv => Visit.countP_isPurge_samples (hended v hv).1]
    simp only [handsOver_eq hlog, hlimit]
  · intro o
    rw [Metrics.count, (samples_perm_visits g clock files peers ms).count_eq,
      List.count_eq_countP]
    refine countP_flatMap_of_ite _ fun v hv => ?_
    rw [← List.count_eq_countP, Visit.count_purge_samples (hended v hv).1]
    simp
  · intro v _ outcome houtcome
    rw [← hapi, ← hlimit]
    exact Visit.told_of_outcome? houtcome
  · rw [count_run, count_run, count_run, ← List.sum_map_add]
    exact congrArg List.sum
      (List.map_congr_left fun v hv => Visit.count_latency_samples (hended v hv).1)
  · rw [count_run, count_run, ← List.sum_map_add]
    exact congrArg List.sum
      (List.map_congr_left fun v hv => Visit.count_fetch_samples (hended v hv).1 (hended v hv).2)
  · intro v hv
    rw [← henabled]
    refine ⟨fun request hthrough hwarms hasks => Visit.wanted_eq (hended v hv).1 hthrough hwarms
      hasks, fun hnone => ?_⟩
    by_contra hwanted
    exact hnone (Visit.wanted_ne_nil_iff.mp hwanted).2

end

/-! A purge whose caller leaves while it is signed, a look at the health of the gateway, and a purge
with a body that cannot be taken. Three paths are warmed. -/

namespace Visit

/-- The requests, and what happens with them. -/
def abandoned : List Move :=
  [.arrive purgeToWarm, .start 0, .leave 0, .arrive { target := { path := "/health" } },
    .arrive { purgeOfOne with body := [] }, .sign 0 (fun _ => .ok), .start 2, .forward 0,
    .interpret 0, .fetch 0, .fetch 0, .fetch 0]

/-- The state of the gateway behind them. -/
def abandonedState : State :=
  (warmingGateway.run { time := "" } (.fresh {} hesitant) abandoned).1

/-- What is left behind the moves, and what was counted. -/
theorem abandonedState_eq : abandonedState.tasks.isEmpty = true ∧ abandonedState.jobs = [(0, [])] ∧
    abandonedState.metrics.samples = [.purge (some .invalidPayload), .latency, .purge none,
      .fetch false, .fetch false, .fetch true] := by
  decide +kernel

theorem quiet_abandonedState : abandonedState.Quiet where
  tasks := by
    intro id
    rw [State.task?, List.isEmpty_iff.mp abandonedState_eq.1]
    rfl
  jobs := by
    intro id
    rw [State.job, abandonedState_eq.2.1]
    cases id <;> rfl

/-- Two calls are counted, one answer, and a warming request for each of three paths. -/
theorem calls_conserved_abandoned :
    ofConfig warmingConfig true = .ok warmingGateway ∧ abandonedState.Quiet ∧
      (Metrics.outcomes.map fun o => abandonedState.metrics.count (.purge o)).sum = 2 ∧
      abandonedState.metrics.count .latency = 1 ∧
      ((visits { time := "" } {} hesitant abandoned).map fun v =>
        (v.wanted warmingGateway).length).sum = 3 := by
  obtain ⟨-, hcalls, -, -, hlatency, hfetches, -⟩ :=
    calls_conserved ofConfig_warming quiet_abandonedState
  have hcount : ∀ x, abandonedState.metrics.count x
      = [.purge (some .invalidPayload), .latency, .purge none, .fetch false, .fetch false,
          .fetch true].count x := by
    intro x
    rw [Metrics.count, abandonedState_eq.2.2]
  refine ⟨ofConfig_warming, quiet_abandonedState, hcalls.trans ?_, hlatency.trans ?_,
    hfetches.symm.trans ?_⟩
  · decide +kernel
  · show abandonedState.metrics.count _ + abandonedState.metrics.count _ = 1
    rw [hcount, hcount]
    rfl
  · show abandonedState.metrics.count _ + abandonedState.metrics.count _ = 3
    rw [hcount, hcount]
    rfl

end Visit

end Gateway

end PurgeGateway
