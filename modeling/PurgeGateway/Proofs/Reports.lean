import PurgeGateway.Proofs.Accounts

/-!
# What is reported of a purge

A purge call can fail in nine places, and each of them leaves a notice of its own. A call that goes
through leaves one of the answer, in one place. Neither is left anywhere else, so that whoever reads
the log can count on it: a call that has ended has been reported once, as what it was, and a call
that is still under way has not.

Whether the caller waits for the end or not makes no difference to this; what the way out to the
caller notes down, and what warming does, are warnings at most.

## Main definitions

* `Notice.isReport`: a notice of a failure, or of the answer to a purge.
* `Purge.Reported`: what has been reported of a call that ended so, or is still under way.
* `Purge.hasFailed`, `hasGoneThrough`: how a call ended.

## Main results

* `reported_progress`, `reported_follow`: turns report what the stage says.
* `reported_finish`: a call that is handled to its end is reported once.
* `Visit.reported_own`: so is the call of a request among others.
* `failures_reported_once`: in a run there are as many failures reported as calls have failed.
-/

namespace PurgeGateway

/-! ### Reports -/

/-- The notice that the invalidation API has given an answer. -/
def Purge.answerNotice : Notice :=
  .progress "akamai-response"

/-- The notice reports on a purge: it tells of a failure, or of an answer. -/
def Notice.isReport (n : Notice) : Bool :=
  n.isFailure || n == Purge.answerNotice

namespace Effect

/-- The effect is a report on a purge. -/
def isReport : Effect → Bool
  | .notice n => n.isReport
  | _ => false

/-- The reports on purges among effects. -/
def reports (es : List Effect) : List Notice :=
  (notices es).filter Notice.isReport

theorem reports_append (a b : List Effect) : reports (a ++ b) = reports a ++ reports b := by
  rw [reports, notices_append, List.filter_append]
  rfl

theorem reports_flatMap {α : Type} (l : List α) (f : α → List Effect) :
    reports (l.flatMap f) = l.flatMap fun a => reports (f a) := by
  rw [reports, notices, List.filterMap_flatMap, List.filter_flatMap]
  rfl

theorem reports_perm {a b : List Effect} (h : a.Perm b) : (reports a).Perm (reports b) :=
  (h.filterMap _).filter _

/-- The reports are the notices of the effects that report. -/
theorem notices_filter_isReport (es : List Effect) : notices (es.filter isReport) = reports es := by
  rw [reports, notices, notices, List.filterMap_filter, List.filter_filterMap]
  congr 1
  funext e
  cases e <;> rfl

end Effect

/-- What has been reported of a purge call that ended so; of one that is under way, nothing. -/
inductive Purge.Reported : Option (Except Error Relay) → List Notice → Prop
  | nothing : Reported none []
  | failed (e : Error) (text : String) : Reported (some (.error e)) [.failure text]
  | answered (relay : Relay) : Reported (some (.ok relay)) [answerNotice]

/-- The call has ended with a failure. -/
def Purge.hasFailed : Option (Except Error Relay) → Bool
  | some (.error _) => true
  | _ => false

/-- The call has ended with an answer. -/
def Purge.hasGoneThrough : Option (Except Error Relay) → Bool
  | some (.ok _) => true
  | _ => false

section
variable {outcome : Option (Except Purge.Error Purge.Relay)} {ns : List Notice}

theorem Purge.Reported.countP_isFailure (h : Reported outcome ns) :
    ns.countP Notice.isFailure = if hasFailed outcome then 1 else 0 := by
  cases h <;> rfl

theorem Purge.Reported.countP_answerNotice (h : Reported outcome ns) :
    ns.countP (· == answerNotice) = if hasGoneThrough outcome then 1 else 0 := by
  cases h with
  | nothing => rfl
  | failed e text =>
    have hother : (Notice.failure text == answerNotice) = false :=
      beq_false_of_ne fun heq => nomatch congrArg Notice.level heq
    rw [List.countP_singleton, hother]
    rfl
  | answered relay =>
    rw [List.countP_singleton, beq_self_eq_true]
    rfl

theorem isReport_of_isFailure {n : Notice} (h : n.isFailure = true) : n.isReport = true := by
  rw [Notice.isReport, h, Bool.true_or]

theorem isReport_of_eq_answerNotice {n : Notice} (h : (n == Purge.answerNotice) = true) :
    n.isReport = true := by
  rw [Notice.isReport, h, Bool.or_true]

/-- All that has been reported of a call are reports. -/
theorem Purge.Reported.filter_eq (h : Reported outcome ns) : ns.filter Notice.isReport = ns := by
  rw [List.filter_eq_self]
  intro n hn
  cases h with
  | nothing => cases hn
  | failed e text =>
    rw [List.mem_singleton.mp hn]
    exact isReport_of_isFailure rfl
  | answered relay => exact isReport_of_eq_answerNotice (beq_iff_eq.mpr (List.mem_singleton.mp hn))

end

namespace Gateway

open Purge (Reported)

variable {g : Gateway} {clock : AccessLog.Clock} {s : State} {id : Nat}

/-! ### What turns report -/

theorem notices_callEffects (sent : Peers.Sent) :
    Effect.notices (Purge.Stage.callEffects sent) = [] :=
  Effect.notices_map_call sent.calls

theorem reported_fail (e : Purge.Error) (notice : String) :
    Reported (Purge.Stage.fail e notice).1.outcome?
      (Effect.notices (Purge.Stage.fail e notice).2) :=
  .failed e notice

theorem reported_succeed (warms : Bool) (request : Purge.Request) (relay : Purge.Relay) :
    Reported (Purge.Stage.succeed warms request relay).1.outcome?
      (Effect.notices (Purge.Stage.succeed warms request relay).2) := by
  have hnotices : Effect.notices (Purge.Stage.succeed warms request relay).2
      = [Purge.answerNotice] := by
    rw [Purge.Stage.succeed]
    split <;> rfl
  rw [hnotices]
  exact .answered relay

/-- A turn that applies reports what the next stage says: nothing, unless that is the end. -/
theorem reported_of_applies {turn : Turn} {stage : Purge.Stage} (h : turn.applies stage = true) :
    Reported (turn.progress g stage).1.outcome? (Effect.notices (turn.progress g stage).2) := by
  induction turn, stage, h using Turn.applies_cases with
  | start headers body =>
    rw [Turn.progress, Purge.Stage.start]
    rcases accept_cases g.api headers body with ⟨_, _, h⟩ | ⟨e, notice, h⟩
    · rw [accept_of_routed h]
      exact .nothing
    · rw [h]
      exact reported_fail e notice
  | sign signer request outbound =>
    rw [Turn.progress]
    rcases sign_cases signer request outbound with ⟨_, _, h⟩ | ⟨_, e, notice, _, h⟩
    · rw [h]
      exact .nothing
    · rw [h]
      exact reported_fail e notice
  | forward peers request signed =>
    simp only [Turn.progress]
    rcases forward_cases peers request signed with ⟨_, _, h⟩ | ⟨e, notice, _, h⟩
    · rw [h, Effect.notices_append, notices_callEffects]
      exact .nothing
    · rw [h, Effect.notices_append, notices_callEffects]
      exact reported_fail e notice
  | interpret request answer =>
    rw [Turn.progress]
    rcases interpret_cases g.warming.isSome request answer with ⟨_, _, h⟩ | ⟨e, notice, _, h⟩
    · rw [h]
      exact reported_succeed _ _ _
    · rw [h]
      exact reported_fail e notice

/-- **One turn reports what the stage says**, beyond what was reported before. -/
theorem reported_progress (g : Gateway) (turn : Turn) {stage : Purge.Stage} {ns : List Notice}
    (h : Reported stage.outcome? ns) :
    Reported (turn.progress g stage).1.outcome?
      (ns ++ Effect.notices (turn.progress g stage).2) := by
  cases happ : turn.applies stage with
  | false =>
    rw [progress_of_not_applies happ]
    exact (List.append_nil ns).symm ▸ h
  | true =>
    -- a call that can be brought on has not been reported
    have hopen : stage.outcome? = none := by
      induction turn, stage, happ using Turn.applies_cases <;> rfl
    rw [hopen] at h
    cases h
    exact reported_of_applies happ

/-- **So do turns one after the other.** -/
theorem reported_follow (g : Gateway) (ts : List Turn) : ∀ {stage : Purge.Stage}
    {ns : List Notice}, Reported stage.outcome? ns →
      Reported (follow g stage ts).1.outcome? (ns ++ Effect.notices (follow g stage ts).2) := by
  induction ts with
  | nil =>
    intro stage ns h
    exact (List.append_nil ns).symm ▸ h
  | cons turn rest ih =>
    intro stage ns h
    rw [follow_cons, Effect.notices_append, ← List.append_assoc]
    exact ih (reported_progress g turn h)

/-- **A call that is handled to its end is reported once**, whatever its header fields, its body,
its signer and the peers are. -/
theorem reported_finish (g : Gateway) (c : Course) (headers : Http.Headers) (body : List UInt8) :
    ∃ outcome, (c.finish g (.received headers body)).1 = .ended outcome ∧
      Reported (some outcome) (Effect.notices (c.finish g (.received headers body)).2) := by
  have hopen : Reported (Purge.Stage.received headers body).outcome? [] := .nothing
  have hreported := reported_follow g c.turns hopen
  rw [List.nil_append, ← Course.finish] at hreported
  have hends := finish_ends c g (.received headers body)
  cases hlast : (c.finish g (.received headers body)).1 with
  | ended outcome =>
    rw [hlast] at hreported
    exact ⟨outcome, rfl, hreported⟩
  | _ => rw [hlast] at hends; cases hends

/-! ### What reports on no purge -/

/-- A notice that is neither a failure nor of progress reports on no purge. -/
theorem isReport_eq_false {n : Notice} (herror : n.level ≠ .error) (hinfo : n.level ≠ .info) :
    n.isReport = false := by
  rw [Notice.isReport, Notice.isFailure, Bool.or_eq_false_iff, beq_eq_false_iff_ne,
    beq_eq_false_iff_ne]
  refine ⟨herror, ?_⟩
  rintro rfl
  exact hinfo rfl

theorem filter_emit (l : AccessLog.Layer) (clock : AccessLog.Clock) (request : Http.Request)
    (r : Http.Response) : (l.emit clock request r).filter Effect.isReport = [] := by
  have huser : AccessLog.Layer.userNotice.isReport = false := isReport_eq_false nofun nofun
  rw [AccessLog.Layer.emit, List.filter_append, List.append_eq_nil_iff]
  constructor
  · split <;> simp [Effect.isReport, huser]
  · simp [Effect.isReport]

theorem filter_finish (l : AccessLog.Layer) (clock : AccessLog.Clock) (request : Http.Request)
    (reply : Http.Reply) : (l.finish clock request reply).2.filter Effect.isReport = [] := by
  have hbroken : AccessLog.Layer.brokenNotice.isReport = false := isReport_eq_false nofun nofun
  rw [AccessLog.Layer.finish]
  split
  · rfl
  · split
    · exact filter_emit l clock request _
    · split
      · exact filter_emit l clock request _
      · simp [Effect.isReport, hbroken]

/-- No way out to a caller reports on a purge. -/
theorem filter_deliver (g : Gateway) (clock : AccessLog.Clock) (id : Nat) (request : Http.Request)
    (reply : Http.Reply) : (g.deliver clock id request reply).filter Effect.isReport = [] := by
  rw [deliver, List.filter_append, filter_finish]
  rfl

theorem filter_refuse {e : Error} (h : e.notices = []) (id : Nat) (request : Http.Request) :
    (refuse id request e).filter Effect.isReport = [] := by
  rw [refuse, h]
  rfl

theorem filter_farewell (id : Nat) (request : Http.Request) (i : Impatience) :
    (farewell id request i).filter Effect.isReport = [] := by
  cases i with
  | leaves => rfl
  | timesOut => exact filter_refuse rfl id request

/-- No arrival reports on a purge. -/
theorem filter_arrive (request : Http.Request) :
    (g.arrive clock s request).2.filter Effect.isReport = [] := by
  simp only [arrive]
  split
  · next e hin =>
    rw [AccessLog.Layer.letIn] at hin
    split at hin
    · obtain rfl := Except.error.inj hin
      have hquiet : (Error.payloadTooLarge g.log.limit).notices = [] := rfl
      exact filter_refuse hquiet _ _
    · cases hin
  · simp only [handle]
    split
    · simp only [handOver]
      split
      · rw [filter_deliver]
      · rfl
    all_goals rw [filter_deliver]

theorem reports_report (answered : Bool) :
    Effect.reports (Warming.report answered) = [] := by
  have hsent : Notice.isReport ⟨.debug, "post-purge request sent"⟩ = false :=
    isReport_eq_false nofun nofun
  have hfailed : Notice.isReport (.warning "post-purge request failed") = false :=
    isReport_eq_false nofun nofun
  cases answered <;> simp [Effect.reports, Effect.notices, Warming.report, hsent, hfailed]

/-- **Warming reports on no purge.** -/
theorem reports_warmed (ms : List Move) (s : State) :
    Effect.reports (g.warmed clock s id ms) = [] := by
  rw [warmed_eq, Effect.reports_flatMap, List.flatMap_eq_nil_iff]
  intro a _
  rw [Attempt.effects_eq, Effect.reports_append, reports_report, Effect.reports,
    Effect.notices_map_call]
  rfl

/-! ### The calls of a run -/

namespace Visit

/-- **The call of a request is reported once** when it ends, and not before, whatever else happens
meanwhile and whether its caller waits or not. -/
theorem reported_own (v : Visit) (g : Gateway) :
    Reported (v.outcome? g) (Effect.reports (v.own g)) := by
  rw [← Effect.notices_filter_isReport]
  cases hand : g.handsOver v.request with
  | true =>
    have hopen : Reported v.received.outcome? [] := .nothing
    have hreported := reported_follow g (v.turns g) hopen
    rw [List.nil_append] at hreported
    rw [own_of_handsOver hand, outcome?, hand, if_pos rfl,
      filter_takeAll (fun _ _ => filter_deliver _ _ _ _ _) (filter_farewell _) _ _ rfl,
      Effect.notices_filter_isReport, Effect.reports, hreported.filter_eq]
    exact hreported
  | false =>
    rw [own_of_not_handsOver hand, filter_arrive, outcome?, hand]
    exact .nothing

end Visit

/-- Reports of a sort are left in a run once for each call that they are left for. -/
theorem countP_notices_run {files : FileTree} {peers : Peers} {ms : List Move} {p : Notice → Bool}
    {q : Option (Except Purge.Error Purge.Relay) → Bool}
    (hp : ∀ {n}, p n = true → n.isReport = true)
    (h : ∀ {outcome ns}, Reported outcome ns → ns.countP p = if q outcome then 1 else 0) :
    (Effect.notices (g.run clock (.fresh files peers) ms).2).countP p
      = (visits clock files peers ms).countP fun v => q (v.outcome? g) := by
  have hreports : ∀ es, (Effect.notices es).countP p = (Effect.reports es).countP p := by
    intro es
    rw [Effect.reports, List.countP_filter]
    refine List.countP_congr fun n _ => ?_
    rw [Bool.and_eq_true]
    exact ⟨fun hn => ⟨hn, hp hn⟩, And.left⟩
  rw [hreports, (Effect.reports_perm (run_perm_visits g clock files peers ms)).countP_eq,
    Effect.reports_flatMap]
  refine countP_flatMap_of_ite _ fun v _ => ?_
  rw [Effect.reports_append, Visit.warmed, reports_warmed, List.append_nil]
  exact h (v.reported_own g)

/-- **Every failed purge is reported exactly once.**

* A call that is handled to its end, whatever its header fields, its body, its signer and the peers
  are, leaves one notice: of the failure, or of the answer if it went through.
* So does each call among others, in any moves from the start of a gateway, once it has ended.
* So there are as many notices of failures as calls have failed, and as many of an answer as calls
  have gone through. -/
theorem failures_reported_once (g : Gateway) (clock : AccessLog.Clock) (files : FileTree)
    (peers : Peers) (ms : List Move) :
    (∀ (c : Course) (headers : Http.Headers) (body : List UInt8), ∃ outcome,
        (c.finish g (.received headers body)).1 = .ended outcome ∧
          Reported (some outcome) (Effect.notices (c.finish g (.received headers body)).2)) ∧
      (visits clock files peers ms).map Visit.request = ms.filterMap Move.request? ∧
      (∀ v ∈ visits clock files peers ms,
        Reported (v.outcome? g) (Effect.reports (v.own g))) ∧
      (Effect.notices (g.run clock (.fresh files peers) ms).2).countP Notice.isFailure
        = ((visits clock files peers ms).countP fun v => Purge.hasFailed (v.outcome? g)) ∧
      (Effect.notices (g.run clock (.fresh files peers) ms).2).countP (· == Purge.answerNotice)
        = (visits clock files peers ms).countP fun v => Purge.hasGoneThrough (v.outcome? g) := by
  refine ⟨reported_finish g, map_request_visitsFrom clock files peers ms [],
    fun v _ => v.reported_own g, ?_, ?_⟩
  · exact countP_notices_run isReport_of_isFailure Purge.Reported.countP_isFailure
  · exact countP_notices_run isReport_of_eq_answerNotice Purge.Reported.countP_answerNotice

namespace Visit

/-- Of two purges, one that cannot be taken and one whose caller leaves, each is reported once. -/
theorem failures_reported_once_abandoned :
    (Effect.notices (warmingGateway.run { time := "" } (.fresh {} hesitant)
        abandoned).2).countP Notice.isFailure = 1 ∧
      (Effect.notices (warmingGateway.run { time := "" } (.fresh {} hesitant)
        abandoned).2).countP (· == Purge.answerNotice) = 1 := by
  obtain ⟨-, -, -, hfailed, hanswered⟩ :=
    failures_reported_once warmingGateway { time := "" } {} hesitant abandoned
  exact ⟨hfailed.trans (by decide +kernel), hanswered.trans (by decide +kernel)⟩

end Visit

end Gateway

end PurgeGateway
