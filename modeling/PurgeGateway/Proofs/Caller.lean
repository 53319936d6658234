import PurgeGateway.Proofs.Course

/-!
# Purge calls and their callers

A turn does the same to the stage of a call whoever waits for it, and what the caller does changes
no stage. So the work of a call is that of its stages, and all that depends on the caller is what
the caller is told.

## Main results

* `left_takeAll`, `work_takeAll`: what is left of a call and its work do not depend on its caller.
* `filter_takeAll`: nor does any other sort of effects that no caller brings about.
* `answers_takeAll`: what the caller is told, and what is recorded of it, depends on the call and on
  the caller's own patience only.
* `replies_takeAll`: what the caller is told.
-/

namespace PurgeGateway.Gateway

variable {g : Gateway} {clock : AccessLog.Clock} {id : Nat} {stage : Purge.Stage} {turn : Turn}

/-! ### What is left and what is done -/

theorem settle_of_none {caller : Option Http.Request} {p : Purge.Stage.Progress}
    (h : p.1.outcome? = none) : g.settle clock id caller p = (some ⟨caller, p.1⟩, p.2) := by
  simp only [settle, h]

theorem settle_of_some {caller : Option Http.Request} {p : Purge.Stage.Progress}
    {outcome : Except Purge.Error Purge.Relay} (h : p.1.outcome? = some outcome) :
    g.settle clock id caller p = (none, p.2 ++ (caller.map fun request =>
      g.deliver clock id request (.ofResponse (outcomeResponse outcome))).getD []) := by
  cases caller <;> simp [settle, h]

theorem impatience?_cases (turn : Turn) (stage : Purge.Stage) :
    (∃ i, turn.impatience? = some i ∧ turn.applies stage = false) ∨ turn.impatience? = none := by
  cases turn <;> first | exact .inr rfl | exact .inl ⟨_, rfl, by cases stage <;> rfl⟩

theorem work_farewell (id : Nat) (request : Http.Request) (i : Impatience) :
    Effect.work (farewell id request i) = [] := by
  cases i with
  | leaves => rfl
  | timesOut => exact work_refuse id request _

/-- What is left of a call is what is left of its stage. -/
theorem left_takeAll (g : Gateway) (clock : AccessLog.Clock) (id : Nat) (ts : List Turn) :
    ∀ (caller : Option Http.Request) {stage : Purge.Stage}, stage.outcome? = none →
      (takeAll g clock id (some ⟨caller, stage⟩) ts).1.map (·.stage)
        = if (follow g stage ts).1.outcome?.isSome then none
          else some (follow g stage ts).1 := by
  induction ts with
  | nil => intro caller stage h; simp [follow, h]
  | cons turn rest ih =>
    intro caller stage h
    rw [takeAll_cons, Task.take]
    rcases impatience?_cases turn stage with ⟨i, hi, happ⟩ | hi
    · rw [hi, follow_cons_of_not_applies happ]
      exact ih none h
    · rw [hi, follow_cons]
      cases hnext : (turn.progress g stage).1.outcome? with
      | none =>
        simp only [settle_of_none hnext]
        exact ih caller hnext
      | some outcome =>
        simp only [settle_of_some hnext, follow_of_outcome? hnext, takeAll_none, hnext]
        rfl

/-- **What a call does is what its stage does**, for effects of any sort that no delivery and no
farewell has. -/
theorem filter_takeAll {keeps : Effect → Bool}
    (hdeliver : ∀ request r, (g.deliver clock id request (.ofResponse r)).filter keeps = [])
    (hfarewell : ∀ request i, (farewell id request i).filter keeps = []) (ts : List Turn) :
    ∀ (caller : Option Http.Request) {stage : Purge.Stage}, stage.outcome? = none →
      (takeAll g clock id (some ⟨caller, stage⟩) ts).2.filter keeps
        = (follow g stage ts).2.filter keeps := by
  induction ts with
  | nil => intro caller stage h; rfl
  | cons turn rest ih =>
    intro caller stage h
    rw [takeAll_cons, Task.take]
    rcases impatience?_cases turn stage with ⟨i, hi, happ⟩ | hi
    · rw [hi, follow_cons_of_not_applies happ, List.filter_append, ih none h]
      cases caller with
      | none => rfl
      | some request => exact congrArg (· ++ _) (hfarewell request i)
    · rw [hi, follow_cons]
      cases hnext : (turn.progress g stage).1.outcome? with
      | none =>
        simp only [settle_of_none hnext]
        rw [List.filter_append, List.filter_append, ih caller hnext]
      | some outcome =>
        simp only [settle_of_some hnext, follow_of_outcome? hnext, takeAll_none]
        rw [List.append_nil, List.append_nil, List.filter_append]
        cases caller with
        | none => exact List.append_nil _
        | some request => rw [Option.map_some, Option.getD_some, hdeliver, List.append_nil]

/-- **What is left of a call, and its work, are those of its stage.** -/
theorem work_takeAll (g : Gateway) (clock : AccessLog.Clock) (id : Nat) (ts : List Turn)
    (caller : Option Http.Request) {stage : Purge.Stage} (h : stage.outcome? = none) :
    (takeAll g clock id (some ⟨caller, stage⟩) ts).1.map (·.stage)
        = (if (follow g stage ts).1.outcome?.isSome then none else some (follow g stage ts).1) ∧
      Effect.work (takeAll g clock id (some ⟨caller, stage⟩) ts).2
        = Effect.work (follow g stage ts).2 :=
  ⟨left_takeAll g clock id ts caller h,
    filter_takeAll (work_deliver g clock id) (work_farewell id) ts caller h⟩

/-! ### What is told and recorded -/

theorem answers_callEffects (sent : Peers.Sent) :
    Effect.answers (Purge.Stage.callEffects sent) = [] := by
  simp [Effect.answers, Purge.Stage.callEffects, Effect.isAnswer]

/-- No turn of a call tells its caller anything by itself, or records it. -/
theorem answers_progress (g : Gateway) (turn : Turn) (stage : Purge.Stage) :
    Effect.answers (turn.progress g stage).2 = [] := by
  cases happ : turn.applies stage with
  | false => rw [progress_of_not_applies happ]; rfl
  | true =>
    induction turn, stage, happ using Turn.applies_cases with
    | start headers body =>
      rw [Turn.progress, Purge.Stage.start]
      rcases accept_cases g.api headers body with ⟨_, _, h⟩ | ⟨_, _, h⟩
      · rw [accept_of_routed h]; rfl
      · rw [h]; rfl
    | sign signer request outbound =>
      rw [Turn.progress]
      rcases sign_cases signer request outbound with ⟨_, _, h⟩ | ⟨_, _, _, _, h⟩ <;> rw [h] <;> rfl
    | forward peers request signed =>
      simp only [Turn.progress]
      rcases forward_cases peers request signed with ⟨_, _, h⟩ | ⟨_, _, _, h⟩ <;>
        rw [h, Effect.answers_append, answers_callEffects] <;> rfl
    | interpret request answer =>
      rw [Turn.progress]
      rcases interpret_cases g.warming.isSome request answer with ⟨_, _, h⟩ | ⟨_, _, _, h⟩
      · rw [h, Purge.Stage.succeed]
        split <;> rfl
      · rw [h]; rfl

/-- The patience of a caller is that of the first turn of the caller's before the end. -/
theorem impatience_note (c : Course) (turn : Turn) (h : stage.outcome? = none) :
    (c.note stage turn).impatience = turn.impatience?.or c.impatience := by
  cases stage <;> cases turn <;> first | rfl | cases h

theorem impatience_courseOf_ended (outcome : Except Purge.Error Purge.Relay) (ts : List Turn) :
    (courseOf g (.ended outcome) ts).impatience = none := by
  induction ts with
  | nil => rfl
  | cons turn rest ih =>
    have happ : turn.applies (.ended outcome) = false := by cases turn <;> rfl
    rw [courseOf, progress_of_not_applies happ]
    exact ih

theorem impatience_courseOf_of_none (ts : List Turn) (h : ∀ turn ∈ ts, turn.impatience? = none) :
    ∀ {stage : Purge.Stage}, (courseOf g stage ts).impatience = none := by
  induction ts with
  | nil => intro stage; rfl
  | cons turn rest ih =>
    intro stage
    have hrest : (courseOf g (turn.progress g stage).1 rest).impatience = none :=
      ih fun t ht => h t (List.mem_cons_of_mem _ ht)
    cases stage with
    | ended outcome => exact impatience_courseOf_ended outcome (turn :: rest)
    | _ => rw [courseOf, impatience_note _ _ rfl, hrest, h turn List.mem_cons_self]; rfl

/-- Whoever has left is told nothing, and nothing is recorded. -/
theorem answers_takeAll_absent (ts : List Turn) : ∀ {stage : Purge.Stage}, stage.outcome? = none →
    Effect.answers (takeAll g clock id (some ⟨none, stage⟩) ts).2 = [] := by
  induction ts with
  | nil => intro stage _; rfl
  | cons turn rest ih =>
    intro stage h
    rw [takeAll_cons, Task.take, Effect.answers_append]
    rcases impatience?_cases turn stage with ⟨i, hi, _⟩ | hi
    · rw [hi]
      exact ih h
    · rw [hi]
      cases hnext : (turn.progress g stage).1.outcome? with
      | none => simp only [settle_of_none hnext, answers_progress, ih hnext, List.append_nil]
      | some outcome =>
        simp only [settle_of_some hnext, takeAll_none, Option.map_none, Option.getD_none,
          List.append_nil, answers_progress]
        rfl

/-- **What is told and recorded.** A caller who waits gets the outcome of the call, once, through
the access log; another gets what the impatience calls for. -/
theorem answers_takeAll (request : Http.Request) (ts : List Turn) : ∀ {stage : Purge.Stage},
    stage.outcome? = none →
      Effect.answers (takeAll g clock id (some ⟨some request, stage⟩) ts).2
        = match (courseOf g stage ts).impatience, (follow g stage ts).1.outcome? with
          | some i, _ => Effect.answers (farewell id request i)
          | none, some outcome =>
            Effect.answers (g.deliver clock id request (.ofResponse (outcomeResponse outcome)))
          | none, none => [] := by
  induction ts with
  | nil => intro stage h; simp [follow, h, courseOf, Effect.answers]
  | cons turn rest ih =>
    intro stage h
    rw [takeAll_cons, Task.take, Effect.answers_append, courseOf, impatience_note _ _ h]
    rcases impatience?_cases turn stage with ⟨i, hi, _⟩ | hi
    · rw [hi]
      simp [answers_takeAll_absent rest h]
    · rw [hi, follow_cons, Option.none_or]
      cases hnext : (turn.progress g stage).1.outcome? with
      | none =>
        simp only [settle_of_none hnext, answers_progress, List.nil_append]
        exact ih hnext
      | some outcome =>
        obtain ⟨last, hlast⟩ : ∃ last, (turn.progress g stage).1 = .ended last := by
          cases hstage : (turn.progress g stage).1 <;> simp_all [Purge.Stage.outcome?]
        simp only [settle_of_some hnext, follow_of_outcome? hnext, hnext, takeAll_none,
          Effect.answers_append, answers_progress, List.nil_append, Option.map_some,
          Option.getD_some]
        rw [hlast, impatience_courseOf_ended]
        exact List.append_nil _

/-- **What the caller is told.** A caller who waits gets the outcome of the call, once; another gets
what the impatience calls for. -/
theorem replies_takeAll (request : Http.Request) (ts : List Turn) {stage : Purge.Stage}
    (h : stage.outcome? = none) :
    Effect.replies (takeAll g clock id (some ⟨some request, stage⟩) ts).2
      = match (courseOf g stage ts).impatience, (follow g stage ts).1.outcome? with
        | some i, _ => Effect.replies (farewell id request i)
        | none, some outcome => [(id, outside request (.ofResponse (outcomeResponse outcome)))]
        | none, none => [] := by
  rw [← Effect.replies_answers, answers_takeAll request ts h]
  split
  · exact Effect.replies_answers _
  · rw [Effect.replies_answers, replies_deliver]
  · rfl

end PurgeGateway.Gateway
