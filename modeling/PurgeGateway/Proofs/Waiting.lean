import PurgeGateway.Proofs.Fetching
import PurgeGateway.Proofs.Jobs

/-!
# Paths that wait to be warmed

Paths wait under the number of the request that put them down. They come there at once, by the turn
that ends the call, and go one by one, each by a move that warms; nothing else touches them. So the
paths that were tried, and those that still wait, are at every time the paths that were put down, in
their order.

Whether a path can be fetched is not looked at here: a path is tried once, whatever comes of it.

## Main definitions

* `State.Orderly`: nothing waits under the number of a call that is under way, or is yet to come.
* `attempts`: what is tried for a number in a run.

## Main results

* `jobs_step_cases`: what is put down is put down by a step that ends a call.
* `orderly_run`: runs keep states orderly.
* `job_step`: what one move does to the paths of a number.
* `job_run`: nothing that was put down is lost or tried twice.
* `job_run_of_jobs_eq_nil`: as many paths are tried as there are moves that warm.
-/

namespace PurgeGateway.Gateway

variable {g : Gateway} {clock : AccessLog.Clock} {s : State} {id : Nat}

/-! ### What a step puts down -/

theorem jobs_fetch (g : Gateway) (s : State) (id : Nat) : Effect.jobs (g.fetch s id).2 = [] := by
  rw [effects_fetch]
  cases (s.job id).head? with
  | none => rfl
  | some path => exact Attempt.jobs_effects _ _

/-- **What is put down is put down by a step that ends a call**, under the number of that call. -/
theorem jobs_step_cases (g : Gateway) (clock : AccessLog.Clock) (s : State) (m : Move) :
    Effect.jobs (g.step clock s m).2 = [] ∨
      ∃ paths, Effect.jobs (g.step clock s m).2 = [paths] ∧
        (s.task? (m.subject s)).isSome = true ∧
          (g.step clock s m).1.task? (m.subject s) = none := by
  rcases move_cases g s m with ⟨id, rfl⟩ | ⟨request, rfl⟩ | ⟨turn, hturn⟩
  · exact .inl (jobs_fetch g s id)
  · exact .inl (jobs_arrive g clock s request)
  · obtain ⟨hleft, hdone⟩ := step_of_turn?_eq_some clock hturn
    rw [hleft, hdone]
    cases s.task? (m.subject s) with
    | none => exact .inl rfl
    | some task =>
      rw [Option.map_some, Option.getD_some, Option.bind_some]
      rcases jobs_progress g turn task.stage with hnone | ⟨paths, _, hpaths, -⟩
      · exact .inl (by rw [jobs_take, hnone])
      · have hjobs : Effect.jobs (task.take g clock (m.subject s) turn).2 = [paths] := by
          rw [jobs_take, hpaths]
        exact .inr ⟨paths, hjobs, rfl, take_eq_none_of_jobs (by rw [hjobs]; simp)⟩

/-! ### What a step leaves -/

/-- The move warms a path under a number. -/
def Move.fetches (id : Nat) : Move → Bool
  | .fetch i => i == id
  | _ => false

theorem Move.fetches_of_not_isFetch {m : Move} (h : m.isFetch = false) : m.fetches id = false := by
  cases m with
  | fetch i => cases h
  | _ => rfl

/-- What a move that does not warm leaves under a number: what was there, or else what it put
down. -/
theorem lookup_step {m : Move} (h : m.isFetch = false) (i : Nat) :
    (g.step clock s m).1.jobs.lookup i = (s.jobs.lookup i).or
      (if i = m.subject s then (Effect.jobs (g.step clock s m).2).head? else none) := by
  have hkept : (g.perform clock s m).1.jobs = s.jobs := by
    refine jobs_perform g clock s fun id hid => ?_
    rw [hid] at h
    cases h
  rw [step, State.lookup_absorb, hkept]

/-- A move that warms takes in nothing. -/
theorem lookup_step_fetch (g : Gateway) (clock : AccessLog.Clock) (s : State) (id i : Nat) :
    (g.step clock s (.fetch id)).1.jobs.lookup i = (g.fetch s id).1.jobs.lookup i := by
  rw [step, State.lookup_absorb, perform, jobs_fetch]
  simp

theorem lookup_step_fetch_of_ne {i : Nat} (h : i ≠ id) :
    (g.step clock s (.fetch id)).1.jobs.lookup i = s.jobs.lookup i := by
  rw [lookup_step_fetch, fetch]
  split
  · rfl
  · next path rest _ => exact State.lookup_putJob_of_ne rest h

/-- **A move that warms takes one path away**, whatever comes of it. -/
theorem job_step_fetch (g : Gateway) (clock : AccessLog.Clock) (s : State) (id : Nat) :
    (g.step clock s (.fetch id)).1.job id = (s.job id).tail := by
  rw [State.job, lookup_step_fetch, ← State.job, fetch]
  split
  · next h => rw [h]; rfl
  · next path rest h =>
    rw [h, List.tail_cons]
    exact State.job_putJob_self (by rw [h]; exact List.cons_ne_nil _ _) rest

/-! ### Order -/

/-- Only requests that came have purge calls and paths that wait, and no request has both. -/
structure State.Orderly (s : State) : Prop where
  numbered : s.Numbered
  ahead : ∀ id, s.arrived ≤ id → s.jobs.lookup id = none
  apart : ∀ id, (s.task? id).isSome = true → s.jobs.lookup id = none

theorem State.orderly_fresh (files : FileTree) (peers : Peers) : (fresh files peers).Orderly where
  numbered := numbered_fresh files peers
  ahead := fun _ _ => rfl
  apart := fun _ _ => rfl

/-- A number under which a step puts nothing down keeps none if it had none. -/
theorem lookup_step_eq_none {m : Move} (hold : s.jobs.lookup id = none)
    (hnew : id = m.subject s → Effect.jobs (g.step clock s m).2 = []) :
    (g.step clock s m).1.jobs.lookup id = none := by
  cases hm : m.isFetch with
  | true =>
    obtain ⟨i, rfl⟩ := Move.exists_of_isFetch hm
    rw [lookup_step_fetch, fetch]
    split
    · exact hold
    · next path rest hjob =>
      have hne : id ≠ i := by
        rintro rfl
        rw [State.job_of_lookup_none hold] at hjob
        cases hjob
      exact (State.lookup_putJob_of_ne rest hne).trans hold
  | false =>
    rw [lookup_step hm, hold, Option.none_or]
    split
    · next hid => rw [hnew hid]; rfl
    · rfl

theorem orderly_step (h : s.Orderly) (m : Move) : (g.step clock s m).1.Orderly where
  numbered := numbered_step h.numbered m
  ahead := by
    intro id hid
    have hnumber : s.arrived ≤ id := Nat.le_trans (arrived_le_step g clock s m) hid
    refine lookup_step_eq_none (h.ahead id hnumber) ?_
    rintro rfl
    rcases jobs_step_cases g clock s m with hnone | ⟨_, -, hsome, -⟩
    · exact hnone
    · rw [h.numbered _ hnumber] at hsome
      cases hsome
  apart := by
    intro id hid
    cases hold : s.task? id with
    | some task =>
      refine lookup_step_eq_none (h.apart id (by rw [hold]; rfl)) ?_
      rintro rfl
      rcases jobs_step_cases g clock s m with hnone | ⟨_, -, -, hover⟩
      · exact hnone
      · rw [hover] at hid
        cases hid
    | none =>
      -- a call that is new has the number of a request that came just now
      have hconcerns : m.concerns s id = true := by
        cases hm : m.concerns s id with
        | true => rfl
        | false =>
          rw [task?_step_of_not_concerns hm, hold] at hid
          cases hid
      rcases turn?_of_concerns (g := g) hconcerns with ⟨request, rfl, rfl⟩ | ⟨turn, hturn⟩
      · exact lookup_step_eq_none (h.ahead _ (Nat.le_refl _)) fun _ =>
          jobs_arrive g clock s request
      · rw [(step_of_turn?_eq_some clock hturn).1, hold] at hid
        cases hid

theorem orderly_run (ms : List Move) : ∀ {s : State}, s.Orderly →
    (g.run clock s ms).1.Orderly := by
  induction ms with
  | nil => intro s h; exact h
  | cons m rest ih => intro s h; exact ih (orderly_step h m)

/-! ### The paths of a number -/

/-- **What one move does to the paths of a number.** It takes the first away if it warms them, and
puts down those of the call that it ends. -/
theorem job_step (h : s.Orderly) (m : Move) (id : Nat) :
    (g.step clock s m).1.job id = (if m.fetches id then (s.job id).tail else s.job id)
      ++ (Effect.jobs (if m.concerns s id then (g.step clock s m).2 else [])).flatten := by
  cases hm : m.isFetch with
  | true =>
    obtain ⟨i, rfl⟩ := Move.exists_of_isFetch hm
    have hnot : (Move.fetch i).concerns s id = false := rfl
    rw [hnot, if_neg Bool.false_ne_true, Effect.jobs, List.filterMap_nil, List.flatten_nil,
      List.append_nil]
    by_cases hi : i = id
    · rw [hi, job_step_fetch, Move.fetches, beq_self_eq_true, if_pos rfl]
    · rw [State.job, lookup_step_fetch_of_ne (Ne.symm hi), Move.fetches, beq_false_of_ne hi]
      rfl
  | false =>
    rw [Move.fetches_of_not_isFetch hm, if_neg Bool.false_ne_true]
    by_cases hid : id = m.subject s
    · have hconcerns : m.concerns s id = true := by simp [Move.concerns, hm, hid]
      rw [hconcerns, if_pos rfl, State.job, lookup_step hm, if_pos hid]
      rcases jobs_step_cases g clock s m with hnone | ⟨paths, hpaths, hsome, -⟩
      · rw [hnone, List.head?_nil, Option.or_none, List.flatten_nil, List.append_nil]
        rfl
      · have hold : s.jobs.lookup id = none := h.apart id (by rw [hid]; exact hsome)
        rw [hpaths, State.job_of_lookup_none hold, hold]
        exact (List.append_nil _).symm
    · have hconcerns : m.concerns s id = false := by simp [Move.concerns, Ne.symm hid]
      rw [hconcerns, State.job, lookup_step hm, if_neg hid, Option.or_none]
      exact (List.append_nil _).symm

/-! ### What is tried -/

/-- What a move tries for a number, if it does. -/
def attempt? (s : State) (id : Nat) (m : Move) : Option Attempt :=
  if m.fetches id then (s.job id).head?.map fun path => ⟨path, s.peers⟩ else none

/-- What is tried for a number in a run. -/
def attempts (g : Gateway) (clock : AccessLog.Clock) (s : State) (id : Nat) :
    List Move → List Attempt
  | [] => []
  | m :: rest => (attempt? s id m).toList ++ g.attempts clock (g.step clock s m).1 id rest

/-- What a move tries is the first path that waits. -/
theorem path_attempt? (s : State) (id : Nat) (m : Move) :
    (attempt? s id m).toList.map Attempt.path
      ++ (if m.fetches id then (s.job id).tail else s.job id) = s.job id := by
  rw [attempt?]
  cases m.fetches id with
  | true => cases s.job id <;> rfl
  | false => rfl

/-- **Nothing is lost or tried twice.** The paths that are tried in a run, and those that wait after
it, are those that waited before it and those that it put down. -/
theorem job_run (ms : List Move) (id : Nat) : ∀ {s : State}, s.Orderly →
    (g.attempts clock s id ms).map Attempt.path ++ (g.run clock s ms).1.job id
      = s.job id ++ (Effect.jobs (g.share clock s id ms)).flatten := by
  induction ms with
  | nil => intro s _; exact (List.append_nil _).symm
  | cons m rest ih =>
    intro s h
    rw [attempts, run_cons_state, share, List.map_append, List.append_assoc, ih (orderly_step h m),
      job_step h, Effect.jobs_append, List.flatten_append, List.append_assoc, ← List.append_assoc,
      path_attempt?]

/-- **As many paths are tried as there are moves that warm**, if nothing is put down meanwhile. -/
theorem job_run_of_jobs_eq_nil (ms : List Move) : ∀ {s : State}, s.Orderly →
    Effect.jobs (g.share clock s id ms) = [] →
      (g.run clock s ms).1.job id = (s.job id).drop (ms.countP (Move.fetches id)) := by
  induction ms with
  | nil => intro s _ _; exact List.drop_zero.symm
  | cons m rest ih =>
    intro s h hnone
    rw [share, Effect.jobs_append, List.append_eq_nil_iff] at hnone
    rw [run_cons_state, ih (orderly_step h m) hnone.2, job_step h, hnone.1, List.flatten_nil,
      List.append_nil, List.countP_cons]
    cases m.fetches id with
    | true => rw [if_pos rfl, if_pos rfl, ← List.drop_one, List.drop_drop, Nat.add_comm]
    | false => rfl

end PurgeGateway.Gateway
