import PurgeGateway.Gateway.Schedule
import Mathlib.Tactic.ByContra

/-!
# States under moves

What the small changes of a state do to the purge calls that are under way, and what every move
keeps: the files, the numbers that were given out, and the rule that only requests that came have
purge calls.

A purge call is looked at through `State.task?` alone. The order of the calls in the state, and how
often a number stands there, never matters above this module.

## Main definitions

* `State.fresh`: the state before anything has come.
* `State.Numbered`: purge calls have the numbers of requests that came.

## Main results

* `State.task?_setTask_self`, `State.task?_setTask_of_ne`: the purge call with a number, after one
  is changed.
* `files_step`, `peers_step`, `arrived_step`: what moves keep.
-/

namespace PurgeGateway.Gateway

namespace State

variable {s : State} {id i : Nat}

/-! ### Purge calls under numbers -/

/-- Looking up, as a choice on the first entry. -/
private theorem lookup_cons_eq {α : Type} (entry : Nat × α) (rest : List (Nat × α)) (i : Nat) :
    (entry :: rest).lookup i = if i = entry.1 then some entry.2 else rest.lookup i := by
  rw [show entry :: rest = (entry.1, entry.2) :: rest from rfl, List.lookup_cons]
  by_cases h : i = entry.1
  · simp [h]
  · rw [beq_false_of_ne h, if_neg h]

private theorem lookup_replace {α : Type} {entries : List (Nat × α)} (value : α)
    (h : entries.any (·.1 == id) = true) :
    (entries.map fun entry => if entry.1 == id then (id, value) else entry).lookup id
      = some value := by
  induction entries with
  | nil => simp at h
  | cons head rest ih =>
    rw [List.map_cons, lookup_cons_eq]
    by_cases hid : head.1 = id
    · simp [hid]
    · have hrest : rest.any (·.1 == id) = true := by simpa [hid] using h
      rw [ih hrest]
      simp [hid, Ne.symm hid]

private theorem lookup_replace_of_ne {α : Type} {entries : List (Nat × α)} (value : α)
    (h : i ≠ id) :
    (entries.map fun entry => if entry.1 == id then (id, value) else entry).lookup i
      = entries.lookup i := by
  induction entries with
  | nil => rfl
  | cons head rest ih =>
    rw [List.map_cons, lookup_cons_eq, lookup_cons_eq, ih]
    by_cases hid : head.1 = id
    · simp [hid, h]
    · simp [hid]

private theorem lookup_drop_of_ne {tasks : List (Nat × Task)} (h : i ≠ id) :
    (tasks.filter (·.1 != id)).lookup i = tasks.lookup i := by
  induction tasks with
  | nil => rfl
  | cons head rest ih =>
    rw [List.filter_cons, lookup_cons_eq]
    by_cases hid : head.1 = id
    · simp [hid, h, ih]
    · simp [hid, lookup_cons_eq, ih]

theorem task?_putTask_self (s : State) (id : Nat) (task : Task) :
    (s.putTask id task).task? id = some task := by
  rw [task?, putTask]
  split
  · next h => exact lookup_replace task h
  · next h =>
    have hnone : s.tasks.lookup id = none := by
      rw [List.lookup_eq_none_iff]
      intro entry hentry
      by_contra hid
      have heq : id = entry.1 := by simpa using hid
      exact h (List.any_eq_true.mpr ⟨entry, hentry, by simp [heq]⟩)
    rw [List.lookup_append, hnone, lookup_cons_eq]
    simp

theorem task?_putTask_of_ne (task : Task) (h : i ≠ id) :
    (s.putTask id task).task? i = s.task? i := by
  rw [task?, putTask]
  split
  · exact lookup_replace_of_ne task h
  · rw [List.lookup_append, lookup_cons_eq]
    simp [h, task?]

theorem task?_dropTask_self (s : State) (id : Nat) : (s.dropTask id).task? id = none := by
  rw [task?, List.lookup_eq_none_iff]
  intro entry hentry
  have hne : entry.1 ≠ id := by simpa [dropTask] using (List.mem_filter.mp hentry).2
  simp [Ne.symm hne]

theorem task?_dropTask_of_ne (h : i ≠ id) : (s.dropTask id).task? i = s.task? i :=
  lookup_drop_of_ne h

/-- **Read after write.** -/
@[simp] theorem task?_setTask_self (s : State) (id : Nat) (left : Option Task) :
    (s.setTask id left).task? id = left := by
  cases left with
  | none => exact task?_dropTask_self s id
  | some task => exact task?_putTask_self s id task

/-- **Read another call.** -/
theorem task?_setTask_of_ne (left : Option Task) (h : i ≠ id) :
    (s.setTask id left).task? i = s.task? i := by
  cases left with
  | none => exact task?_dropTask_of_ne h
  | some task => exact task?_putTask_of_ne task h

/-! ### Paths to be warmed under numbers -/

/-- Where a number stands, it is found. -/
private theorem any_of_lookup {α : Type} {entries : List (Nat × α)} {value : α}
    (h : entries.lookup id = some value) : entries.any (·.1 == id) = true := by
  obtain ⟨before, behind, rfl, -⟩ := List.lookup_eq_some_iff.mp h
  simp

theorem job_of_lookup {paths : List String} (h : s.jobs.lookup id = some paths) :
    s.job id = paths := by
  rw [job, h, Option.getD_some]

theorem job_of_lookup_none (h : s.jobs.lookup id = none) : s.job id = [] := by
  rw [job, h, Option.getD_none]

theorem job_putJob_self (h : s.job id ≠ []) (paths : List String) :
    (s.putJob id paths).job id = paths := by
  cases hlookup : s.jobs.lookup id with
  | none => exact absurd (job_of_lookup_none hlookup) h
  | some old => exact job_of_lookup (lookup_replace paths (any_of_lookup hlookup))

theorem lookup_putJob_of_ne (paths : List String) (h : i ≠ id) :
    (s.putJob id paths).jobs.lookup i = s.jobs.lookup i :=
  lookup_replace_of_ne paths h

theorem lookup_absorb (s : State) (id i : Nat) (effects : List Effect) :
    (s.absorb id effects).jobs.lookup i
      = (s.jobs.lookup i).or (if i = id then (Effect.jobs effects).head? else none) := by
  rw [absorb, List.lookup_append]
  congr 1
  induction Effect.jobs effects with
  | nil => simp
  | cons paths rest ih =>
    rw [List.map_cons, lookup_cons_eq, ih]
    by_cases h : i = id <;> simp [h]

/-! ### The rest of the state

Changing one purge call leaves everything else alone, and so does taking in effects, but for the
metrics and the paths to be warmed. -/

@[simp] theorem arrived_setTask (s : State) (id : Nat) (left : Option Task) :
    (s.setTask id left).arrived = s.arrived := by
  cases left <;> rfl

@[simp] theorem files_setTask (s : State) (id : Nat) (left : Option Task) :
    (s.setTask id left).files = s.files := by
  cases left <;> rfl

@[simp] theorem peers_setTask (s : State) (id : Nat) (left : Option Task) :
    (s.setTask id left).peers = s.peers := by
  cases left <;> rfl

@[simp] theorem jobs_setTask (s : State) (id : Nat) (left : Option Task) :
    (s.setTask id left).jobs = s.jobs := by
  cases left <;> rfl

@[simp] theorem metrics_setTask (s : State) (id : Nat) (left : Option Task) :
    (s.setTask id left).metrics = s.metrics := by
  cases left <;> rfl

@[simp] theorem task?_absorb (s : State) (id i : Nat) (effects : List Effect) :
    (s.absorb id effects).task? i = s.task? i := rfl

@[simp] theorem arrived_absorb (s : State) (id : Nat) (effects : List Effect) :
    (s.absorb id effects).arrived = s.arrived := rfl

@[simp] theorem files_absorb (s : State) (id : Nat) (effects : List Effect) :
    (s.absorb id effects).files = s.files := rfl

@[simp] theorem peers_absorb (s : State) (id : Nat) (effects : List Effect) :
    (s.absorb id effects).peers = s.peers := rfl

theorem putTask_eq_setTask (s : State) (id : Nat) (task : Task) :
    s.putTask id task = s.setTask id (some task) := rfl

/-! ### Numbers -/

/-- The state before anything has come. -/
def fresh (files : FileTree) (peers : Peers) : State :=
  { files, peers }

/-- Purge calls have the numbers of requests that came. -/
def Numbered (s : State) : Prop :=
  ∀ id, s.arrived ≤ id → s.task? id = none

theorem numbered_fresh (files : FileTree) (peers : Peers) : (fresh files peers).Numbered :=
  fun _ _ => rfl

end State

/-! ### Arrivals -/

variable {g : Gateway} {clock : AccessLog.Clock} {s : State}

/-- The request becomes a purge call: the access log lets it in, it is one, and it is small
enough. -/
def handsOver (g : Gateway) (request : Http.Request) : Bool :=
  (g.log.letIn request).isOk && destination request == .route .purge &&
    request.body.length ≤ g.limit

/-- The access log lets a request in as it is. -/
theorem eq_of_letIn {log : AccessLog.Layer} {request admitted : Http.Request}
    (h : log.letIn request = .ok admitted) : admitted = request := by
  rw [AccessLog.Layer.letIn] at h
  split at h
  · cases h
  · cases h; rfl

/-- Whether the access log takes the request in makes no difference, as its limit is that of the
gateway. -/
theorem handsOver_eq (hlog : g.log.limit = g.limit) (request : Http.Request) :
    g.handsOver request
      = (destination request == .route .purge && decide (request.body.length ≤ g.limit)) := by
  rw [handsOver, AccessLog.Layer.letIn, hlog]
  rcases Nat.lt_or_ge g.limit request.body.length with h | h
  · simp [Nat.not_le.mpr h]
  · simp [h, Nat.not_lt.mpr h, Except.isOk, Except.toBool]

theorem destination_of_handsOver {request : Http.Request} (h : g.handsOver request = true) :
    destination request = .route .purge ∧ request.body.length ≤ g.limit := by
  simp only [handsOver, Bool.and_eq_true, beq_iff_eq, decide_eq_true_eq] at h
  exact ⟨h.1.2, h.2⟩

theorem arrive_of_handsOver {request : Http.Request} (h : g.handsOver request = true) :
    g.arrive clock s request = (({ s with arrived := s.arrived + 1 } : State).setTask s.arrived
      (some ⟨some request, .received request.headers request.body⟩), []) := by
  simp only [handsOver, Bool.and_eq_true, beq_iff_eq, decide_eq_true_eq] at h
  obtain ⟨⟨hin, hroute⟩, hsize⟩ := h
  cases hlet : g.log.letIn request with
  | error e => rw [hlet] at hin; cases hin
  | ok admitted =>
    obtain rfl := eq_of_letIn hlet
    simp only [arrive, hlet, handle, hroute, handOver, Nat.not_lt.mpr hsize, if_false]
    rfl

/-- A request that does not become a purge call leaves only its number. -/
theorem arrive_of_not_handsOver {request : Http.Request} (h : g.handsOver request = false) :
    (g.arrive clock s request).1 = { s with arrived := s.arrived + 1 } := by
  simp only [arrive]
  split
  · rfl
  · next admitted hlet =>
    obtain rfl := eq_of_letIn hlet
    simp only [handle]
    split
    · next hroute =>
      have hsize : g.limit < admitted.body.length := by
        simpa [handsOver, hlet, hroute, Except.isOk, Except.toBool] using h
      simp [handOver, hsize]
    all_goals rfl

/-! ### What every move keeps -/

theorem files_perform (g : Gateway) (clock : AccessLog.Clock) (s : State) (m : Move) :
    (g.perform clock s m).1.files = s.files := by
  cases m with
  | arrive request =>
    cases h : g.handsOver request with
    | true => rw [perform, arrive_of_handsOver h, State.files_setTask]
    | false => rw [perform, arrive_of_not_handsOver h]
  | fetch id =>
    simp only [perform, fetch]
    split <;> rfl
  | _ id =>
    simp only [perform, advance, forward, abandon, proceed, State.putTask_eq_setTask]
    cases s.task? id <;> simp

/-- Only what warms takes paths away. -/
theorem jobs_perform (g : Gateway) (clock : AccessLog.Clock) (s : State) {m : Move}
    (h : ∀ id, m ≠ .fetch id) : (g.perform clock s m).1.jobs = s.jobs := by
  cases m with
  | arrive request =>
    cases hand : g.handsOver request with
    | true => rw [perform, arrive_of_handsOver hand, State.jobs_setTask]
    | false => rw [perform, arrive_of_not_handsOver hand]
  | fetch id => exact absurd rfl (h id)
  | _ id =>
    simp only [perform, advance, forward, abandon, proceed, State.putTask_eq_setTask]
    cases s.task? id <;> simp

/-- No move counts by itself: what it counts is among its effects. -/
theorem metrics_perform (g : Gateway) (clock : AccessLog.Clock) (s : State) (m : Move) :
    (g.perform clock s m).1.metrics = s.metrics := by
  cases m with
  | arrive request =>
    cases h : g.handsOver request with
    | true => rw [perform, arrive_of_handsOver h, State.metrics_setTask]
    | false => rw [perform, arrive_of_not_handsOver h]
  | fetch id =>
    simp only [perform, fetch]
    split <;> rfl
  | _ id =>
    simp only [perform, advance, forward, abandon, proceed, State.putTask_eq_setTask]
    cases s.task? id <;> simp

theorem files_step (g : Gateway) (clock : AccessLog.Clock) (s : State) (m : Move) :
    (g.step clock s m).1.files = s.files :=
  files_perform g clock s m

theorem credentialsFile_step (g : Gateway) (clock : AccessLog.Clock) (s : State) (m : Move) :
    (g.step clock s m).1.credentialsFile g = s.credentialsFile g := by
  rw [State.credentialsFile, State.credentialsFile, files_step]

/-- The move makes requests of its own. -/
def Move.sends : Move → Bool
  | .forward _ | .fetch _ => true
  | _ => false

/-- Only what makes requests changes what the peers do next. -/
theorem peers_step (g : Gateway) (clock : AccessLog.Clock) (s : State) {m : Move}
    (h : m.sends = false) : (g.step clock s m).1.peers = s.peers := by
  cases m with
  | arrive request =>
    cases hand : g.handsOver request with
    | true => simp [step, perform, arrive_of_handsOver hand]
    | false => simp [step, perform, arrive_of_not_handsOver hand]
  | forward id => cases h
  | fetch id => cases h
  | _ id =>
    simp only [step, perform, advance, abandon, proceed, State.putTask_eq_setTask]
    cases s.task? id <;> simp

/-- Only an arrival gives out a number, the next one. -/
theorem arrived_step (g : Gateway) (clock : AccessLog.Clock) (s : State) (m : Move) :
    (g.step clock s m).1.arrived
      = match m with
        | .arrive _ => s.arrived + 1
        | _ => s.arrived := by
  cases m with
  | arrive request =>
    cases h : g.handsOver request with
    | true => simp [step, perform, arrive_of_handsOver h]
    | false => simp [step, perform, arrive_of_not_handsOver h]
  | fetch id =>
    simp only [step, perform, fetch]
    split <;> rfl
  | _ id =>
    simp only [step, perform, advance, forward, abandon, proceed, State.putTask_eq_setTask]
    cases s.task? id <;> simp

theorem arrived_le_step (g : Gateway) (clock : AccessLog.Clock) (s : State) (m : Move) :
    s.arrived ≤ (g.step clock s m).1.arrived := by
  rw [arrived_step]
  split
  · exact Nat.le_succ s.arrived
  · exact Nat.le_refl s.arrived

/-! ### Runs -/

@[simp] theorem run_nil (g : Gateway) (clock : AccessLog.Clock) (s : State) :
    g.run clock s [] = (s, []) := rfl

theorem run_cons_state (g : Gateway) (clock : AccessLog.Clock) (s : State) (m : Move)
    (rest : List Move) :
    (g.run clock s (m :: rest)).1 = (g.run clock (g.step clock s m).1 rest).1 := rfl

theorem run_cons_effects (g : Gateway) (clock : AccessLog.Clock) (s : State) (m : Move)
    (rest : List Move) :
    (g.run clock s (m :: rest)).2
      = (g.step clock s m).2 ++ (g.run clock (g.step clock s m).1 rest).2 := rfl

/-! ### A plain gateway

The least there can be: a configuration that names a host, and a request that purges one path. -/

/-- The configuration that names a host and nothing else. -/
def plainConfig (host : String) : Config :=
  { api := { host } }

/-- The gateway of a configuration, but for its warming. -/
def coldGateway (c : Config) : Gateway where
  api := c.api.baseUrl
  credentials := c.api.credentials
  credentialsPath := FileTree.pathOf c.api.credentialsPath
  limit := c.listener.maxBodySize
  log := .ofConfig c

/-- Without warming, every configuration has a gateway. -/
theorem ofConfig_cold {c : Config} (h : c.warming.enabled = false) :
    ofConfig c true = .ok (coldGateway c) := by
  simp only [ofConfig, warmingFields, h, Bool.false_eq_true, if_false, Except.map, coldGateway]

/-- The gateway of a host. -/
def plainGateway (host : String) : Gateway :=
  coldGateway (plainConfig host)

theorem ofConfig_plain (host : String) :
    ofConfig (plainConfig host) true = .ok (plainGateway host) :=
  ofConfig_cold rfl

/-- An address without a name in it: the machine itself. -/
def loopback : String := "http://[::1]"

/-- A request that purges one path. -/
def purgeOfOne : Http.Request where
  method := "POST"
  target := { path := "/api/v1/purge" }
  headers := [⟨"content-type", Utf8.bytes "application/json"⟩]
  body := Utf8.bytes "[\"urls\",\"invalidate\",\"staging\",[\"/a.jpg\"]]"

end PurgeGateway.Gateway
