import PurgeGateway.Proofs.State

/-!
# One purge call out of many

A move changes at most one purge call. What it does to that call is a **turn**: the move together
with all it takes from the rest of the state, which is the answer of a signer or the peers. Turns
act on what is left of a call and on nothing else, so a run of the whole gateway, seen from one
call, is a run of turns.

This is the only module that looks at what a step of the gateway does to a call. All that is said
of a call elsewhere is said of its turns.

## Main definitions

* `Turn`: what can happen to a purge call.
* `Task.take`: what a turn leaves of a call, and its effects.
* `takeAll`: turns one after the other.
* `turns`: the turns of the call with a number in a run.
* `share`: the effects of a run that belong to one request, its warming apart.

## Main results

* `step_of_turn?_eq_some`, `task?_step_of_not_concerns`: a step, seen from one call, is a turn or
  nothing.
* `run_eq_takeAll`, `run_arrive_eq_takeAll`: a run, seen from one call, is the run of its turns.
* `numbered_run`: only requests that came have purge calls.
-/

namespace PurgeGateway.Gateway

/-! ### Turns -/

/-- What can happen to a purge call, with what it takes from the rest of the gateway. -/
inductive Turn
  | start
  | sign (signer : Outbound → Except Signing.Error Outbound)
  | forward (peers : Peers)
  | interpret
  | leave
  | expire

namespace Turn

/-- What the caller does in a turn, if the turn is the caller's. -/
def impatience? : Turn → Option Impatience
  | .leave => some .leaves
  | .expire => some .timesOut
  | _ => none

/-- How a turn brings a call from its stage to another. -/
def progress (g : Gateway) : Turn → Purge.Stage → Purge.Stage.Progress
  | .start => Purge.Stage.start g.api
  | .sign signer => Purge.Stage.sign signer
  | .forward peers => fun stage => (stage.forward peers).1
  | .interpret => Purge.Stage.interpret g.warming.isSome
  | .leave | .expire => fun stage => (stage, [])

end Turn

/-- What is told to a caller who does not wait. -/
def farewell (id : Nat) (request : Http.Request) : Impatience → List Effect
  | .leaves => []
  | .timesOut => refuse id request (.ofLayer .elapsed)

/-- What a turn leaves of a purge call, and its effects. -/
def Task.take (g : Gateway) (clock : AccessLog.Clock) (id : Nat) (task : Task) (turn : Turn) :
    Option Task × List Effect :=
  match turn.impatience? with
  | some i =>
    (some { task with caller := none }, (task.caller.map (farewell id · i)).getD [])
  | none => g.settle clock id task.caller (turn.progress g task.stage)

/-- What turns leave of a purge call, and all their effects. -/
def takeAll (g : Gateway) (clock : AccessLog.Clock) (id : Nat) :
    Option Task → List Turn → Option Task × List Effect
  | some task, turn :: rest =>
    let (left, effects) := task.take g clock id turn
    let (last, later) := takeAll g clock id left rest
    (last, effects ++ later)
  | left, _ => (left, [])

/-! ### Turns in a run -/

/-- The turn that a move is for the purge call with a number, if it is about that call. -/
def turn? (g : Gateway) (s : State) (id : Nat) : Move → Option Turn
  | .start i => if i = id then some .start else none
  | .sign i signer => if i = id then some (.sign (signer (s.credentialsFile g))) else none
  | .forward i => if i = id then some (.forward s.peers) else none
  | .interpret i => if i = id then some .interpret else none
  | .leave i => if i = id then some .leave else none
  | .expire i => if i = id then some .expire else none
  | .arrive _ | .fetch _ => none

/-- The turns of the purge call with a number in a run. -/
def turns (g : Gateway) (clock : AccessLog.Clock) (s : State) (id : Nat) : List Move → List Turn
  | [] => []
  | m :: rest => (g.turn? s id m).toList ++ g.turns clock (g.step clock s m).1 id rest

/-- The move warms a path. -/
def Move.isFetch : Move → Bool
  | .fetch _ => true
  | _ => false

theorem Move.exists_of_isFetch {m : Move} (h : m.isFetch = true) : ∃ id, m = .fetch id := by
  cases m with
  | fetch id => exact ⟨id, rfl⟩
  | _ => cases h

/-- The move is about the request with a number and does not warm. -/
def Move.concerns (s : State) (id : Nat) (m : Move) : Bool :=
  !m.isFetch && m.subject s == id

/-- The effects of a run that belong to the request with a number, its warming apart. -/
def share (g : Gateway) (clock : AccessLog.Clock) (s : State) (id : Nat) : List Move → List Effect
  | [] => []
  | m :: rest =>
    (if m.concerns s id then (g.step clock s m).2 else []) ++
      g.share clock (g.step clock s m).1 id rest

/-! ### A step as a turn -/

variable {g : Gateway} {clock : AccessLog.Clock} {s : State} {id : Nat}

/-- The moves that are about a request that came and do not warm are turns of its purge call. -/
theorem concerns_eq_isSome_turn? (h : id < s.arrived) (m : Move) :
    m.concerns s id = (g.turn? s id m).isSome := by
  cases m with
  | arrive request => simp [Move.concerns, Move.isFetch, Move.subject, turn?, Nat.ne_of_gt h]
  | fetch i => rfl
  | _ i =>
    simp only [Move.concerns, Move.isFetch, Move.subject, turn?]
    by_cases hi : i = id <;> simp [hi]

/-- A move that is not about a request leaves its purge call alone. -/
theorem task?_step_of_not_concerns {m : Move} (hm : m.concerns s id = false) :
    (g.step clock s m).1.task? id = s.task? id := by
  cases m with
  | arrive request =>
    have hid : id ≠ s.arrived := by
      rintro rfl
      simp [Move.concerns, Move.isFetch, Move.subject] at hm
    cases hand : g.handsOver request with
    | true =>
      rw [step, perform, arrive_of_handsOver hand, State.task?_absorb,
        State.task?_setTask_of_ne _ hid]
      rfl
    | false =>
      rw [step, perform, State.task?_absorb, arrive_of_not_handsOver hand]
      rfl
  | fetch i =>
    simp only [step, perform, fetch]
    split <;> rfl
  | _ i =>
    have hi : id ≠ i := by
      rintro rfl
      simp [Move.concerns, Move.isFetch, Move.subject] at hm
    simp only [step, perform, advance, forward, abandon, proceed, State.putTask_eq_setTask]
    cases s.task? i with
    | none => rfl
    | some task => exact State.task?_setTask_of_ne _ hi

/-- A move that is a turn of a call does to the call what the turn does, and has its effects. -/
theorem step_of_turn?_eq_some (clock : AccessLog.Clock) {m : Move} {turn : Turn}
    (hm : g.turn? s id m = some turn) :
    (g.step clock s m).1.task? id = (s.task? id).bind (fun task => (task.take g clock id turn).1) ∧
      (g.step clock s m).2
        = ((s.task? id).map fun task => (task.take g clock id turn).2).getD [] := by
  cases m with
  | arrive request => simp [turn?] at hm
  | fetch i => simp [turn?] at hm
  | _ i =>
    obtain ⟨rfl, rfl⟩ : i = id ∧ _ = turn := by simpa [turn?] using hm
    simp only [step, perform, advance, forward, abandon, proceed, State.putTask_eq_setTask]
    cases h : s.task? i with
    | none => simp [h]
    | some task => simp [Task.take, Turn.impatience?, Turn.progress, farewell]

/-! ### A run as turns -/

@[simp] theorem takeAll_none (ts : List Turn) : takeAll g clock id none ts = (none, []) := by
  cases ts <;> rfl

@[simp] theorem takeAll_nil (left : Option Task) : takeAll g clock id left [] = (left, []) := by
  cases left <;> rfl

theorem takeAll_cons (task : Task) (turn : Turn) (rest : List Turn) :
    takeAll g clock id (some task) (turn :: rest)
      = ((takeAll g clock id (task.take g clock id turn).1 rest).1,
        (task.take g clock id turn).2
          ++ (takeAll g clock id (task.take g clock id turn).1 rest).2) := rfl

/-- **One call out of many.** A run changes the purge call of a request that came, and has effects
that belong to it, as the turns in it say. -/
theorem run_eq_takeAll (g : Gateway) (clock : AccessLog.Clock) (ms : List Move) :
    ∀ {s : State}, id < s.arrived →
    (g.run clock s ms).1.task? id = (takeAll g clock id (s.task? id) (g.turns clock s id ms)).1 ∧
      g.share clock s id ms = (takeAll g clock id (s.task? id) (g.turns clock s id ms)).2 := by
  induction ms with
  | nil => intro s _; simp [share, turns]
  | cons m rest ih =>
    intro s h
    obtain ⟨hstate, heffects⟩ := ih (Nat.lt_of_lt_of_le h (arrived_le_step g clock s m))
    rw [run_cons_state, share, turns, hstate, heffects, concerns_eq_isSome_turn? h]
    cases hm : g.turn? s id m with
    | none =>
      have hother : m.concerns s id = false := by rw [concerns_eq_isSome_turn? (g := g) h, hm]; rfl
      simp [task?_step_of_not_concerns hother]
    | some turn =>
      obtain ⟨hleft, hdone⟩ := step_of_turn?_eq_some clock hm
      rw [hleft, hdone]
      cases s.task? id with
      | none => simp
      | some task => simp [takeAll_cons]

/-! ### Numbers -/

/-- An arrival has a turn of no call; every other move that concerns a request is a turn of its
call. -/
theorem turn?_of_concerns {m : Move} (hm : m.concerns s id = true) :
    (∃ request, m = .arrive request ∧ id = s.arrived) ∨ ∃ turn, g.turn? s id m = some turn := by
  cases m with
  | arrive request =>
    have hid : s.arrived = id := by simpa [Move.concerns, Move.isFetch, Move.subject] using hm
    exact .inl ⟨request, rfl, hid.symm⟩
  | fetch i => simp [Move.concerns, Move.isFetch] at hm
  | _ i =>
    obtain rfl : i = id := by simpa [Move.concerns, Move.isFetch, Move.subject] using hm
    exact .inr ⟨_, if_pos rfl⟩

/-- **Every move warms, is an arrival, or is a turn** of the call that it is about. -/
theorem move_cases (g : Gateway) (s : State) (m : Move) :
    (∃ id, m = .fetch id) ∨ (∃ request, m = .arrive request) ∨
      ∃ turn, g.turn? s (m.subject s) m = some turn := by
  cases hm : m.isFetch with
  | true => exact .inl (Move.exists_of_isFetch hm)
  | false =>
    have hconcerns : m.concerns s (m.subject s) = true := by simp [Move.concerns, hm]
    rcases turn?_of_concerns (g := g) hconcerns with ⟨request, rfl, -⟩ | hturn
    · exact .inr (.inl ⟨request, rfl⟩)
    · exact .inr (.inr hturn)

theorem numbered_step (h : s.Numbered) (m : Move) : (g.step clock s m).1.Numbered := by
  intro id hid
  have hold : s.task? id = none := h id (Nat.le_trans (arrived_le_step g clock s m) hid)
  cases hm : m.concerns s id with
  | false => rw [task?_step_of_not_concerns hm, hold]
  | true =>
    rcases turn?_of_concerns (g := g) hm with ⟨request, rfl, rfl⟩ | ⟨turn, hturn⟩
    · rw [arrived_step] at hid
      exact absurd hid (Nat.not_succ_le_self s.arrived)
    · rw [(step_of_turn?_eq_some clock hturn).1, hold]
      rfl

theorem numbered_run (ms : List Move) : ∀ {s : State}, s.Numbered →
    (g.run clock s ms).1.Numbered := by
  induction ms with
  | nil => intro s h; exact h
  | cons m rest ih => intro s h; exact ih (numbered_step h m)

/-! ### From the arrival on -/

/-- What is left of a request as a purge call once it has come: the call as it was received, or
nothing. -/
def received? (g : Gateway) (request : Http.Request) : Option Task :=
  if g.handsOver request then some ⟨some request, .received request.headers request.body⟩ else none

theorem task?_step_arrive (h : s.Numbered) (request : Http.Request) :
    (g.step clock s (.arrive request)).1.task? s.arrived = g.received? request := by
  rw [step, perform, State.task?_absorb, received?]
  split
  · next hand => rw [arrive_of_handsOver hand, State.task?_setTask_self]
  · next hand =>
    rw [arrive_of_not_handsOver (by simpa using hand)]
    exact h s.arrived (Nat.le_refl s.arrived)

/-- A run that starts with an arrival, seen from the request that comes: what comes of the arrival
at once, and then turns. -/
theorem run_arrive_eq_takeAll (g : Gateway) (clock : AccessLog.Clock) (h : s.Numbered)
    (request : Http.Request) (ms : List Move) :
    (g.run clock s (.arrive request :: ms)).1.task? s.arrived
        = (takeAll g clock s.arrived (g.received? request)
            (g.turns clock s s.arrived (.arrive request :: ms))).1 ∧
      g.share clock s s.arrived (.arrive request :: ms)
        = (g.arrive clock s request).2 ++ (takeAll g clock s.arrived (g.received? request)
            (g.turns clock s s.arrived (.arrive request :: ms))).2 := by
  have hcame : s.arrived < (g.step clock s (.arrive request)).1.arrived := by
    rw [arrived_step]
    exact Nat.lt_succ_self s.arrived
  obtain ⟨hstate, heffects⟩ := run_eq_takeAll g clock ms hcame
  rw [task?_step_arrive h] at hstate heffects
  refine ⟨hstate, ?_⟩
  rw [share, heffects]
  simp [Move.concerns, Move.isFetch, Move.subject, turns, turn?]
  rfl

end PurgeGateway.Gateway
