import PurgeGateway.Proofs.Turn
import Mathlib.Data.List.Perm.Basic

/-!
# The effects of a run, request by request

Every effect of a run belongs to one request, warming apart: the effects are, up to their order, the
shares of the requests that came, and nothing besides.

## Main definitions

* `pipeline`: the effects of a run, warming apart.

## Main results

* `pipeline_perm`: no effect is lost, and none belongs to two requests.
* `share_of_arrived_le`: what has not come has no share.
-/

namespace PurgeGateway.Gateway

variable {g : Gateway} {clock : AccessLog.Clock} {s : State} {id : Nat}

/-- The effects of a run, the warming of paths apart. -/
def pipeline (g : Gateway) (clock : AccessLog.Clock) (s : State) : List Move → List Effect
  | [] => []
  | m :: rest =>
    (if m.isFetch then [] else (g.step clock s m).2) ++ g.pipeline clock (g.step clock s m).1 rest

/-! ### One run after another -/

theorem run_append_state (g : Gateway) (clock : AccessLog.Clock) (ms ns : List Move) :
    ∀ s : State, (g.run clock s (ms ++ ns)).1 = (g.run clock (g.run clock s ms).1 ns).1 := by
  induction ms with
  | nil => intro s; rfl
  | cons m rest ih => intro s; exact ih (g.step clock s m).1

theorem turns_append (g : Gateway) (clock : AccessLog.Clock) (id : Nat) (ms ns : List Move) :
    ∀ s : State, g.turns clock s id (ms ++ ns)
      = g.turns clock s id ms ++ g.turns clock (g.run clock s ms).1 id ns := by
  induction ms with
  | nil => intro s; rfl
  | cons m rest ih =>
    intro s
    rw [List.cons_append, turns, ih, turns, List.append_assoc]
    rfl

theorem share_append (g : Gateway) (clock : AccessLog.Clock) (id : Nat) (ms ns : List Move) :
    ∀ s : State, g.share clock s id (ms ++ ns)
      = g.share clock s id ms ++ g.share clock (g.run clock s ms).1 id ns := by
  induction ms with
  | nil => intro s; rfl
  | cons m rest ih =>
    intro s
    rw [List.cons_append, share, ih, share, List.append_assoc]
    rfl

/-- A move of a run is a turn of it, with what it meets in some state. -/
theorem mem_turns (g : Gateway) (clock : AccessLog.Clock) (id : Nat) {m : Move} {ms : List Move}
    (hm : m ∈ ms) : ∀ s : State,
    ∃ met : State, ∀ turn, g.turn? met id m = some turn → turn ∈ g.turns clock s id ms := by
  induction ms with
  | nil => cases hm
  | cons head rest ih =>
    intro s
    rcases List.mem_cons.mp hm with rfl | hrest
    · exact ⟨s, fun turn h => by simp [turns, h]⟩
    · obtain ⟨met, h⟩ := ih hrest (g.step clock s head).1
      exact ⟨met, fun turn ht => List.mem_append_right _ (h turn ht)⟩

/-! ### What has not come -/

theorem arrived_le_run (g : Gateway) (clock : AccessLog.Clock) (ms : List Move) : ∀ s : State,
    s.arrived ≤ (g.run clock s ms).1.arrived := by
  induction ms with
  | nil => intro s; exact Nat.le_refl s.arrived
  | cons m rest ih => intro s; exact Nat.le_trans (arrived_le_step g clock s m) (ih _)

/-- A move about a request that has not come by then has no effects. -/
theorem step_effects_of_arrived_le (hs : s.Numbered) {m : Move} (hm : m.isFetch = false)
    (h : (g.step clock s m).1.arrived ≤ m.subject s) : (g.step clock s m).2 = [] := by
  rcases move_cases g s m with ⟨id, rfl⟩ | ⟨request, rfl⟩ | ⟨turn, hturn⟩
  · cases hm
  · rw [arrived_step] at h
    exact absurd h (Nat.not_succ_le_self s.arrived)
  · have hnone : s.task? (m.subject s) = none := hs _ (Nat.le_trans (arrived_le_step g clock s m) h)
    rw [(step_of_turn?_eq_some clock hturn).2, hnone]
    rfl

theorem share_of_arrived_le (ms : List Move) : ∀ {s : State}, s.Numbered →
    (g.run clock s ms).1.arrived ≤ id → g.share clock s id ms = [] := by
  induction ms with
  | nil => intro s _ _; rfl
  | cons m rest ih =>
    intro s hs h
    rw [share, ih (numbered_step hs m) h, List.append_nil]
    split
    · next hconcerns =>
      simp only [Move.concerns, Bool.and_eq_true, Bool.not_eq_true', beq_iff_eq] at hconcerns
      refine step_effects_of_arrived_le hs hconcerns.1 ?_
      rw [hconcerns.2]
      exact Nat.le_trans (arrived_le_run g clock rest _) h
    · rfl

/-! ### Nothing lost, nothing twice -/

/-- What stands at one place of a range. -/
theorem flatMap_range_ite (es : List Effect) (k n : Nat) :
    ((List.range n).flatMap fun i => if k = i then es else []) = if k < n then es else [] := by
  induction n with
  | zero => rfl
  | succ n ih =>
    rw [List.range_succ, List.flatMap_append, ih, List.flatMap_singleton]
    rcases Nat.lt_trichotomy k n with h | rfl | h
    · rw [if_pos h, if_neg (Nat.ne_of_lt h), if_pos (Nat.lt_succ_of_lt h), List.append_nil]
    · simp
    · rw [if_neg (by omega), if_neg (by omega), if_neg (by omega), List.append_nil]

/-- A step belongs to its request. -/
private theorem flatMap_concerns (hs : s.Numbered) (m : Move) {n : Nat}
    (hn : (g.step clock s m).1.arrived ≤ n) :
    ((List.range n).flatMap fun i => if m.concerns s i then (g.step clock s m).2 else [])
      = if m.isFetch then [] else (g.step clock s m).2 := by
  cases hm : m.isFetch with
  | true => simp [Move.concerns, hm]
  | false =>
    simp only [Move.concerns, hm, Bool.not_false, Bool.true_and, beq_iff_eq, flatMap_range_ite]
    by_cases hlt : m.subject s < n
    · simp [hlt]
    · rw [if_neg hlt, step_effects_of_arrived_le hs hm (Nat.le_trans hn (Nat.le_of_not_lt hlt))]
      simp

/-- **Every effect belongs to one request.** Up to order, the effects of a run apart from warming
are the shares of all requests that came. -/
theorem pipeline_perm (ms : List Move) : ∀ {s : State} {n : Nat}, s.Numbered →
    (g.run clock s ms).1.arrived ≤ n →
      (g.pipeline clock s ms).Perm ((List.range n).flatMap fun i => g.share clock s i ms) := by
  induction ms with
  | nil => intro s n _ _; simp [pipeline, share]
  | cons m rest ih =>
    intro s n hs hn
    have hhere := flatMap_concerns (g := g) hs m (Nat.le_trans (arrived_le_run g clock rest _) hn)
    have hlater := ih (numbered_step hs m) hn
    rw [pipeline, ← hhere]
    refine (hlater.append_left _).trans ?_
    exact List.flatMap_append_perm (List.range n) _ _

end PurgeGateway.Gateway
