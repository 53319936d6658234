import PurgeGateway.Proofs.Course

/-!
# What a purge call hands out

A call asks for one signature at most and hands one request at most to the peers, each at the turn
that its course notes. The first is the request that its own header fields and body are routed to,
and the second is what its own signer made of that.

## Main results

* `handedOut_follow`: what is handed out is what the course notes.
* `asked_courseOf`: a signature is asked for the routed request only.
* `forwarded_courseOf`: what is forwarded is the signed request.
-/

namespace PurgeGateway.Gateway

variable {g : Gateway} {stage : Purge.Stage}

/-- The requests that a course has made. -/
def Course.calls (c : Course) : List Outbound :=
  match c.forwarded with
  | some signed => (c.peers.send signed).calls
  | none => []

/-! ### Once only -/

/-- Behind the turn that hands a request out, nothing is handed out again. -/
theorem courseOf_of_rank (g : Gateway) (ts : List Turn) : ∀ stage : Purge.Stage,
    (2 ≤ rank stage → (courseOf g stage ts).asked = none) ∧
      (3 ≤ rank stage → (courseOf g stage ts).forwarded = none) := by
  induction ts with
  | nil => intro stage; exact ⟨fun _ => rfl, fun _ => rfl⟩
  | cons turn rest ih =>
    intro stage
    obtain ⟨hasked, hforwarded⟩ := ih (turn.progress g stage).1
    have hrank := rank_le_progress g turn stage
    refine ⟨fun h => ?_, fun h => ?_⟩
    · rw [courseOf, ← hasked (Nat.le_trans h hrank)]
      cases stage <;> cases turn <;> first | rfl | simp [rank] at h
    · rw [courseOf, ← hforwarded (Nat.le_trans h hrank)]
      cases stage <;> cases turn <;> first | rfl | simp [rank] at h

theorem calls_of_rank (g : Gateway) (ts : List Turn) (h : 3 ≤ rank stage) :
    (courseOf g stage ts).calls = [] := by
  rw [Course.calls, (courseOf_of_rank g ts stage).2 h]

/-! ### The effects of a turn that hands out -/

theorem calls_callEffects (sent : Peers.Sent) :
    Effect.calls (Purge.Stage.callEffects sent) = sent.calls :=
  Effect.calls_map_call sent.calls

theorem asks_callEffects (sent : Peers.Sent) :
    Effect.asks (Purge.Stage.callEffects sent) = [] :=
  Effect.asks_map_call sent.calls

/-- Taking a call on hands nothing out. -/
theorem handedOut_accept (api : String) (headers : Http.Headers) (body : List UInt8) :
    Effect.asks (Purge.Stage.accept api headers body).2 = [] ∧
      Effect.calls (Purge.Stage.accept api headers body).2 = [] := by
  rcases accept_cases api headers body with ⟨_, _, h⟩ | ⟨_, _, h⟩
  · rw [accept_of_routed h]; exact ⟨rfl, rfl⟩
  · rw [h]; exact ⟨rfl, rfl⟩

theorem handedOut_sign (signer : Outbound → Except Signing.Error Outbound) (request : Purge.Request)
    (outbound : Outbound) :
    Effect.asks (Purge.Stage.sign signer (.signing request outbound)).2 = [outbound] ∧
      Effect.calls (Purge.Stage.sign signer (.signing request outbound)).2 = [] := by
  rcases sign_cases signer request outbound with ⟨_, _, h⟩ | ⟨_, _, _, _, h⟩ <;>
    rw [h] <;> exact ⟨rfl, rfl⟩

theorem handedOut_forward (peers : Peers) (request : Purge.Request) (signed : Outbound) :
    Effect.asks (Purge.Stage.forward peers (.forwarding request signed)).1.2 = [] ∧
      Effect.calls (Purge.Stage.forward peers (.forwarding request signed)).1.2
        = (peers.send signed).calls := by
  rcases forward_cases peers request signed with ⟨_, _, h⟩ | ⟨_, _, _, h⟩ <;>
    rw [h, Effect.asks_append, Effect.calls_append, asks_callEffects, calls_callEffects] <;>
    exact ⟨rfl, List.append_nil _⟩

/-- Interpreting an answer hands nothing out; what is warmed comes later. -/
theorem handedOut_interpret (warms : Bool) (request : Purge.Request) (answer : Http.Reply) :
    Effect.asks (Purge.Stage.interpret warms (.interpreting request answer)).2 = [] ∧
      Effect.calls (Purge.Stage.interpret warms (.interpreting request answer)).2 = [] := by
  rcases interpret_cases warms request answer with ⟨_, _, h⟩ | ⟨_, _, _, h⟩
  · rw [h, Purge.Stage.succeed]
    split <;> exact ⟨rfl, rfl⟩
  · rw [h]; exact ⟨rfl, rfl⟩

/-! ### The effects of all turns -/

/-- **What is handed out is what the course notes.** -/
theorem handedOut_follow (g : Gateway) (ts : List Turn) : ∀ stage : Purge.Stage,
    Effect.asks (follow g stage ts).2 = (courseOf g stage ts).asked.toList ∧
      Effect.calls (follow g stage ts).2 = (courseOf g stage ts).calls := by
  induction ts with
  | nil => intro stage; exact ⟨rfl, rfl⟩
  | cons turn rest ih =>
    intro stage
    cases happ : turn.applies stage with
    | false =>
      rw [follow_cons_of_not_applies happ, courseOf, progress_of_not_applies happ,
        note_of_not_applies _ happ]
      exact ih stage
    | true =>
      obtain ⟨hasks, hcalls⟩ := ih (turn.progress g stage).1
      have hrank := rank_lt_progress g happ
      rw [follow_cons, Effect.asks_append, Effect.calls_append, hasks, hcalls, courseOf]
      induction turn, stage, happ using Turn.applies_cases with
      | start headers body =>
        obtain ⟨ha, hc⟩ := handedOut_accept g.api headers body
        rw [Turn.progress, Purge.Stage.start, ha, hc]
        exact ⟨rfl, rfl⟩
      | sign signer request outbound =>
        obtain ⟨ha, hc⟩ := handedOut_sign signer request outbound
        -- behind its signature a call asks for no other
        have hnone := (courseOf_of_rank g rest _).1 hrank
        rw [hnone, Turn.progress, ha, hc]
        exact ⟨rfl, rfl⟩
      | forward peers request signed =>
        obtain ⟨ha, hc⟩ := handedOut_forward peers request signed
        have hnone := calls_of_rank g rest hrank
        rw [hnone, Turn.progress, ha, hc]
        exact ⟨rfl, List.append_nil _⟩
      | interpret request answer =>
        obtain ⟨ha, hc⟩ := handedOut_interpret g.warming.isSome request answer
        rw [Turn.progress, ha, hc]
        exact ⟨rfl, rfl⟩

/-! ### Where it comes from -/

/-- **A signature is asked for the routed request.** -/
theorem asked_courseOf (ts : List Turn) : ∀ {stage : Purge.Stage} {outbound : Outbound},
    (courseOf g stage ts).asked = some outbound →
      (∃ request, stage = .signing request outbound) ∨
        ∃ headers body request, stage = .received headers body ∧
          Routed g.api headers body request outbound := by
  induction ts with
  | nil => intro stage outbound h; cases h
  | cons turn rest ih =>
    intro stage outbound h
    rw [courseOf] at h
    cases happ : turn.applies stage with
    | false =>
      rw [progress_of_not_applies happ, note_of_not_applies _ happ] at h
      exact ih h
    | true =>
      have hrank := rank_lt_progress g happ
      induction turn, stage, happ using Turn.applies_cases with
      | start headers body =>
        refine .inr ⟨headers, body, ?_⟩
        rcases accept_cases g.api headers body with ⟨r, o, hrouted⟩ | ⟨e, notice, hfail⟩
        · have hto : (Turn.start.progress g (.received headers body)).1 = .signing r o := by
            rw [Turn.progress, Purge.Stage.start, accept_of_routed hrouted]
          rw [hto] at h
          rcases ih h with ⟨request, hnext⟩ | ⟨_, _, _, hnext, _⟩
          · cases hnext
            exact ⟨r, rfl, hrouted⟩
          · cases hnext
        · have hto : rank (Turn.start.progress g (.received headers body)).1 = 4 := by
            rw [Turn.progress, Purge.Stage.start, hfail]
            rfl
          have hnone := (courseOf_of_rank g rest _).1 (by rw [hto]; decide)
          exact absurd (hnone.symm.trans h) (by simp)
      | sign signer request signing =>
        cases h
        exact .inl ⟨request, rfl⟩
      | forward peers request signed =>
        have hnone := (courseOf_of_rank g rest _).1 (Nat.le_of_lt hrank)
        exact absurd (hnone.symm.trans h) (by simp)
      | interpret request answer =>
        have hnone := (courseOf_of_rank g rest _).1 (Nat.le_trans (Nat.le_add_left 2 2) hrank)
        exact absurd (hnone.symm.trans h) (by simp)

/-- **What is forwarded is the signed request**, signed by the signer of the course. -/
theorem forwarded_courseOf (ts : List Turn) : ∀ {stage : Purge.Stage} {signed : Outbound},
    (courseOf g stage ts).forwarded = some signed →
      (∃ request, stage = .forwarding request signed) ∨
        rank stage ≤ 1 ∧ ∃ outbound, (courseOf g stage ts).asked = some outbound ∧
          (courseOf g stage ts).signer outbound = .ok signed := by
  induction ts with
  | nil => intro stage signed h; cases h
  | cons turn rest ih =>
    intro stage signed h
    rw [courseOf] at h ⊢
    cases happ : turn.applies stage with
    | false =>
      rw [progress_of_not_applies happ, note_of_not_applies _ happ] at h ⊢
      exact ih h
    | true =>
      have hrank := rank_lt_progress g happ
      induction turn, stage, happ using Turn.applies_cases with
      | start headers body =>
        refine .inr ⟨Nat.zero_le 1, ?_⟩
        rcases ih h with ⟨request, hnext⟩ | ⟨_, hbehind⟩
        · rw [Turn.progress, Purge.Stage.start] at hnext
          rcases accept_cases g.api headers body with ⟨r, o, hrouted⟩ | ⟨e, notice, hfail⟩
          · rw [accept_of_routed hrouted] at hnext; cases hnext
          · rw [hfail] at hnext; cases hnext
        · exact hbehind
      | sign signer request outbound =>
        refine .inr ⟨Nat.le_refl 1, outbound, rfl, ?_⟩
        rcases ih h with ⟨r, hnext⟩ | ⟨hlow, _⟩
        · rw [Turn.progress] at hnext
          rcases sign_cases signer request outbound with ⟨s, hok, hto⟩ | ⟨_, _, _, _, hfail⟩
          · rw [hto] at hnext
            cases hnext
            exact hok
          · rw [hfail] at hnext; cases hnext
        · exact absurd hlow (Nat.not_le_of_lt hrank)
      | forward peers request asked =>
        cases h
        exact .inl ⟨request, rfl⟩
      | interpret request answer =>
        have hnone := (courseOf_of_rank g rest _).2 (Nat.le_of_lt hrank)
        exact absurd (hnone.symm.trans h) (by simp)

end PurgeGateway.Gateway
