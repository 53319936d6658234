import PurgeGateway.Proofs.Effects
import PurgeGateway.Proofs.Turn

/-!
# The course of a purge call

However the turns of a call are mixed with each other, and whatever its caller does meanwhile, the
call goes through its stages in one order, and at most four turns bring it on. All that the other
turns do is nothing.

So the course of a call is fixed by what it meets at those four: the answer of its signer, and the
peers at the time when it is forwarded. `Course` holds these two, with what the caller did and with
what was handed out on the way, and `Course.finish` goes from any stage straight to the end.

## Main definitions

* `follow`: a stage brought on by turns.
* `Course`, `courseOf`: what a call meets in its turns.
* `Course.finish`: a stage brought to its end by what a course holds.

## Main results

* `accept_cases`, `sign_cases`, `forward_cases`, `interpret_cases`: where the turns lead.
* `follow_eq_finish`: turns that end a call do what its course says.
* `follow_ends`: the four turns in order end a call, whatever stands between them.
-/

namespace PurgeGateway.Gateway

/-! ### Stages under turns -/

/-- The turn is the one that brings a call on from its stage. -/
def Turn.applies : Turn → Purge.Stage → Bool
  | .start, .received _ _ => true
  | .sign _, .signing _ _ => true
  | .forward _, .forwarding _ _ => true
  | .interpret, .interpreting _ _ => true
  | _, _ => false

/-- How many turns have brought a call to its stage. -/
def rank : Purge.Stage → Nat
  | .received _ _ => 0
  | .signing _ _ => 1
  | .forwarding _ _ => 2
  | .interpreting _ _ => 3
  | .ended _ => 4

/-- How many turns have brought a call on before the turn can; none are needed for a turn that never
does. -/
def Turn.index : Turn → Nat
  | .start | .leave | .expire => 0
  | .sign _ => 1
  | .forward _ => 2
  | .interpret => 3

/-- Turns that bring a stage on, and their effects. -/
def follow (g : Gateway) : Purge.Stage → List Turn → Purge.Stage.Progress
  | stage, [] => (stage, [])
  | stage, turn :: rest =>
    let (next, effects) := turn.progress g stage
    let (last, later) := follow g next rest
    (last, effects ++ later)

variable {g : Gateway} {clock : AccessLog.Clock} {id : Nat} {stage : Purge.Stage} {turn : Turn}

theorem progress_of_not_applies (h : turn.applies stage = false) :
    turn.progress g stage = (stage, []) := by
  cases turn <;> cases stage <;>
    simp_all [Turn.applies, Turn.progress, Purge.Stage.start, Purge.Stage.sign,
      Purge.Stage.forward, Purge.Stage.interpret]

/-- The four ways in which a turn brings a call on. -/
@[elab_as_elim]
theorem Turn.applies_cases
    {motive : ∀ (turn : Turn) (stage : Purge.Stage), turn.applies stage = true → Prop}
    (start : ∀ headers body, motive .start (.received headers body) rfl)
    (sign : ∀ signer request outbound, motive (.sign signer) (.signing request outbound) rfl)
    (forward : ∀ peers request signed, motive (.forward peers) (.forwarding request signed) rfl)
    (interpret : ∀ request answer, motive .interpret (.interpreting request answer) rfl)
    (turn : Turn) (stage : Purge.Stage) (h : turn.applies stage = true) : motive turn stage h := by
  cases turn <;> cases stage <;> first
    | exact start _ _
    | exact sign _ _ _
    | exact forward _ _ _
    | exact interpret _ _
    | cases h

theorem rank_eq_index (h : turn.applies stage = true) : rank stage = turn.index := by
  induction turn, stage, h using Turn.applies_cases <;> rfl

theorem not_applies_of_index_lt (h : turn.index < rank stage) : turn.applies stage = false := by
  cases happ : turn.applies stage with
  | false => rfl
  | true => exact absurd (rank_eq_index happ) (Nat.ne_of_gt h)

theorem follow_cons (g : Gateway) (stage : Purge.Stage) (turn : Turn) (rest : List Turn) :
    follow g stage (turn :: rest) = ((follow g (turn.progress g stage).1 rest).1,
      (turn.progress g stage).2 ++ (follow g (turn.progress g stage).1 rest).2) := rfl

theorem follow_cons_of_not_applies (h : turn.applies stage = false) (rest : List Turn) :
    follow g stage (turn :: rest) = follow g stage rest := by
  rw [follow_cons, progress_of_not_applies h]
  rfl

/-- Turns that do not apply, in front of others, are nothing. -/
theorem follow_append_of_not_applies {ts : List Turn} (us : List Turn)
    (h : ∀ turn ∈ ts, turn.applies stage = false) :
    follow g stage (ts ++ us) = follow g stage us := by
  induction ts with
  | nil => rfl
  | cons turn rest ih =>
    rw [List.cons_append, follow_cons_of_not_applies (h turn List.mem_cons_self)]
    exact ih fun t ht => h t (List.mem_cons_of_mem _ ht)

/-! ### Where a turn leads

One lemma for each turn that applies: the next stage of the call, or its end, with the effects. -/

/-- All that a call must pass before it is signed: its content type, its body, and its route, which
gives the request to the invalidation API. -/
structure Routed (api : String) (headers : Http.Headers) (body : List UInt8)
    (request : Purge.Request) (outbound : Outbound) : Prop where
  contentType : Purge.acceptsContentType headers = true
  payload : Purge.Request.ofBytes body = .ok request
  address : (request.url? api).bind (Purge.Stage.outbound? request) = some outbound

theorem accept_of_routed {api : String} {headers : Http.Headers} {body : List UInt8}
    {request : Purge.Request} {outbound : Outbound}
    (h : Routed api headers body request outbound) :
    Purge.Stage.accept api headers body = (.signing request outbound, []) := by
  obtain ⟨address, hurl, hto⟩ := Option.bind_eq_some_iff.mp h.address
  simp [Purge.Stage.accept, h.contentType, h.payload, Purge.Stage.routed, hurl, hto]

theorem accept_cases (api : String) (headers : Http.Headers) (body : List UInt8) :
    (∃ request outbound, Routed api headers body request outbound) ∨
      ∃ e notice, Purge.Stage.accept api headers body = Purge.Stage.fail e notice := by
  rw [Purge.Stage.accept]
  split
  · exact .inr ⟨_, _, rfl⟩
  · next hct =>
    split
    · exact .inr ⟨_, _, rfl⟩
    · next request hpayload =>
      rw [Purge.Stage.routed]
      split
      · exact .inr ⟨_, _, rfl⟩
      · next address hurl =>
        split
        · exact .inr ⟨_, _, rfl⟩
        · next outbound hto =>
          exact .inl ⟨request, outbound, by simpa using hct, hpayload, by rw [hurl]; exact hto⟩

theorem sign_cases (signer : Outbound → Except Signing.Error Outbound) (request : Purge.Request)
    (outbound : Outbound) :
    (∃ signed, signer outbound = .ok signed ∧
        Purge.Stage.sign signer (.signing request outbound)
          = (.forwarding request signed, [.ask outbound])) ∨
      ∃ e error notice, signer outbound = .error e ∧
        Purge.Stage.sign signer (.signing request outbound)
          = ((Purge.Stage.fail error notice).1,
              .ask outbound :: (Purge.Stage.fail error notice).2) := by
  rw [Purge.Stage.sign]
  split
  · next signed h => exact .inl ⟨signed, h, rfl⟩
  · next e h => exact .inr ⟨e, _, _, h, rfl⟩

theorem forward_cases (peers : Peers) (request : Purge.Request) (signed : Outbound) :
    (∃ answer, (peers.send signed).answer = some answer ∧
        (Purge.Stage.forward peers (.forwarding request signed)).1
          = (.interpreting request answer,
              Purge.Stage.callEffects (peers.send signed) ++ [.sample .latency])) ∨
      ∃ error notice, (peers.send signed).answer = none ∧
        (Purge.Stage.forward peers (.forwarding request signed)).1
          = ((Purge.Stage.fail error notice).1,
              Purge.Stage.callEffects (peers.send signed)
                ++ (Purge.Stage.fail error notice).2) := by
  rw [Purge.Stage.forward]
  cases h : (peers.send signed).answer with
  | some answer => exact .inl ⟨answer, rfl, rfl⟩
  | none => exact .inr ⟨_, _, rfl, rfl⟩

theorem interpret_cases (warms : Bool) (request : Purge.Request) (answer : Http.Reply) :
    (∃ result, answer.body.whole?.bind Purge.Result.ofBytes? = some result ∧
        Purge.Stage.interpret warms (.interpreting request answer)
          = Purge.Stage.succeed warms request ⟨answer.status, result⟩) ∨
      ∃ error notice, answer.body.whole?.bind Purge.Result.ofBytes? = none ∧
        Purge.Stage.interpret warms (.interpreting request answer)
          = Purge.Stage.fail error notice := by
  rw [Purge.Stage.interpret]
  split
  · next result h => exact .inl ⟨result, h, rfl⟩
  · next h => exact .inr ⟨_, _, h, rfl⟩

/-- **A turn that applies leads on.** -/
theorem rank_lt_progress (g : Gateway) (h : turn.applies stage = true) :
    rank stage < rank (turn.progress g stage).1 := by
  induction turn, stage, h using Turn.applies_cases with
  | start headers body =>
    rcases accept_cases g.api headers body with ⟨_, _, h⟩ | ⟨_, _, h⟩
    · simp [Turn.progress, Purge.Stage.start, accept_of_routed h, rank]
    · simp [Turn.progress, Purge.Stage.start, h, Purge.Stage.fail, rank]
  | sign signer request outbound =>
    rcases sign_cases signer request outbound with ⟨_, _, h⟩ | ⟨_, _, _, _, h⟩ <;>
      simp [Turn.progress, h, Purge.Stage.fail, rank]
  | forward peers request signed =>
    rcases forward_cases peers request signed with ⟨_, _, h⟩ | ⟨_, _, _, h⟩ <;>
      simp [Turn.progress, h, Purge.Stage.fail, rank]
  | interpret request answer =>
    rcases interpret_cases g.warming.isSome request answer with ⟨_, _, h⟩ | ⟨_, _, _, h⟩ <;>
      simp [Turn.progress, h, Purge.Stage.fail, Purge.Stage.succeed, rank]

theorem rank_le_progress (g : Gateway) (turn : Turn) (stage : Purge.Stage) :
    rank stage ≤ rank (turn.progress g stage).1 := by
  cases happ : turn.applies stage with
  | false => exact Nat.le_of_eq (by rw [progress_of_not_applies happ])
  | true => exact Nat.le_of_lt (rank_lt_progress g happ)

/-- A stage that has an outcome is one in which no turn applies any more. -/
theorem follow_of_outcome? {outcome : Except Purge.Error Purge.Relay}
    (h : stage.outcome? = some outcome) (ts : List Turn) : follow g stage ts = (stage, []) := by
  induction ts with
  | nil => rfl
  | cons turn rest ih =>
    have hnot : turn.applies stage = false := by
      cases stage <;> cases turn <;> first | rfl | cases h
    rw [follow_cons_of_not_applies hnot, ih]

/-! ### What a call meets -/

/-- What a purge call meets in its turns: the answer of its signer, the peers when it is forwarded,
the requests handed to the one and to the others, and what its caller does before the end. What a
call does not meet is of no account. -/
structure Course where
  signer : Outbound → Except Signing.Error Outbound := .ok
  peers : Peers := .unreachable
  asked : Option Outbound := none
  forwarded : Option Outbound := none
  impatience : Option Impatience := none

/-- The course with what a turn in a stage adds at its front. -/
def Course.note (c : Course) : Purge.Stage → Turn → Course
  | .signing _ outbound, .sign signer => { c with signer, asked := some outbound }
  | .forwarding _ signed, .forward peers => { c with peers, forwarded := some signed }
  | stage, turn =>
    if stage.outcome?.isSome then c
    else { c with impatience := turn.impatience?.or c.impatience }

/-- What a call meets in turns from a stage on. -/
def courseOf (g : Gateway) : Purge.Stage → List Turn → Course
  | _, [] => {}
  | stage, turn :: rest => (courseOf g (turn.progress g stage).1 rest).note stage turn

/-- The four turns that bring a call to its end. -/
def Course.turns (c : Course) : List Turn :=
  [.start, .sign c.signer, .forward c.peers, .interpret]

/-- A stage brought to its end. -/
def Course.finish (c : Course) (g : Gateway) (stage : Purge.Stage) : Purge.Stage.Progress :=
  follow g stage c.turns

/-- The turn that brings a call on from its stage. -/
def Course.next? (c : Course) : Purge.Stage → Option Turn
  | .received _ _ => some .start
  | .signing _ _ => some (.sign c.signer)
  | .forwarding _ _ => some (.forward c.peers)
  | .interpreting _ _ => some .interpret
  | .ended _ => none

theorem applies_of_next? {c : Course} (h : c.next? stage = some turn) :
    turn.applies stage = true := by
  cases stage <;> cases h <;> rfl

/-- The four turns, split at the one that brings a call on from its stage. -/
theorem turns_split {c : Course} (h : c.next? stage = some turn) :
    ∃ before behind, c.turns = before ++ turn :: behind ∧
      ∀ t ∈ before, t.index < rank stage := by
  cases stage with
  | received headers body => cases h; exact ⟨[], _, rfl, by simp⟩
  | signing request outbound => cases h; exact ⟨[.start], _, rfl, by simp [rank, Turn.index]⟩
  | forwarding request signed =>
    cases h; exact ⟨[.start, .sign c.signer], _, rfl, by simp [rank, Turn.index]⟩
  | interpreting request answer =>
    cases h
    exact ⟨[.start, .sign c.signer, .forward c.peers], _, rfl, by simp [rank, Turn.index]⟩
  | ended outcome => cases h

/-- **One turn at a time.** The turn that brings a call on from its stage comes first; the end is
that of the stage behind it. -/
theorem finish_of_next? {c : Course} (h : c.next? stage = some turn) :
    c.finish g stage = ((c.finish g (turn.progress g stage).1).1,
      (turn.progress g stage).2 ++ (c.finish g (turn.progress g stage).1).2) := by
  obtain ⟨before, behind, hturns, hbefore⟩ := turns_split h
  have happ : turn.applies stage = true := applies_of_next? h
  have hrank : rank stage < rank (turn.progress g stage).1 := rank_lt_progress g happ
  have hhere : c.finish g stage = follow g stage (turn :: behind) := by
    rw [Course.finish, hturns]
    exact follow_append_of_not_applies _ fun t ht => not_applies_of_index_lt (hbefore t ht)
  have hnext : c.finish g (turn.progress g stage).1
      = follow g (turn.progress g stage).1 behind := by
    rw [Course.finish, hturns, List.append_cons]
    refine follow_append_of_not_applies _ fun t ht => not_applies_of_index_lt ?_
    rcases List.mem_append.mp ht with ht | ht
    · exact Nat.lt_trans (hbefore t ht) hrank
    · obtain rfl := List.mem_singleton.mp ht
      rw [← rank_eq_index happ]
      exact hrank
  rw [hhere, hnext, follow_cons]

theorem finish_ended (c : Course) (g : Gateway) (outcome : Except Purge.Error Purge.Relay) :
    c.finish g (.ended outcome) = (.ended outcome, []) :=
  follow_of_outcome? rfl c.turns

/-- A turn that ends a call is its end. -/
theorem finish_of_progress_ended {c : Course} {outcome : Except Purge.Error Purge.Relay}
    (hnext : c.next? stage = some turn) (hend : (turn.progress g stage).1 = .ended outcome) :
    c.finish g stage = turn.progress g stage := by
  rw [finish_of_next? hnext, hend, finish_ended, List.append_nil, ← hend]

/-! ### One stage after the other -/

theorem finish_of_routed (c : Course) {headers : Http.Headers} {body : List UInt8}
    {request : Purge.Request} {outbound : Outbound}
    (h : Routed g.api headers body request outbound) :
    c.finish g (.received headers body) = c.finish g (.signing request outbound) := by
  rw [finish_of_next? rfl, Turn.progress, Purge.Stage.start, accept_of_routed h]
  rfl

theorem finish_of_signed {c : Course} {outbound signed : Outbound}
    (h : c.signer outbound = .ok signed) (request : Purge.Request) :
    c.finish g (.signing request outbound) = ((c.finish g (.forwarding request signed)).1,
      .ask outbound :: (c.finish g (.forwarding request signed)).2) := by
  have hturn : (Turn.sign c.signer).progress g (.signing request outbound)
      = (.forwarding request signed, [.ask outbound]) := by
    simp only [Turn.progress, Purge.Stage.sign, h]
  rw [finish_of_next? rfl, hturn]
  rfl

theorem finish_of_answered {c : Course} {signed : Outbound} {answer : Http.Reply}
    (h : (c.peers.send signed).answer = some answer) (request : Purge.Request) :
    c.finish g (.forwarding request signed) = ((c.finish g (.interpreting request answer)).1,
      Purge.Stage.callEffects (c.peers.send signed) ++
        .sample .latency :: (c.finish g (.interpreting request answer)).2) := by
  have hturn : (Turn.forward c.peers).progress g (.forwarding request signed)
      = (.interpreting request answer,
          Purge.Stage.callEffects (c.peers.send signed) ++ [.sample .latency]) := by
    simp only [Turn.progress, Purge.Stage.forward, h]
  have hnext : c.next? (.forwarding request signed) = some (.forward c.peers) := rfl
  rw [finish_of_next? hnext, hturn, List.append_assoc]
  rfl

/-- Two courses come to one end from a stage if they agree on what is still ahead there. -/
theorem finish_congr {c d : Course} (hsigner : rank stage < 2 → c.signer = d.signer)
    (hpeers : rank stage < 3 → c.peers = d.peers) : c.finish g stage = d.finish g stage := by
  have hskip : ∀ before behind : List Turn, (∀ t ∈ before, t.index < rank stage) →
      follow g stage (before ++ behind) = follow g stage behind :=
    fun _ behind h =>
      follow_append_of_not_applies behind fun t ht => not_applies_of_index_lt (h t ht)
  cases stage with
  | received headers body =>
    rw [Course.finish, Course.turns, hsigner (by simp [rank]), hpeers (by simp [rank])]
    rfl
  | signing request outbound =>
    rw [Course.finish, Course.turns, hsigner (by simp [rank]), hpeers (by simp [rank])]
    rfl
  | forwarding request signed =>
    have hc := hskip [.start, .sign c.signer] [.forward d.peers, .interpret]
      (by simp [rank, Turn.index])
    have hd := hskip [.start, .sign d.signer] [.forward d.peers, .interpret]
      (by simp [rank, Turn.index])
    rw [Course.finish, Course.turns, hpeers (by simp [rank])]
    exact hc.trans hd.symm
  | interpreting request answer =>
    have hc := hskip [.start, .sign c.signer, .forward c.peers] [.interpret]
      (by simp [rank, Turn.index])
    have hd := hskip [.start, .sign d.signer, .forward d.peers] [.interpret]
      (by simp [rank, Turn.index])
    exact hc.trans hd.symm
  | ended outcome => rw [finish_ended, finish_ended]

/-! ### Turns that end a call -/

/-- A turn that does not apply adds at most the patience of the caller. -/
theorem note_of_not_applies (c : Course) (h : turn.applies stage = false) :
    c.note stage turn = { c with impatience := (c.note stage turn).impatience } := by
  cases stage <;> cases turn <;> first | rfl | cases h

/-- What a turn that applies adds to a course is what it needs, and what is ahead of it stays. -/
theorem note_of_applies (c : Course) (h : turn.applies stage = true) :
    (c.note stage turn).next? stage = some turn ∧
      (rank stage + 1 < 2 → (c.note stage turn).signer = c.signer) ∧
      (rank stage + 1 < 3 → (c.note stage turn).peers = c.peers) := by
  induction turn, stage, h using Turn.applies_cases <;>
    exact ⟨rfl, by simp [rank, Course.note, Purge.Stage.outcome?]⟩

/-- **Turns that end a call do what its course says**, in whatever order they come and whatever else
is among them. -/
theorem follow_eq_finish (ts : List Turn) : ∀ {stage : Purge.Stage},
    (follow g stage ts).1.outcome?.isSome = true →
      follow g stage ts = (courseOf g stage ts).finish g stage := by
  induction ts with
  | nil =>
    intro stage h
    cases stage with
    | ended outcome => exact (finish_ended _ g outcome).symm
    | _ => cases h
  | cons turn rest ih =>
    intro stage h
    cases happ : turn.applies stage with
    | false =>
      rw [follow_cons_of_not_applies happ] at h ⊢
      rw [ih h, courseOf, progress_of_not_applies happ, note_of_not_applies _ happ]
      -- only the patience of the caller is noted, and no stage looks at that
      exact finish_congr (fun _ => rfl) fun _ => rfl
    | true =>
      have hrank := rank_lt_progress g happ
      rw [follow_cons] at h ⊢
      obtain ⟨hnext, hsigner, hpeers⟩ :=
        note_of_applies (courseOf g (turn.progress g stage).1 rest) happ
      -- what is noted here is behind the next stage, which sees the course of the rest
      have hahead : (courseOf g (turn.progress g stage).1 rest).finish g (turn.progress g stage).1
          = ((courseOf g (turn.progress g stage).1 rest).note stage turn).finish g
              (turn.progress g stage).1 :=
        finish_congr (fun hr => (hsigner (by omega)).symm) fun hr => (hpeers (by omega)).symm
      rw [courseOf, finish_of_next? hnext, ih h, hahead]

/-! ### Coming to the end -/

theorem applies_of_index_eq {c : Course} (hturn : turn ∈ c.turns) (h : turn.index = rank stage) :
    turn.applies stage = true := by
  simp only [Course.turns, List.mem_cons, List.not_mem_nil, or_false] at hturn
  rcases hturn with rfl | rfl | rfl | rfl <;> cases stage <;> first | rfl | cases h

theorem index_of_drop_turns {c : Course} {k : Nat} {rest : List Turn}
    (h : c.turns.drop k = turn :: rest) :
    turn ∈ c.turns ∧ turn.index = k ∧ rest = c.turns.drop (k + 1) := by
  match k with
  | 0 | 1 | 2 | 3 => cases h; simp [Course.turns, Turn.index]
  | k + 4 => simp [Course.turns] at h

/-- Among turns that hold those of a course from some place on, in their order, a stage of that rank
comes to its end. -/
private theorem follow_ends_from {c : Course} (ts : List Turn) : ∀ {stage : Purge.Stage} {k : Nat},
    (c.turns.drop k).Sublist ts → k ≤ rank stage →
      (follow g stage ts).1.outcome?.isSome = true := by
  induction ts with
  | nil =>
    intro stage k hsub hk
    have hall : c.turns.length ≤ k := List.drop_eq_nil_iff.mp (List.sublist_nil.mp hsub)
    have hrank : 4 ≤ rank stage := Nat.le_trans hall hk
    cases stage with
    | ended outcome => rfl
    | _ => simp [rank] at hrank
  | cons turn rest ih =>
    intro stage k hsub hk
    rw [follow_cons]
    -- either the turn is one between, or it is the next of the four
    rcases List.sublist_cons_iff.mp hsub with hsub | ⟨behind, hbehind, hsub⟩
    · exact ih hsub (Nat.le_trans hk (rank_le_progress g turn stage))
    · obtain ⟨hmem, hindex, rfl⟩ := index_of_drop_turns hbehind
      refine ih hsub ?_
      rcases Nat.lt_or_eq_of_le hk with hlt | heq
      · exact Nat.le_trans hlt (rank_le_progress g turn stage)
      · have happ := applies_of_index_eq hmem (hindex.trans heq)
        rw [heq]
        exact rank_lt_progress g happ

/-- **Four turns in order are enough**, whatever stands between them. -/
theorem follow_ends {c : Course} {ts : List Turn} (h : c.turns.Sublist ts) :
    (follow g stage ts).1.outcome?.isSome = true :=
  follow_ends_from ts (k := 0) h (Nat.zero_le _)

/-- A course brings every stage to its end. -/
theorem finish_ends (c : Course) (g : Gateway) (stage : Purge.Stage) :
    (c.finish g stage).1.outcome?.isSome = true :=
  follow_ends (List.Sublist.refl c.turns)

end PurgeGateway.Gateway
