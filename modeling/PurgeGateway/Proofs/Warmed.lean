import PurgeGateway.Proofs.Judged
import PurgeGateway.Proofs.OnceOnly
import PurgeGateway.Proofs.Waiting

/-!
# What is warmed

A purge call that went through, whose request asks for warming, has its paths fetched if the gateway
warms: each once, in their order, with all the header fields that are configured. No other call has
any. However many calls are warmed at a time, the fetches of each come in their order among all that
happens, and what comes of one changes nothing for the others.

## Main definitions

* `warmed`: the effects of a run that warm the paths of a number.
* `WarmsOnly`: a state differs from another by one path that was tried.
* `Visit.wanted`, `Visit.attempts`, `Visit.waiting`: the paths that a request wants warmed, those
  that are tried, and those that wait when the run is over.

## Main results

* `run_perm`: every effect is of a request, or of the warming of one.
* `warmsOnly_step`: what a move that warms leaves alone.
* `Visit.wanted_ne_nil_iff`: when a call causes warming.
* `Visit.waiting_of_sublist`: all that is wanted is tried.
* `Visit.warmed_exactly`: all of this, for any request in any run.
-/

namespace PurgeGateway

namespace Effect

/-- The requests that leave to fetch something. -/
def gets (es : List Effect) : List Outbound :=
  (calls es).filter (·.method = "GET")

theorem gets_append (a b : List Effect) : gets (a ++ b) = gets a ++ gets b := by
  rw [gets, calls_append, List.filter_append]
  rfl

theorem gets_flatMap {α : Type} (l : List α) (f : α → List Effect) :
    gets (l.flatMap f) = l.flatMap fun a => gets (f a) := by
  rw [gets, calls, List.filterMap_flatMap, List.filter_flatMap]
  rfl

theorem gets_sublist {a b : List Effect} (h : a.Sublist b) : (gets a).Sublist (gets b) :=
  (h.filterMap _).filter _

theorem gets_perm {a b : List Effect} (h : a.Perm b) : (gets a).Perm (gets b) :=
  (h.filterMap _).filter _

end Effect

namespace Gateway

variable {g : Gateway} {clock : AccessLog.Clock} {s : State} {id : Nat}

/-! ### Warming in a run -/

/-- The effects of a run that warm the paths of a number. -/
def warmed (g : Gateway) (clock : AccessLog.Clock) (s : State) (id : Nat) :
    List Move → List Effect
  | [] => []
  | m :: rest =>
    (if m.fetches id then (g.step clock s m).2 else []) ++
      g.warmed clock (g.step clock s m).1 id rest

/-- What a move does for the warming of a number is what comes of the attempt that it makes. -/
theorem effects_attempt? (g : Gateway) (clock : AccessLog.Clock) (s : State) (id : Nat)
    (m : Move) : (if m.fetches id then (g.step clock s m).2 else [])
      = (attempt? s id m).toList.flatMap (Attempt.effects (g.warming.getD [])) := by
  rw [attempt?]
  cases hm : m.fetches id with
  | false => rfl
  | true =>
    cases m with
    | fetch i =>
      obtain rfl : i = id := by simpa [Move.fetches] using hm
      rw [if_pos rfl, if_pos rfl]
      show (g.fetch s i).2 = _
      rw [effects_fetch]
      cases (s.job i).head? with
      | none => rfl
      | some path => exact (List.flatMap_singleton _ _).symm
    | _ => cases hm

/-- **Warming is made of attempts.** -/
theorem warmed_eq (ms : List Move) : ∀ s : State, g.warmed clock s id ms
    = (g.attempts clock s id ms).flatMap (Attempt.effects (g.warming.getD [])) := by
  induction ms with
  | nil => intro s; rfl
  | cons m rest ih =>
    intro s
    rw [warmed, attempts, List.flatMap_append, effects_attempt?, ih]

/-- **Every attempt is counted once.** -/
theorem samples_warmed (ms : List Move) (s : State) : Effect.samples (g.warmed clock s id ms)
    = (g.attempts clock s id ms).map fun a => .fetch (a.answered (g.warming.getD [])) := by
  rw [warmed_eq, Effect.samples, List.filterMap_flatMap, List.map_eq_flatMap]
  exact List.flatMap_congr fun a _ => a.samples_effects _

/-- **Warming tells no caller anything.** -/
theorem answers_warmed (ms : List Move) (s : State) :
    Effect.answers (g.warmed clock s id ms) = [] := by
  rw [warmed_eq, Effect.answers, List.filter_flatMap, List.flatMap_eq_nil_iff]
  exact fun a _ => a.answers_effects _

/-- **The warming of a number comes in its order** among all that happens. -/
theorem warmed_sublist (ms : List Move) : ∀ s : State,
    (g.warmed clock s id ms).Sublist (g.run clock s ms).2 := by
  induction ms with
  | nil => intro s; exact List.Sublist.refl _
  | cons m rest ih =>
    intro s
    rw [warmed, run_cons_effects]
    refine List.Sublist.append ?_ (ih _)
    split
    · exact List.Sublist.refl _
    · exact List.nil_sublist _

/-- A step is of its request, or of the warming of one. -/
private theorem flatMap_concerns_fetches (hs : s.Orderly) (m : Move) {n : Nat}
    (hn : (g.step clock s m).1.arrived ≤ n) :
    ((List.range n).flatMap fun i => (if m.concerns s i then (g.step clock s m).2 else []) ++
      if m.fetches i then (g.step clock s m).2 else []) = (g.step clock s m).2 := by
  have hone : ∀ i, ((if m.concerns s i then (g.step clock s m).2 else []) ++
      if m.fetches i then (g.step clock s m).2 else [])
        = if m.subject s = i then (g.step clock s m).2 else [] := by
    intro i
    cases hm : m.isFetch with
    | true =>
      obtain ⟨k, rfl⟩ := Move.exists_of_isFetch hm
      by_cases hk : k = i <;>
        simp [Move.concerns, Move.isFetch, Move.fetches, Move.subject, hk]
    | false => simp [Move.concerns, hm, Move.fetches_of_not_isFetch hm]
  simp only [hone, flatMap_range_ite]
  split
  · rfl
  · next hsubject =>
    rw [Nat.not_lt] at hsubject
    cases hm : m.isFetch with
    | true =>
      obtain ⟨i, rfl⟩ := Move.exists_of_isFetch hm
      have hnone : s.job i = [] := State.job_of_lookup_none
        (hs.ahead i (Nat.le_trans (arrived_le_step g clock s _) (Nat.le_trans hn hsubject)))
      show [] = (g.fetch s i).2
      rw [effects_fetch, hnone]
      rfl
    | false => exact (step_effects_of_arrived_le hs.numbered hm (Nat.le_trans hn hsubject)).symm

/-- **Nothing lost, nothing twice.** Up to order, the effects of a run are those of all requests
that came, each with its warming. -/
theorem run_perm (ms : List Move) : ∀ {s : State} {n : Nat}, s.Orderly →
    (g.run clock s ms).1.arrived ≤ n → (g.run clock s ms).2.Perm
      ((List.range n).flatMap fun i => g.share clock s i ms ++ g.warmed clock s i ms) := by
  induction ms with
  | nil => intro s n _ _; simp [share, warmed]
  | cons m rest ih =>
    intro s n hs hn
    have hhere := flatMap_concerns_fetches (g := g) hs m
      (Nat.le_trans (arrived_le_run g clock rest _) hn)
    rw [run_cons_effects]
    refine ((ih (orderly_step hs m) hn).append_left _).trans ?_
    nth_rewrite 1 [← hhere]
    refine (List.flatMap_append_perm (List.range n) _ _).trans ?_
    refine List.Perm.flatMap_left _ fun i _ => ?_
    -- of each number, what is done for the call and what warms change places
    simp only [share, warmed, List.append_assoc]
    exact (List.perm_append_comm_assoc _ _ _).append_left _

/-! ### What warming leaves alone -/

/-- Of what concerns callers and calls, the second state differs from the first only in that a path
of a number was tried. -/
structure WarmsOnly (id : Nat) (before after : State) : Prop where
  own : after.job id = (before.job id).tail
  others : ∀ i, i ≠ id → after.job i = before.job i
  tasks : after.tasks = before.tasks
  files : after.files = before.files
  arrived : after.arrived = before.arrived
  reaches : after.peers.reaches = before.peers.reaches
  api : after.peers.api = before.peers.api

/-- **A move that warms leaves all others alone**, whatever comes of it: the other paths, the calls
that are under way, and what the invalidation API does with them. -/
theorem warmsOnly_step (g : Gateway) (clock : AccessLog.Clock) (s : State) (id : Nat) :
    WarmsOnly id s (g.step clock s (.fetch id)).1 where
  own := job_step_fetch g clock s id
  others := by
    intro i hi
    rw [State.job, lookup_step_fetch_of_ne hi]
    rfl
  tasks := by
    simp only [step, perform, fetch]
    split <;> rfl
  files := files_step g clock s (.fetch id)
  arrived := arrived_step g clock s (.fetch id)
  reaches := by
    simp only [step, perform, fetch]
    split
    · rfl
    · exact (peers_fetch _ _ _).1
  api := by
    simp only [step, perform, fetch]
    split
    · rfl
    · exact (peers_fetch _ _ _).2

/-- **Who is reached never changes.** -/
theorem reaches_step (g : Gateway) (clock : AccessLog.Clock) (s : State) (m : Move) :
    (g.step clock s m).1.peers.reaches = s.peers.reaches := by
  cases hm : m.sends with
  | false => rw [peers_step g clock s hm]
  | true =>
    cases m with
    | fetch id => exact (warmsOnly_step g clock s id).reaches
    | forward id =>
      simp only [step, perform, forward]
      split
      · rfl
      · next task _ =>
        rw [State.peers_absorb, proceed, State.peers_setTask]
        cases task.stage with
        | forwarding request signed =>
          simp only [Purge.Stage.forward]
          split <;> exact s.peers.reaches_send signed
        | _ => rfl
    | _ => cases hm

theorem reaches_of_mem_attempts (ms : List Move) : ∀ {s : State},
    ∀ a ∈ g.attempts clock s id ms, a.peers.reaches = s.peers.reaches := by
  induction ms with
  | nil => intro s a ha; cases ha
  | cons m rest ih =>
    intro s a ha
    rcases List.mem_append.mp ha with hhere | hlater
    · rw [Option.mem_toList, attempt?] at hhere
      split at hhere
      · obtain ⟨path, -, rfl⟩ := Option.map_eq_some_iff.mp hhere
        rfl
      · cases hhere
    · exact (ih a hlater).trans (reaches_step g clock s m)

/-! ### The warming of a request -/

/-- The gateway of a configuration warms if that says so, with the header fields that it gives. -/
theorem warming_of_ofConfig {c : Config} {shows : Bool} {g : Gateway}
    (h : ofConfig c shows = .ok g) :
    g.warming.isSome = c.warming.enabled ∧
      (c.warming.enabled = true → c.warming.headerFields = .ok (g.warming.getD [])) := by
  rw [ofConfig] at h
  cases hw : warmingFields c.warming with
  | error e => rw [hw] at h; cases h
  | ok warming =>
    rw [hw, Except.map, Except.ok.injEq] at h
    rw [← h]
    rw [warmingFields] at hw
    cases henabled : c.warming.enabled with
    | false =>
      rw [henabled] at hw
      cases hw
      exact ⟨rfl, fun hyes => by cases hyes⟩
    | true =>
      rw [henabled, if_pos rfl] at hw
      cases hfields : c.warming.headerFields with
      | error e => rw [hfields] at hw; cases hw
      | ok fields =>
        rw [hfields] at hw
        cases hw
        exact ⟨rfl, fun _ => rfl⟩

/-- A request that was read names a path. -/
theorem paths_ne_nil {body : List UInt8} {request : Purge.Request}
    (h : Purge.Request.ofBytes body = .ok request) : request.paths ≠ [] := by
  rw [Purge.Request.ofBytes] at h
  split at h
  · cases h
  · split at h
    · cases h
    · split at h
      · cases h
      · next hpaths =>
        cases h
        simpa using hpaths

namespace Visit

section
variable (v : Visit) (g : Gateway)

/-- The paths that the request wants warmed. -/
def wanted : List String :=
  (Effect.jobs (v.own g)).flatten

/-- What is tried for the request. -/
def attempts : List Attempt :=
  g.attempts v.clock v.fresh (v.number g) v.all

/-- The paths of the request that wait when the run is over. -/
def waiting : List String :=
  (g.run v.clock v.fresh v.all).1.job (v.number g)

/-- The effects of the run that warm the paths of the request. -/
def warmed : List Effect :=
  g.warmed v.clock v.fresh (v.number g) v.all

end

variable {v : Visit}

theorem wanted_of_open (h : ¬v.Ended g) : v.wanted g = [] := by
  rw [wanted, jobs_own_of_open (.inl h)]
  rfl

theorem wanted_eq {request : Purge.Request} (hend : v.Ended g) (hthrough : v.GoesThrough g request)
    (hwarms : g.warming.isSome = true) (hasks : request.warm = true) :
    v.wanted g = request.paths := by
  have hjobs : Effect.jobs (v.own g) = [request.paths] :=
    (jobs_own_eq_iff hend _).mpr ⟨request, hthrough, hwarms, hasks, rfl⟩
  rw [wanted, hjobs, List.flatten_cons, List.flatten_nil, List.append_nil]

/-- **When a call causes warming.** -/
theorem wanted_ne_nil_iff : v.wanted g ≠ [] ↔ v.Ended g ∧ ∃ request, v.GoesThrough g request ∧
    g.warming.isSome = true ∧ request.warm = true := by
  constructor
  · intro h
    by_cases hend : v.Ended g
    · rcases jobs_own_cases v g with hnone | ⟨paths, hpaths⟩
      · rw [wanted, hnone] at h
        exact absurd rfl h
      · obtain ⟨request, hthrough, hwarms, hasks, -⟩ := (jobs_own_eq_iff hend paths).mp hpaths
        exact ⟨hend, request, hthrough, hwarms, hasks⟩
    · exact absurd (wanted_of_open hend) h
  · rintro ⟨hend, request, hthrough, hwarms, hasks⟩
    rw [wanted_eq hend hthrough hwarms hasks]
    obtain ⟨-, _, _, _, _, hrouted, -⟩ := hthrough
    exact paths_ne_nil hrouted.payload

/-- **What is tried, and what waits, is what is wanted**, in its order. -/
theorem attempts_append_waiting (v : Visit) (g : Gateway) :
    (v.attempts g).map Attempt.path ++ v.waiting g = v.wanted g :=
  job_run v.all (v.number g) (State.orderly_fresh v.files v.peers)

/-- **If nothing is wanted, nothing is done.** -/
theorem warmed_of_wanted_eq_nil (h : v.wanted g = []) : v.warmed g = [] := by
  rw [← attempts_append_waiting, List.append_eq_nil_iff, List.map_eq_nil_iff] at h
  have hnone : g.attempts v.clock v.fresh (v.number g) v.all = [] := h.1
  rw [warmed, warmed_eq, hnone]
  rfl

theorem number_lt_arrived (v : Visit) (g : Gateway) :
    v.number g < (g.run v.clock v.fresh v.all).1.arrived := by
  have hstep : v.number g < (g.step v.clock (v.before g) (.arrive v.request)).1.arrived := by
    rw [arrived_step]
    exact Nat.lt_succ_self _
  rw [run_all, run_cons_state]
  exact Nat.lt_of_lt_of_le hstep (arrived_le_run g v.clock v.moves _)

/-- The same run with other moves behind the request. -/
def upTo (v : Visit) (moves : List Move) : Visit :=
  { v with moves }

/-- A request is done with once its call has ended. -/
theorem run_append_of_ended {a b : List Move} (hmoves : v.moves = a ++ b)
    (hend : (v.upTo a).Ended g) :
    v.wanted g = (v.upTo a).wanted g ∧
      v.waiting g = ((v.upTo a).waiting g).drop (b.countP (Move.fetches (v.number g))) := by
  have hall : v.all = (v.upTo a).all ++ b := by
    rw [all, hmoves, all, upTo, List.append_assoc]
    rfl
  have horderly : (g.run v.clock v.fresh (v.upTo a).all).1.Orderly :=
    orderly_run _ (State.orderly_fresh v.files v.peers)
  have hcame : v.number g < (g.run v.clock v.fresh (v.upTo a).all).1.arrived :=
    number_lt_arrived (v.upTo a) g
  have hnone : g.share v.clock (g.run v.clock v.fresh (v.upTo a).all).1 (v.number g) b = [] := by
    have htask : (g.run v.clock v.fresh (v.upTo a).all).1.task? (v.number g) = none := hend
    rw [(run_eq_takeAll g v.clock b hcame).2, htask, takeAll_none]
  constructor
  · rw [wanted, own, hall, share_append, hnone, List.append_nil]
    rfl
  · rw [waiting, hall, run_append_state]
    exact job_run_of_jobs_eq_nil b horderly (by rw [hnone]; rfl)

/-- **All that is wanted is tried**, once the call has gone through its stages and enough moves that
warm have come behind them, whatever else happens meanwhile. -/
theorem waiting_of_sublist {signer : Signer} {n : Nat}
    (h : (callMoves signer (v.number g) ++
      List.replicate n (Move.fetch (v.number g))).Sublist v.moves)
    (hn : (v.wanted g).length ≤ n) : v.waiting g = [] := by
  obtain ⟨a, b, hmoves, hcall, hfetches⟩ := List.append_sublist_iff.mp h
  obtain ⟨hwanted, hwaiting⟩ := run_append_of_ended hmoves (ended_of_sublist (v := v.upTo a) hcall)
  have hcount : n ≤ b.countP (Move.fetches (v.number g)) := by
    have hle := hfetches.countP_le (p := Move.fetches (v.number g))
    rwa [List.countP_replicate, Move.fetches, beq_self_eq_true, if_pos rfl] at hle
  have hlength := congrArg List.length (attempts_append_waiting (v.upTo a) g)
  rw [List.length_append, ← hwanted] at hlength
  rw [hwaiting, List.drop_eq_nil_iff]
  omega

/-! ### Requests that leave -/

/-- The fields of warming requests have no name twice. -/
theorem nodup_of_ofConfig {c : Config} {shows : Bool} (hg : ofConfig c shows = .ok g) :
    ((g.warming.getD []).map (·.name)).Nodup := by
  obtain ⟨hsome, hfields⟩ := warming_of_ofConfig hg
  cases henabled : c.warming.enabled with
  | true => exact Config.Warming.nodup_headerFields (hfields henabled)
  | false =>
    rw [henabled, Option.isSome_eq_false_iff, Option.isNone_iff_eq_none] at hsome
    rw [hsome]
    exact .nil

/-- What leaves in the warming of a request, if no answer sends it elsewhere. -/
theorem calls_warmed (h : ∀ a ∈ v.attempts g, ¬a.Diverted (g.warming.getD [])) :
    Effect.calls (v.warmed g) = ((v.attempts g).map Attempt.path).filterMap
      (fetchOf? (g.warming.getD []) v.peers.reaches) := by
  have hreaches : ∀ a ∈ v.attempts g, a.peers.reaches = v.peers.reaches :=
    reaches_of_mem_attempts v.all
  rw [warmed, warmed_eq, Effect.calls, List.filterMap_flatMap, List.filterMap_map,
    List.filterMap_eq_flatMap_toList]
  refine List.flatMap_congr fun a ha => ?_
  rw [← Effect.calls, Attempt.calls_effects, Attempt.calls_of_not_diverted (h a ha), hreaches a ha]
  rfl

/-- A purge call itself fetches nothing, if no answer sends it elsewhere and its signer leaves the
method alone. -/
theorem gets_own (hdiverted : ¬v.Diverted g)
    (hsigner : ∀ outbound signed, (v.course g).signer outbound = .ok signed →
      signed.method = outbound.method) : Effect.gets (v.own g) = [] := by
  rw [Effect.gets, List.filter_eq_nil_iff]
  intro r hr
  cases h : (v.course g).forwarded with
  | none =>
    rw [calls_of_not_forwarded h] at hr
    cases hr
  | some signed =>
    obtain ⟨outbound, hasked, hsigned⟩ := signed_of_forwarded h
    obtain ⟨-, request, hrouted⟩ := routed_of_asked hasked
    rw [calls_of_not_diverted h hdiverted] at hr
    split at hr
    · rw [List.mem_singleton.mp hr, hsigner outbound signed hsigned, hrouted.isCallFor.method]
      decide
    · cases hr

/-- **Warming is exact.** Take a request that comes to the gateway of a configuration, with anything
before it and anything behind it in any order.

* Its call causes warming if and only if it has ended and went through, the configuration has
  warming enabled, and the request asks for it. What is wanted then are the paths of the request.
* What is tried for it, and what still waits, is what is wanted, in its order; if nothing is, then
  nothing is done. All of it is tried once the call has gone through its stages and as many moves
  that warm have come behind them.
* Every attempt is counted once, by whether it got an answer, and tells no caller anything. As long
  as no answer sends a fetch elsewhere, what leaves is a `GET` for every path that was tried and is
  an address that can be sent to and reaches a peer, in their order, and each carries all the
  configured fields.
* An attempt changes nothing for other requests, whatever comes of it.
* The fetches for a request come in their order among all in the run. Each is of one request, and a
  call makes none but those that warm, as long as no answer sends its own request elsewhere. -/
theorem warmed_exactly {c : Config} {shows : Bool} (hg : ofConfig c shows = .ok g) (v : Visit) :
    (v.wanted g ≠ [] ↔ v.Ended g ∧ ∃ request, v.GoesThrough g request ∧
        c.warming.enabled = true ∧ request.warm = true) ∧
      (∀ request, v.GoesThrough g request → v.wanted g ≠ [] → v.wanted g = request.paths) ∧
      ((v.attempts g).map Attempt.path ++ v.waiting g = v.wanted g) ∧
      (v.wanted g = [] → v.warmed g = []) ∧
      (∀ signer n, (callMoves signer (v.number g) ++
          List.replicate n (Move.fetch (v.number g))).Sublist v.moves →
        (v.wanted g).length ≤ n → v.waiting g = []) ∧
      (∃ fields, (c.warming.enabled = true → c.warming.headerFields = .ok fields) ∧
        Effect.samples (v.warmed g)
          = (v.attempts g).map (fun a => .fetch (a.answered fields)) ∧
        Effect.answers (v.warmed g) = [] ∧
        ((∀ a ∈ v.attempts g, ¬a.Diverted fields) →
          Effect.gets (v.warmed g) = Effect.calls (v.warmed g) ∧
          Effect.calls (v.warmed g)
            = ((v.attempts g).map Attempt.path).filterMap (fetchOf? fields v.peers.reaches)) ∧
        (∀ path, (fetchOf? fields v.peers.reaches path).isSome = true ↔
          ∃ url, addressOf? path = some url ∧ url.isSendable = true ∧
            v.peers.reaches url = true) ∧
        ∀ path r, fetchOf? fields v.peers.reaches path = some r → IsFetchOf fields path r) ∧
      (∀ s id, WarmsOnly id s (g.step v.clock s (.fetch id)).1) ∧
      (Effect.gets (v.warmed g)).Sublist (Effect.gets (g.run v.clock v.fresh v.all).2) ∧
      (Effect.gets (g.run v.clock v.fresh v.all).2).Perm
        ((List.range (g.run v.clock v.fresh v.all).1.arrived).flatMap fun id =>
          Effect.gets (g.share v.clock v.fresh id v.all) ++
            Effect.gets (g.warmed v.clock v.fresh id v.all)) ∧
      (¬v.Diverted g → (∀ outbound signed, (v.course g).signer outbound = .ok signed →
        signed.method = outbound.method) → Effect.gets (v.own g) = []) := by
  obtain ⟨henabled, hfields⟩ := warming_of_ofConfig hg
  have hnodup := nodup_of_ofConfig hg
  have hiff := wanted_ne_nil_iff (v := v) (g := g)
  refine ⟨by rw [hiff, henabled], ?_, attempts_append_waiting v g, warmed_of_wanted_eq_nil,
    fun _ _ => waiting_of_sublist,
    ⟨g.warming.getD [], hfields, samples_warmed v.all v.fresh, answers_warmed v.all v.fresh, ?_,
      isSome_fetchOf?_iff _ _, fun path r => isFetchOf_of_fetchOf? hnodup⟩,
    warmsOnly_step g v.clock, Effect.gets_sublist (warmed_sublist v.all v.fresh), ?_, gets_own⟩
  · intro request hthrough hwanted
    obtain ⟨hend, other, hother, hwarms, hasks⟩ := hiff.mp hwanted
    obtain ⟨-, _, _, _, _, hrouted, -⟩ := hthrough
    rw [wanted_eq hend hother hwarms hasks]
    obtain ⟨-, _, _, _, _, hrouted', -⟩ := hother
    -- a body is read in one way only
    have hsame := hrouted.payload.symm.trans hrouted'.payload
    cases hsame
    rfl
  · intro hstays
    have hcalls := calls_warmed hstays
    refine ⟨?_, hcalls⟩
    rw [Effect.gets, List.filter_eq_self, hcalls]
    intro r hr
    obtain ⟨path, -, hfetch⟩ := List.mem_filterMap.mp hr
    exact decide_eq_true (isFetchOf_of_fetchOf? hnodup hfetch).method
  · have hperm : (g.run v.clock v.fresh v.all).2.Perm _ :=
      run_perm v.all (State.orderly_fresh v.files v.peers) (Nat.le_refl _)
    have hgets := Effect.gets_perm hperm
    rw [Effect.gets_flatMap] at hgets
    simpa only [Effect.gets_append] using hgets

/-! A gateway that warms, and a purge of three paths while another is warmed. The first fetch fails,
and one path is no address. -/

/-- The configuration of a gateway that warms with one header field. -/
def warmingConfig : Config :=
  { plainConfig loopback with
    warming := { enabled := true, headers := .ofList [("X-Warmup", "1")] } }

/-- The gateway of that configuration. -/
def warmingGateway : Gateway :=
  { plainGateway loopback with warming := some [⟨"x-warmup", Utf8.bytes "1"⟩] }

theorem ofConfig_warming : ofConfig warmingConfig true = .ok warmingGateway := by
  have hfields : warmingConfig.warming.headerFields = .ok [⟨"x-warmup", Utf8.bytes "1"⟩] := by
    decide +kernel
  rw [ofConfig, warmingFields, hfields]
  rfl

/-- A request that purges three paths and wants them warmed. -/
def purgeToWarm : Http.Request :=
  { purgeOfOne with
    body := Utf8.bytes
      "[\"urls\",\"delete\",\"staging\",[\"http://[::1]/a\",\"/b\",\"http://[::1]/a\"],true]" }

/-- Peers that take two purges, and of which one closes the connection of the first fetch. -/
def hesitant : Peers :=
  { accepting with api := accepting.api ++ accepting.api, origin := [.closes] }

/-- The second of two purges; the moves that warm them take turns. -/
def warmedInTurns : Visit where
  clock := { time := "" }
  files := {}
  peers := hesitant
  history := .arrive purgeToWarm :: callMoves (fun _ => .ok) 0
  request := purgeToWarm
  moves := callMoves (fun _ => .ok) 1 ++ [.fetch 1, .fetch 0, .fetch 1, .fetch 0, .fetch 1]

/-- All three paths are tried in their order, and two of them are fetched. -/
theorem warmed_exactly_inTurns :
    ofConfig warmingConfig true = .ok warmingGateway ∧
      (warmedInTurns.attempts warmingGateway).map Attempt.path
        = ["http://[::1]/a", "/b", "http://[::1]/a"] ∧
      warmedInTurns.waiting warmingGateway = [] ∧
      (Effect.gets (warmedInTurns.warmed warmingGateway)).length = 2 := by
  have hwanted : warmedInTurns.wanted warmingGateway
      = ["http://[::1]/a", "/b", "http://[::1]/a"] := by
    decide +kernel
  have hnumber : warmedInTurns.number warmingGateway = 1 := by
    decide +kernel
  have hlength : (Effect.gets (warmedInTurns.warmed warmingGateway)).length = 2 := by
    decide +kernel
  have hsub : (callMoves (fun _ => .ok) (warmedInTurns.number warmingGateway) ++
      List.replicate 3 (Move.fetch (warmedInTurns.number warmingGateway))).Sublist
        warmedInTurns.moves := by
    rw [hnumber]
    refine (List.Sublist.refl _).append ?_
    exact .cons_cons _ (.cons _ (.cons_cons _ (.cons _ (.cons_cons _ .slnil))))
  obtain ⟨-, -, htried, -, hall, -⟩ := warmed_exactly ofConfig_warming warmedInTurns
  have hwaiting : warmedInTurns.waiting warmingGateway = [] :=
    hall _ 3 hsub (by rw [hwanted]; exact Nat.le_refl 3)
  rw [hwaiting, List.append_nil, hwanted] at htried
  exact ⟨ofConfig_warming, htried, hwaiting, hlength⟩

end Visit

end Gateway

end PurgeGateway
