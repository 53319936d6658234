import PurgeGateway.Proofs.Authorized
import PurgeGateway.Proofs.Observer
import PurgeGateway.Proofs.Veil
import PurgeGateway.Proofs.Warmed

/-!
# Secrets stay where they belong

The secrets of a client get into the gateway by its configuration and by the credentials file, and
out of it in one place: the value that authorizes a request to the invalidation API. So a run of the
gateway, looked at under a veil, is the run of a gateway that has no credentials, no files, and a
signer who puts in an empty value. Two runs that differ in secrets only are both that one.

Warming is looked at without the veil: what it fetches is not signed, and is the same in both runs
down to the last header field.

## Main definitions

* `Signer.blind`: the signer who puts in an empty value.
* `Gateway.State.veiled`, `Gateway.Move.veiled`: states without files and signatures, and moves in
  which that signer signs.
* `Gateway.Unseen`: two runs are the same but for what authorizes their requests.

## Main results

* `Gateway.perform_veiled`, `Gateway.step_veiled`: a step under a veil.
* `Gateway.run_veiled`, `Gateway.warmed_veiled`: a run under a veil.
* `Gateway.secrets_unseen`: secrets influence nothing but what authorizes requests.
-/

namespace PurgeGateway

/-! ### Signing without credentials -/

/-- The signer who has no credentials and puts in an empty value. -/
def Signer.blind : Signer := fun _ r =>
  match Signing.buffered? r.body with
  | none => .error .streamingBody
  | some _ => .ok { r with headers := r.headers.set Http.authorizationName [] }

/-- **Under a veil, all signatures are alike.** -/
theorem Purge.Stage.sign_veiled {c : Credentials} {stamp : Signing.Stamp} {order : Nested.Order}
    {file : Option (List UInt8)} (hload : Credentials.load file order = .ok c) (hc : c.IsUsable)
    (hstamp : stamp.IsUsable) (other : Option (List UInt8)) (stage : Purge.Stage) :
    sign (Signer.blind other) stage.veiled
      = Progress.veiled (sign (Signer.ofFile stamp order file) stage) := by
  cases stage with
  | signing request outbound =>
    simp only [veiled, sign, Signing.sign_of_load hload hc hstamp, Signer.blind]
    cases Signing.buffered? outbound.body with
    | none => rfl
    | some body =>
      simp only [Progress.veiled, veiled, Outbound.veiled]
      rw [show "authorization" = Http.authorizationName from rfl,
        Http.Headers.veiled_set_authorization]
      rfl
  | _ => rfl

namespace Gateway

variable {g : Gateway} {clock : AccessLog.Clock} {s : State} {id : Nat}

/-! ### States under a veil -/

/-- The purge call, with what was signed under a veil. -/
def Task.veiled (task : Task) : Task :=
  { task with stage := task.stage.veiled }

namespace State

/-- The state without files, with all that was signed under a veil. -/
def veiled (s : State) : State :=
  { s with files := {}, tasks := s.tasks.map fun entry => (entry.1, entry.2.veiled) }

theorem task?_veiled (s : State) (id : Nat) :
    s.veiled.task? id = (s.task? id).map Task.veiled := by
  rw [task?, task?, veiled]
  induction s.tasks with
  | nil => rfl
  | cons entry rest ih =>
    rw [List.map_cons, List.lookup_cons, List.lookup_cons, ih]
    split <;> rfl

theorem setTask_veiled (s : State) (id : Nat) (left : Option Task) :
    s.veiled.setTask id (left.map Task.veiled) = (s.setTask id left).veiled := by
  cases left with
  | none =>
    simp only [Option.map_none, setTask, dropTask, veiled, List.filter_map]
    rfl
  | some task =>
    have hany : (s.tasks.map fun entry => (entry.1, entry.2.veiled)).any (·.1 == id)
        = s.tasks.any (·.1 == id) := by
      rw [List.any_map]
      rfl
    simp only [Option.map_some, setTask, putTask, veiled, hany]
    congr 1
    split
    · rw [List.map_map, List.map_map]
      refine List.map_congr_left fun entry _ => ?_
      rw [Function.comp_apply, Function.comp_apply]
      split <;> rfl
    · rw [List.map_append]
      rfl

/-- What is taken in of effects is taken in of them under a veil. -/
theorem absorb_veiled (s : State) (id : Nat) (es : List Effect) :
    s.veiled.absorb id (es.map Effect.veiled) = (s.absorb id es).veiled := by
  rw [absorb, absorb, Effect.samples_veiled, Effect.jobs_veiled]
  rfl

end State

/-! ### Moves under a veil -/

/-- The move, with a signer who has no credentials. -/
def Move.veiled : Move → Move
  | .sign id _ => .sign id .blind
  | m => m

/-- The move signs by the credentials file, if at all, at a time and with a number that may stand in
a header field. -/
def Move.SignsFromFile (m : Move) : Prop :=
  ∀ id signer, m = .sign id signer → ∃ (stamp : Signing.Stamp) (order : Nested.Order),
    stamp.IsUsable ∧ signer = .ofFile stamp order

theorem Move.subject_veiled (s : State) (m : Move) : m.veiled.subject s.veiled = m.subject s := by
  cases m <;> rfl

theorem Move.fetches_veiled (m : Move) (id : Nat) : m.veiled.fetches id = m.fetches id := by
  cases m <;> rfl

/-! ### One step -/

/-- A state and effects, under a veil. -/
def veiledResult (result : State × List Effect) : State × List Effect :=
  (result.1.veiled, result.2.map Effect.veiled)

theorem veiled_deliver (id : Nat) (request : Http.Request) (r : Http.Response) :
    (g.deliver clock id request (.ofResponse r)).map Effect.veiled
      = g.deliver clock id request (.ofResponse r) := by
  refine Effect.map_veiled_of_calls ?_
  rw [← Effect.calls_work, work_deliver]
  rfl

theorem veiled_refuse (id : Nat) (request : Http.Request) (e : Error) :
    (refuse id request e).map Effect.veiled = refuse id request e := by
  refine Effect.map_veiled_of_calls ?_
  rw [← Effect.calls_work, work_refuse]
  rfl

theorem settle_veiled (caller : Option Http.Request) (p : Purge.Stage.Progress) :
    g.settle clock id caller (Purge.Stage.Progress.veiled p)
      = ((g.settle clock id caller p).1.map Task.veiled,
          (g.settle clock id caller p).2.map Effect.veiled) := by
  have houtcome : (Purge.Stage.Progress.veiled p).1.outcome? = p.1.outcome? :=
    Purge.Stage.outcome?_veiled p.1
  cases hp : p.1.outcome? with
  | none => rw [settle_of_none (houtcome.trans hp), settle_of_none hp]; rfl
  | some outcome =>
    rw [settle_of_some (houtcome.trans hp), settle_of_some hp, List.map_append]
    cases caller with
    | none => rfl
    | some request =>
      rw [Option.map_some, Option.getD_some, veiled_deliver]
      rfl

theorem proceed_veiled (s : State) (id : Nat) (caller : Option Http.Request)
    (p : Purge.Stage.Progress) :
    g.proceed clock s.veiled id caller (Purge.Stage.Progress.veiled p)
      = veiledResult (g.proceed clock s id caller p) := by
  simp only [proceed, settle_veiled, State.setTask_veiled]
  rfl

/-- A call goes on under a veil, where its stage does. -/
theorem advance_veiled {next next' : Purge.Stage → Purge.Stage.Progress}
    (h : ∀ stage : Purge.Stage, next' stage.veiled = Purge.Stage.Progress.veiled (next stage))
    (s : State) (id : Nat) :
    g.advance clock s.veiled id next' = veiledResult (g.advance clock s id next) := by
  rw [advance, advance, State.task?_veiled]
  cases s.task? id with
  | none => rfl
  | some task =>
    rw [Option.map_some]
    dsimp only [Task.veiled]
    rw [h, proceed_veiled]

theorem forward_veiled (s : State) (id : Nat) :
    g.forward clock s.veiled id = veiledResult (g.forward clock s id) := by
  rw [forward, forward, State.task?_veiled]
  cases s.task? id with
  | none => rfl
  | some task =>
    rw [Option.map_some]
    dsimp only [Task.veiled]
    rw [show s.veiled.peers = s.peers from rfl, Purge.Stage.forward_veiled]
    exact proceed_veiled { s with peers := (task.stage.forward s.peers).2 } id task.caller
      (task.stage.forward s.peers).1

theorem abandon_veiled {effects : Http.Request → List Effect}
    (h : ∀ request, (effects request).map Effect.veiled = effects request) (s : State) (id : Nat) :
    abandon s.veiled id effects = veiledResult (abandon s id effects) := by
  rw [abandon, abandon, State.task?_veiled]
  cases s.task? id with
  | none => rfl
  | some task =>
    have heffects : ((task.caller.map effects).getD []).map Effect.veiled
        = (task.caller.map effects).getD [] := by
      cases task.caller with
      | none => rfl
      | some request => exact h request
    have hput := State.setTask_veiled s id (some { task with caller := none })
    rw [Option.map_some, veiledResult, heffects]
    exact congrArg (·, _) hput

theorem arrive_veiled (s : State) (request : Http.Request) :
    g.arrive clock s.veiled request = veiledResult (g.arrive clock s request) := by
  have heffects : (g.arrive clock s request).2.map Effect.veiled
      = (g.arrive clock s request).2 := by
    refine Effect.map_veiled_of_calls ?_
    rw [← Effect.calls_work, work_arrive]
    rfl
  rw [veiledResult, heffects]
  cases hand : g.handsOver request with
  | true =>
    rw [arrive_of_handsOver hand, arrive_of_handsOver hand]
    exact congrArg (·, _) (State.setTask_veiled { s with arrived := s.arrived + 1 } s.arrived
      (some ⟨some request, .received request.headers request.body⟩))
  | false =>
    refine Prod.ext ?_ ?_
    · rw [arrive_of_not_handsOver hand, arrive_of_not_handsOver hand]
      rfl
    · simp only [arrive]
      split
      · rfl
      · rw [effects_handle, effects_handle]
        rfl

/-- A path is fetched with a veil and without. -/
theorem fetch_veiled (s : State) (id : Nat) :
    g.fetch s.veiled id = ((g.fetch s id).1.veiled, (g.fetch s id).2) := by
  rw [fetch, fetch, show s.veiled.job id = s.job id from rfl]
  cases s.job id <;> rfl

/-- The credentials file holds complete credentials whose tokens may stand in a header field, in
whatever order its entries are put down. -/
def State.HoldsCredentials (s : State) (g : Gateway) : Prop :=
  ∀ order, ∃ c, Credentials.load (s.credentialsFile g) order = .ok c ∧ c.IsUsable

/-- **A move under a veil.** What it fetches is the same without. -/
theorem perform_veiled (clock : AccessLog.Clock) (hs : s.HoldsCredentials g) {m : Move}
    (hm : m.SignsFromFile) :
    g.perform clock s.veiled m.veiled
      = if m.isFetch then ((g.perform clock s m).1.veiled, (g.perform clock s m).2)
        else veiledResult (g.perform clock s m) := by
  cases m with
  | arrive request => exact arrive_veiled s request
  | start id => exact advance_veiled (Purge.Stage.start_veiled g.api) s id
  | sign id signer =>
    obtain ⟨stamp, order, hstamp, rfl⟩ := hm id signer rfl
    obtain ⟨c, hload, hc⟩ := hs order
    exact advance_veiled (Purge.Stage.sign_veiled hload hc hstamp _) s id
  | forward id => exact forward_veiled s id
  | interpret id => exact advance_veiled (Purge.Stage.interpret_veiled g.warming.isSome) s id
  | leave id => exact abandon_veiled (fun _ => rfl) s id
  | expire id => exact abandon_veiled (fun request => veiled_refuse id request _) s id
  | fetch id => exact fetch_veiled s id

/-- **A step under a veil** leads to the same state and has the same effects; if it warms, these are
the same without. -/
theorem step_veiled (clock : AccessLog.Clock) (hs : s.HoldsCredentials g) {m : Move}
    (hm : m.SignsFromFile) :
    (g.step clock s.veiled m.veiled).1 = (g.step clock s m).1.veiled ∧
      (g.step clock s.veiled m.veiled).2.map Effect.veiled
        = (g.step clock s m).2.map Effect.veiled ∧
      (m.isFetch = true → (g.step clock s.veiled m.veiled).2 = (g.step clock s m).2) := by
  simp only [step, perform_veiled clock hs hm, Move.subject_veiled]
  cases hfetch : m.isFetch with
  | true => exact ⟨rfl, rfl, fun _ => rfl⟩
  | false =>
    refine ⟨State.absorb_veiled _ _ _, ?_, fun h => by cases h⟩
    simp only [veiledResult, Bool.false_eq_true, if_false, List.map_map]
    exact List.map_congr_left fun e _ => e.veiled_veiled

/-! ### Runs -/

theorem holdsCredentials_step (hs : s.HoldsCredentials g) (clock : AccessLog.Clock) (m : Move) :
    (g.step clock s m).1.HoldsCredentials g := by
  intro order
  rw [credentialsFile_step]
  exact hs order

/-- **A run under a veil** leads to the same state and has the same effects. -/
theorem run_veiled (clock : AccessLog.Clock) (ms : List Move) : ∀ {s : State},
    s.HoldsCredentials g → (∀ m ∈ ms, m.SignsFromFile) →
      (g.run clock s.veiled (ms.map Move.veiled)).1 = (g.run clock s ms).1.veiled ∧
        (g.run clock s.veiled (ms.map Move.veiled)).2.map Effect.veiled
          = (g.run clock s ms).2.map Effect.veiled := by
  -- What each step needs is that the file still holds credentials, and no step writes it.
  induction ms with
  | nil => intro s _ _; exact ⟨rfl, rfl⟩
  | cons m rest ih =>
    intro s hs hms
    obtain ⟨hstate, heffects, -⟩ := step_veiled clock hs (hms m List.mem_cons_self)
    obtain ⟨hlast, hlater⟩ := ih (holdsCredentials_step hs clock m) fun k hk =>
      hms k (List.mem_cons_of_mem m hk)
    rw [List.map_cons, run_cons_state, run_cons_state, run_cons_effects, run_cons_effects, hstate,
      List.map_append, List.map_append, heffects]
    exact ⟨hlast, congrArg _ hlater⟩

/-- **Warming is the same under a veil**, down to the last header field. -/
theorem warmed_veiled (ms : List Move) (id : Nat) : ∀ {s : State}, s.HoldsCredentials g →
    (∀ m ∈ ms, m.SignsFromFile) →
      g.warmed clock s.veiled id (ms.map Move.veiled) = g.warmed clock s id ms := by
  induction ms with
  | nil => intro s _ _; rfl
  | cons m rest ih =>
    intro s hs hms
    obtain ⟨hstate, -, hsame⟩ := step_veiled clock hs (hms m List.mem_cons_self)
    have hlater := ih (holdsCredentials_step hs clock m) fun k hk =>
      hms k (List.mem_cons_of_mem m hk)
    rw [List.map_cons, warmed, warmed, hstate, Move.fetches_veiled, hlater]
    cases hfetch : m.isFetch with
    | true => rw [hsame hfetch]
    | false => rw [Move.fetches_of_not_isFetch hfetch]; rfl

/-! ### Other secrets -/

/-- The gateway with other credentials in its configuration. -/
def withCredentials (g : Gateway) (c : Credentials) : Gateway :=
  { g with credentials := c }

/-- Moves do not look at the credentials that are configured. -/
theorem perform_withCredentials (g : Gateway) (c : Credentials) (clock : AccessLog.Clock)
    (s : State) (m : Move) :
    (g.withCredentials c).perform clock s m = g.perform clock s m := by
  cases m with
  | arrive request =>
    simp only [perform, arrive, handle, handOver, deliver, showMetrics, withCredentials]
    rfl
  | _ =>
    simp only [perform, deliver, advance, forward, proceed, settle, fetch, State.credentialsFile,
      withCredentials]

theorem step_withCredentials (g : Gateway) (c : Credentials) (clock : AccessLog.Clock)
    (s : State) (m : Move) : (g.withCredentials c).step clock s m = g.step clock s m := by
  rw [step, step, perform_withCredentials]

theorem holdsCredentials_withCredentials {c : Credentials} (hs : s.HoldsCredentials g) :
    s.HoldsCredentials (g.withCredentials c) := hs

theorem run_withCredentials (c : Credentials) (ms : List Move) : ∀ s : State,
    (g.withCredentials c).run clock s ms = g.run clock s ms := by
  induction ms with
  | nil => intro s; rfl
  | cons m rest ih => intro s; simp only [run, step_withCredentials, ih]

theorem warmed_withCredentials (c : Credentials) (ms : List Move) (id : Nat) : ∀ s : State,
    (g.withCredentials c).warmed clock s id ms = g.warmed clock s id ms := by
  induction ms with
  | nil => intro s; rfl
  | cons m rest ih => intro s; rw [warmed, warmed, step_withCredentials, ih]

end Gateway

/-- The configuration with other secrets of the client. -/
def Config.withSecrets (c : Config) (clientSecret clientToken accessToken : String) : Config :=
  { c with api := { c.api with clientSecret, clientToken, accessToken } }

/-- Whether a file is written does not depend on what is written, if there is room for all of it. -/
theorem FileTree.outcome_writing {refused : Refusals} (hroom : refused.beyond = none)
    (t : FileTree) (p : FilePath) (content content' : List UInt8) :
    (t.writing refused p content').2 = (t.writing refused p content).2 := by
  rw [writing, writing, hroom]
  cases t.opening p with
  | error e => rfl
  | ok q =>
    dsimp only
    cases refused.file q <;> rfl

theorem FileTree.map_settled {α : Type} (done : FileTree × Except FileError α) :
    (settled done).map (·.2) = done.2 := by
  rcases done with ⟨t, _ | _⟩ <;> rfl

/-- What is reported about provisioning does not depend on the credentials. -/
theorem Credentials.report_provision {refused : FileTree.Refusals}
    (hroom : refused.beyond = none) (t : FileTree) (p : FilePath) (c c' : Credentials) :
    (provision t p c' refused).map (·.2) = (provision t p c refused).map (·.2) := by
  rw [provision, provision, FileTree.map_settled, FileTree.map_settled, provisioning, provisioning]
  split
  · rfl
  · split
    · rfl
    · exact congrArg (Except.map _) (FileTree.outcome_writing hroom _ p _ _)

namespace Gateway

/-- The gateway with other secrets of the client in its configuration. -/
def withSecrets (g : Gateway) (clientSecret clientToken accessToken : String) : Gateway :=
  g.withCredentials { g.credentials with clientSecret, clientToken, accessToken }

theorem ofConfig_withSecrets {c : Config} {shows : Bool} (hg : ofConfig c shows = .ok g)
    (clientSecret clientToken accessToken : String) :
    ofConfig (c.withSecrets clientSecret clientToken accessToken) shows
      = .ok (g.withSecrets clientSecret clientToken accessToken) := by
  rw [ofConfig] at hg ⊢
  rw [show (c.withSecrets clientSecret clientToken accessToken).warming = c.warming from rfl]
  cases hw : warmingFields c.warming with
  | error e => rw [hw] at hg; cases hg
  | ok warming =>
    rw [hw, Except.map, Except.ok.injEq] at hg
    have hbase : (c.withSecrets clientSecret clientToken accessToken).api.baseUrl
        = c.api.baseUrl := rfl
    have hlog : AccessLog.Layer.ofConfig (c.withSecrets clientSecret clientToken accessToken)
        = .ofConfig c := rfl
    rw [Except.map, ← hg, hbase, hlog]
    simp only [Config.withSecrets, withSecrets, withCredentials, Config.Api.credentials]

theorem report_provision {refused : FileTree.Refusals} (hroom : refused.beyond = none)
    (g : Gateway) (c : Credentials) (s : State) :
    ((g.withCredentials c).provision s refused).map (·.2)
      = (g.provision s refused).map (·.2) := by
  have hreport := Credentials.report_provision hroom s.files g.credentialsPath g.credentials c
  rw [provision, provision]
  show ((Credentials.provision s.files g.credentialsPath c refused).map _).map _ = _
  cases hold : Credentials.provision s.files g.credentialsPath g.credentials refused with
  | error e =>
    cases hnew : Credentials.provision s.files g.credentialsPath c refused with
    | error e' => rw [hold, hnew] at hreport; exact hreport
    | ok result => rw [hold, hnew] at hreport; cases hreport
  | ok result =>
    cases hnew : Credentials.provision s.files g.credentialsPath c refused with
    | error e' => rw [hold, hnew] at hreport; cases hreport
    | ok result' => rw [hold, hnew] at hreport; exact hreport

/-! ### Two runs -/

/-- What comes of two runs is the same, but for the value of what authorizes their requests. -/
structure Indistinct (a b : State × List Effect) : Prop where
  effects : a.2.map Effect.veiled = b.2.map Effect.veiled
  replies : Effect.replies a.2 = Effect.replies b.2
  records : Effect.records a.2 = Effect.records b.2
  notices : Effect.notices a.2 = Effect.notices b.2
  samples : Effect.samples a.2 = Effect.samples b.2
  metrics : a.1.metrics = b.1.metrics
  calls : (Effect.calls a.2).map Outbound.veiled = (Effect.calls b.2).map Outbound.veiled

theorem indistinct_of_veiled {a b : State × List Effect} (hstate : a.1.veiled = b.1.veiled)
    (heffects : a.2.map Effect.veiled = b.2.map Effect.veiled) : Indistinct a b where
  effects := heffects
  replies := by rw [← Effect.replies_veiled, heffects, Effect.replies_veiled]
  records := by rw [← Effect.records_veiled, heffects, Effect.records_veiled]
  notices := by rw [← Effect.notices_veiled, heffects, Effect.notices_veiled]
  samples := by rw [← Effect.samples_veiled, heffects, Effect.samples_veiled]
  metrics := by
    have hmetrics := congrArg State.metrics hstate
    exact hmetrics
  calls := by rw [← Effect.calls_veiled, heffects, Effect.calls_veiled]

/-- **Secrets influence nothing but what authorizes requests.** Take a configuration, and one with
other secrets of the client.

* The two configurations and their credentials are shown alike in diagnostics. If one makes a
  gateway, so does the other, and the two gateways are shown alike and report the same when they
  provision, if there is room for what they write.
* Let each have a credentials file of its own with complete credentials whose tokens may stand in a
  header field, let the same requests come to both in the same order of moves, and let the peers do
  the same. Each signs by its file, at times of its own. Then what callers are told, what is
  recorded, noticed and counted is the same, and so are the requests that leave, but for the value
  of what authorizes them.
* What the two fetch for warming is the same without exception. -/
theorem secrets_unseen (c : Config) (clientSecret clientToken accessToken : String) :
    ((c.withSecrets clientSecret clientToken accessToken).api.diagnostic = c.api.diagnostic ∧
      (c.withSecrets clientSecret clientToken accessToken).api.credentials.diagnostic
        = c.api.credentials.diagnostic) ∧
      ∀ (shows : Bool) (g : Gateway), ofConfig c shows = .ok g →
        ofConfig (c.withSecrets clientSecret clientToken accessToken) shows
            = .ok (g.withSecrets clientSecret clientToken accessToken) ∧
          (g.withSecrets clientSecret clientToken accessToken).diagnostic = g.diagnostic ∧
          (∀ (s : State) (refused : FileTree.Refusals), refused.beyond = none →
            ((g.withSecrets clientSecret clientToken accessToken).provision s refused).map (·.2)
              = (g.provision s refused).map (·.2)) ∧
          ∀ (clock : AccessLog.Clock) (files files' : FileTree) (peers : Peers)
            (ms ms' : List Move),
            (State.fresh files peers).HoldsCredentials g →
            (State.fresh files' peers).HoldsCredentials
              (g.withSecrets clientSecret clientToken accessToken) →
            (∀ m ∈ ms, m.SignsFromFile) → (∀ m ∈ ms', m.SignsFromFile) →
            ms'.map Move.veiled = ms.map Move.veiled →
              Indistinct
                ((g.withSecrets clientSecret clientToken accessToken).run clock
                  (.fresh files' peers) ms')
                (g.run clock (.fresh files peers) ms) ∧
              ∀ id, (g.withSecrets clientSecret clientToken accessToken).warmed clock
                  (.fresh files' peers) id ms'
                = g.warmed clock (.fresh files peers) id ms := by
  refine ⟨⟨rfl, rfl⟩, fun shows g hg =>
    ⟨ofConfig_withSecrets hg clientSecret clientToken accessToken, rfl,
      fun s _ hroom => report_provision hroom g _ s, ?_⟩⟩
  intro clock files files' peers ms ms' hs hs' hms hms' hsame
  have hfresh : (State.fresh files' peers).veiled = (State.fresh files peers).veiled := rfl
  have hholds : (State.fresh files' peers).HoldsCredentials g := hs'
  obtain ⟨hstate, heffects⟩ := run_veiled clock ms hs hms
  obtain ⟨hstate', heffects'⟩ := run_veiled clock ms' hholds hms'
  -- under a veil there is one run, and both are that
  rw [hfresh, hsame] at hstate' heffects'
  refine ⟨indistinct_of_veiled ?_ ?_, fun id => ?_⟩
  · rw [withSecrets, run_withCredentials, ← hstate', hstate]
  · rw [withSecrets, run_withCredentials, ← heffects', heffects]
  · rw [withSecrets, warmed_withCredentials, ← warmed_veiled ms' id hholds hms', hfresh, hsame,
      warmed_veiled ms id hs hms]

/-! A purge whose paths are warmed, with two clients of one host. -/

/-- A tree with a credentials file in the place that it has if none is configured. -/
def keyFile (c : Credentials) : FileTree where
  entries := [(["tmp", ".edgerc"], .file (Utf8.bytes c.edgerc)), (["tmp"], .directory)]

/-- Credentials of another client. -/
def otherClient : Credentials where
  clientSecret := "secret"
  clientToken := "client"
  accessToken := "access"

/-- The moves of a purge that is signed by the credentials file, with the warming of its three paths
behind it. -/
def signedMoves (stamp : Signing.Stamp) : List Move :=
  .arrive Visit.purgeToWarm :: callMoves (Signer.ofFile stamp) 0 ++ [.fetch 0, .fetch 0, .fetch 0]

theorem map_veiled_signedMoves (stamp : Signing.Stamp) : (signedMoves stamp).map Move.veiled
    = .arrive Visit.purgeToWarm :: callMoves .blind 0 ++ [.fetch 0, .fetch 0, .fetch 0] := rfl

theorem holdsCredentials_keyFile {c : Credentials} (hc : c.IsPlain)
    (hcomplete : c.complete = .ok c) (husable : c.IsUsable) :
    (State.fresh (keyFile c) Visit.hesitant).HoldsCredentials Visit.warmingGateway := by
  have hfile : (State.fresh (keyFile c) Visit.hesitant).credentialsFile Visit.warmingGateway
      = some (Utf8.bytes c.edgerc) := rfl
  exact fun order => ⟨c, by rw [hfile, Credentials.load_edgerc hc, hcomplete], husable⟩

theorem signsFromFile_signedMoves {stamp : Signing.Stamp} (h : stamp.IsUsable) :
    ∀ m ∈ signedMoves stamp, m.SignsFromFile := by
  intro m hm id signer hsigns
  subst hsigns
  simp only [signedMoves, callMoves, List.mem_append, List.mem_cons, List.not_mem_nil, or_false,
    reduceCtorEq, false_or, Move.sign.injEq] at hm
  exact ⟨stamp, [], h, hm.2⟩

/-- The two callers are told the same, and the same three requests leave for both, one signed and
two that fetch. -/
theorem secrets_unseen_otherClient :
    ofConfig Visit.warmingConfig true = .ok Visit.warmingGateway ∧
      ofConfig (Visit.warmingConfig.withSecrets "secret" "client" "access") true
        = .ok (Visit.warmingGateway.withSecrets "secret" "client" "access") ∧
      ∃ a b : State × List Effect,
        a = (Visit.warmingGateway.withSecrets "secret" "client" "access").run { time := "" }
          (.fresh (keyFile otherClient) Visit.hesitant)
          (signedMoves ⟨"20240102T03:04:05+0000", "1"⟩) ∧
        b = Visit.warmingGateway.run { time := "" }
          (.fresh (keyFile .awkward) Visit.hesitant)
          (signedMoves ⟨"20240607T08:09:10+0000", "2"⟩) ∧
        Effect.replies a.2 = Effect.replies b.2 ∧
        (Effect.calls a.2).map Outbound.veiled = (Effect.calls b.2).map Outbound.veiled ∧
        (Effect.replies b.2).map (fun r => r.2.status) = [201] ∧
        (Effect.calls b.2).length = 3 := by
  have hother : (State.fresh (keyFile otherClient) Visit.hesitant).HoldsCredentials
      Visit.warmingGateway :=
    holdsCredentials_keyFile (by decide) rfl ⟨by decide, by decide⟩
  have hawkward : (State.fresh (keyFile .awkward) Visit.hesitant).HoldsCredentials
      Visit.warmingGateway :=
    holdsCredentials_keyFile (by decide) rfl ⟨by decide, by decide⟩
  have hfirst : Signing.Stamp.IsUsable ⟨"20240102T03:04:05+0000", "1"⟩ :=
    ⟨by decide, by decide⟩
  have hsecond : Signing.Stamp.IsUsable ⟨"20240607T08:09:10+0000", "2"⟩ :=
    ⟨by decide, by decide⟩
  obtain ⟨hconfig, -, -, hunseen⟩ :=
    (secrets_unseen Visit.warmingConfig "secret" "client" "access").2 true _ Visit.ofConfig_warming
  obtain ⟨hindistinct, -⟩ := hunseen { time := "" } _ _ _ _ _ hawkward
    (holdsCredentials_withCredentials hother) (signsFromFile_signedMoves hsecond)
    (signsFromFile_signedMoves hfirst)
    ((map_veiled_signedMoves _).trans (map_veiled_signedMoves _).symm)
  obtain ⟨-, hblind⟩ := run_veiled { time := "" } _ hawkward (signsFromFile_signedMoves hsecond)
  rw [map_veiled_signedMoves] at hblind
  refine ⟨Visit.ofConfig_warming, hconfig, _, _, rfl, rfl, hindistinct.replies,
    hindistinct.calls, ?_, ?_⟩
  · rw [← Effect.replies_veiled, ← hblind, Effect.replies_veiled]
    decide +kernel
  · rw [← List.length_map, ← Effect.calls_veiled, ← hblind, Effect.calls_veiled, List.length_map]
    decide +kernel

end Gateway

end PurgeGateway
