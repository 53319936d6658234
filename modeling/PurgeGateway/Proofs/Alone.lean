import PurgeGateway.Proofs.PathsSent
import PurgeGateway.Proofs.Sending
import PurgeGateway.Proofs.Visit

/-!
# A purge call alone

A purge call does in a crowd what it would do alone. The gateway that it has to itself gets nothing
but this one request, whose caller waits; the signer gives the answer that the call got in the
crowd, and the peers do what they did when it was forwarded there.

What it sends is its own: a POST to the address that its own request is routed to, with the paths
that its own caller lists. A signer that only adds header fields leaves it so.

That the caller leaves, or is told that the time is up, changes what the caller is told and nothing
else: no signature, no request that leaves, nothing that is counted, no path to be warmed.

## Main definitions

* `PostsPaths`: a request posts the paths that a body lists to the address that it is routed to.
* `Visit.alone`: the same request with the gateway to itself.

## Main results

* `Routed.postsPaths`, `PostsPaths.of_signed`: what is asked for posts the paths of its caller, and
  so does what is signed.
* `Visit.turns_alone`: the turns of the call that is alone are those of its course.
* `Visit.as_alone`: in a crowd as alone.
-/

namespace PurgeGateway.Gateway

/-! ### Whose paths are posted -/

/-- The request is the purge that a body asks for: a POST to the address that the request in the
body is routed to, and what it sends is read as an object that has the paths which the body lists
under `objects`, and nothing else. -/
structure PostsPaths (api : String) (body : List UInt8) (outbound : Outbound) : Prop where
  method : outbound.method = "POST"
  url : ∃ request kind url, Purge.Request.ofBytes body = .ok request ∧
    Purge.Kind.ofText? request.purgeType = some kind ∧
      Net.Url.ofText? (routedAddress api request kind) = some url ∧
        outbound.url = if (Outbound.user? url).isSome then
          { url with username := "", password := "" } else url
  sent : ∃ text, outbound.body = some (.buffered text) ∧
    (∃ paths, Purge.AsksToPurge body paths) ∧
      ∀ paths, Purge.AsksToPurge body paths ↔
        Json.read? text = some (.object [("objects", .array (paths.map .text))])

/-- The signer leaves a request as it is, but for its header fields. -/
def AddsHeadersOnly (signer : Outbound → Except Signing.Error Outbound) : Prop :=
  ∀ r signed, signer r = .ok signed →
    signed.method = r.method ∧ signed.url = r.url ∧ signed.body = r.body

theorem addsHeadersOnly_ok : AddsHeadersOnly .ok := by
  rintro r _ ⟨⟩
  exact ⟨rfl, rfl, rfl⟩

theorem addsHeadersOnly_ofFile (stamp : Signing.Stamp) (order : Nested.Order)
    (file : Option (List UInt8)) : AddsHeadersOnly (Signer.ofFile stamp order file) := by
  intro r signed h
  obtain ⟨_, _, _, hsame⟩ := Signing.signed_of_ofFile h
  exact ⟨hsame.method, hsame.url, hsame.body⟩

/-- **What is asked for posts the paths of its caller.** -/
theorem Routed.postsPaths {api : String} {headers : Http.Headers} {body : List UInt8}
    {request : Purge.Request} {outbound : Outbound}
    (h : Routed api headers body request outbound) : PostsPaths api body outbound := by
  obtain ⟨hmethod, ⟨kind, url, hkind, hurl, houtbound⟩, -, hbody⟩ := h.isCallFor
  exact ⟨hmethod, ⟨request, kind, url, h.payload, hkind, hurl, houtbound⟩, _, hbody,
    ⟨request.paths, (Purge.asksToPurge_iff h.payload).mpr rfl⟩,
    fun paths => Purge.asksToPurge_iff_read? h.payload⟩

theorem PostsPaths.of_signed {api : String} {body : List UInt8} {outbound signed : Outbound}
    {signer : Outbound → Except Signing.Error Outbound} (h : PostsPaths api body outbound)
    (hsigner : AddsHeadersOnly signer) (hsigned : signer outbound = .ok signed) :
    PostsPaths api body signed := by
  obtain ⟨hmethod, hurl, hbody⟩ := hsigner outbound signed hsigned
  exact ⟨hmethod.trans h.method, by rw [hurl]; exact h.url, by rw [hbody]; exact h.sent⟩

/-! ### The signer of a call -/

/-- The signer that a call meets has a turn, unless the call meets none. -/
theorem signer_courseOf (g : Gateway) (ts : List Turn) : ∀ stage : Purge.Stage,
    (courseOf g stage ts).signer = .ok ∨ Turn.sign (courseOf g stage ts).signer ∈ ts := by
  induction ts with
  | nil => intro stage; exact .inl rfl
  | cons turn rest ih =>
    intro stage
    rw [courseOf, Course.note.eq_def]
    split
    · exact .inr List.mem_cons_self
    all_goals
      first | split | skip
      all_goals exact (ih _).imp_right (List.mem_cons_of_mem _)

/-- A turn in which a call is signed is a move of a signer, with the credentials file as it is. -/
theorem sign_of_mem_turns (g : Gateway) (clock : AccessLog.Clock) (id : Nat)
    {answer : Outbound → Except Signing.Error Outbound} (ms : List Move) : ∀ s : State,
    Turn.sign answer ∈ g.turns clock s id ms →
      ∃ signer file, .sign id signer ∈ ms ∧ signer file = answer := by
  induction ms with
  | nil => intro s h; cases h
  | cons m rest ih =>
    intro s h
    rcases List.mem_append.mp h with hfirst | hrest
    · rw [Option.mem_toList] at hfirst
      cases m with
      | sign i signer =>
        obtain ⟨rfl, hturn⟩ := Option.ite_none_right_eq_some.mp hfirst
        have hanswer := Turn.sign.inj (Option.some.inj hturn)
        exact ⟨signer, s.credentialsFile g, List.mem_cons_self, hanswer⟩
      | _ => simp [turn?] at hfirst
    · obtain ⟨signer, file, hmem, hanswer⟩ := ih _ hrest
      exact ⟨signer, file, List.mem_cons_of_mem m hmem, hanswer⟩

namespace Visit

/-- If all signers of a run add header fields only, so does the one that a call meets. -/
theorem addsHeadersOnly_course (v : Visit) (g : Gateway)
    (h : ∀ id signer file, .sign id signer ∈ v.moves → AddsHeadersOnly (signer file)) :
    AddsHeadersOnly (v.course g).signer := by
  rw [course]
  split
  · rcases signer_courseOf g (v.turns g) v.received with hnone | hturn
    · rw [hnone]
      exact addsHeadersOnly_ok
    · obtain ⟨signer, file, hmem, hanswer⟩ := sign_of_mem_turns g _ _ _ _ hturn
      rw [← hanswer]
      rcases List.mem_cons.mp hmem with hfirst | hmem
      · cases hfirst
      · exact h _ signer file hmem
  · exact addsHeadersOnly_ok

/-- The same request with a gateway to itself: its signer answers as it did, and the peers are those
that its call met when it was forwarded. -/
def alone (v : Visit) (g : Gateway) : Visit where
  clock := v.clock
  files := v.files
  peers := (v.course g).peers
  history := []
  request := v.request
  moves := callMoves (fun _ => (v.course g).signer) 0

variable {v : Visit} {g : Gateway}

/-- Nothing that happens before the call is forwarded changes the peers, so it meets them as they
were. -/
theorem turns_alone (v : Visit) (g : Gateway) : (v.alone g).turns g = (v.course g).turns := by
  have hpeers : ∀ (s : State) (m : Move), m.sends = false →
      (g.step v.clock s m).1.peers = s.peers :=
    fun s m h => peers_step g v.clock s h
  simp only [turns, alone, before, fresh, number, callMoves, Gateway.turns, turn?, run_nil,
    Course.turns]
  rw [hpeers _ _ rfl, hpeers _ _ rfl, hpeers _ _ rfl]
  rfl

theorem impatience?_of_mem_turns {c : Course} {turn : Turn} (h : turn ∈ c.turns) :
    turn.impatience? = none := by
  simp only [Course.turns, List.mem_cons, List.not_mem_nil, or_false] at h
  rcases h with rfl | rfl | rfl | rfl <;> rfl

/-- The effects of the call that is alone are those of its turns. -/
theorem own_alone (h : g.handsOver v.request = true) :
    (v.alone g).own g
      = (takeAll g v.clock 0 (some ⟨some v.request, v.received⟩) (v.course g).turns).2 := by
  rw [own_of_handsOver (v := v.alone g) h, turns_alone]
  rfl

theorem work_alone (h : g.handsOver v.request = true) :
    Effect.work ((v.alone g).own g) = Effect.work ((v.course g).finish g v.received).2 := by
  rw [own_alone h]
  exact (work_takeAll g v.clock 0 _ (some v.request) rfl).2

theorem replies_alone (h : g.handsOver v.request = true) {outcome : Except Purge.Error Purge.Relay}
    (houtcome : ((v.course g).finish g v.received).1 = .ended outcome) :
    Effect.replies ((v.alone g).own g)
      = [(0, outside v.request (.ofResponse (outcomeResponse outcome)))] := by
  have hpatient : (courseOf g v.received (v.course g).turns).impatience = none :=
    impatience_courseOf_of_none _ fun turn => impatience?_of_mem_turns
  have hend : (follow g v.received (v.course g).turns).1.outcome? = some outcome := by
    rw [show follow g v.received (v.course g).turns = (v.course g).finish g v.received from rfl,
      houtcome]
    rfl
  rw [own_alone h, replies_takeAll v.request _ rfl, hpatient, hend]

/-- **In a crowd as alone.** Take a request that becomes a purge call, with anything before it and
anything behind it in any order.

* It ends once its call has been taken on, signed, forwarded and interpreted.
* Once it ended, the signature it asked for, the requests it made, what it counted and what it wants
  warmed are those of the same request alone. Its caller, if still there, is told the same, and is
  told nothing else; a caller who left is told nothing, and one whose time was up is told that.
* The signature is asked for the request that its own fields and body are routed to: it posts the
  paths that its own caller lists, to the address of its own request.
* The first request that leaves is what its signer made of that. If the signer adds header fields
  only, as the one does that takes its credentials from a file, that posts the same paths to the
  same address.
* All effects of the run, warming apart, are the shares of the requests that came: nothing is lost,
  and nothing is done twice. -/
theorem as_alone (v : Visit) (g : Gateway) (h : g.handsOver v.request = true) :
    ((∃ signer, (callMoves signer (v.number g)).Sublist v.moves) → v.Ended g) ∧
      (v.Ended g →
        Effect.work (v.own g) = Effect.work ((v.alone g).own g) ∧
          (∃ reply, Effect.replies ((v.alone g).own g) = [(0, reply)] ∧
            Effect.replies (v.own g) = match (v.course g).impatience with
              | none => [(v.number g, reply)]
              | some .leaves => []
              | some .timesOut =>
                [(v.number g, outside v.request (.ofResponse Error.timeout.response))])) ∧
      (∀ outbound ∈ Effect.asks (v.own g),
        (∃ request, Routed g.api v.request.headers v.request.body request outbound) ∧
          PostsPaths g.api v.request.body outbound) ∧
      (∀ signed ∈ (Effect.calls (v.own g)).head?,
        (∃ outbound ∈ Effect.asks (v.own g), (v.course g).signer outbound = .ok signed) ∧
          (AddsHeadersOnly (v.course g).signer → PostsPaths g.api v.request.body signed)) ∧
      (∀ stamp order file, AddsHeadersOnly (Signer.ofFile stamp order file)) ∧
      (g.pipeline v.clock v.fresh v.all).Perm
        ((List.range (g.run v.clock v.fresh v.all).1.arrived).flatMap fun id =>
          g.share v.clock v.fresh id v.all) := by
  refine ⟨?_, ?_, ?_, ?_, addsHeadersOnly_ofFile, ?_⟩
  · rintro ⟨signer, hsub⟩
    exact ended_of_sublist hsub
  · intro hend
    obtain ⟨outcome, houtcome, hreplies⟩ := replies_own h hend
    refine ⟨by rw [work_own h hend, work_alone h], _, replies_alone h houtcome, ?_⟩
    rw [hreplies]
    cases (v.course g).impatience with
    | none => rfl
    | some i =>
      cases i with
      | leaves => rfl
      | timesOut => exact replies_refuse _ _ _
  · intro outbound hask
    rw [(handedOut_own v g).1, Option.mem_toList] at hask
    obtain ⟨-, request, hrouted⟩ := routed_of_asked hask
    exact ⟨⟨request, hrouted⟩, hrouted.postsPaths⟩
  · intro signed hcall
    rw [(handedOut_own v g).1]
    rw [(handedOut_own v g).2, Course.calls] at hcall
    split at hcall
    · next first hforwarded =>
      obtain ⟨outbound, hasked, hsigned⟩ := signed_of_forwarded hforwarded
      rw [Peers.head?_calls_send] at hcall
      split at hcall
      · obtain rfl : first = signed := Option.some.inj hcall
        obtain ⟨-, request, hrouted⟩ := routed_of_asked hasked
        exact ⟨⟨outbound, Option.mem_toList.mpr hasked, hsigned⟩,
          fun hsigner => hrouted.postsPaths.of_signed hsigner hsigned⟩
      · cases hcall
    · cases hcall
  · exact pipeline_perm v.all (State.numbered_fresh v.files v.peers) (Nat.le_refl _)

/-- A purge that comes while another is under way, and whose caller leaves before it is signed. The
moves of the two calls take turns. -/
def crowded : Visit where
  clock := { time := "" }
  files := {}
  peers := accepting
  history := [.arrive purgeOfOne, .start 0]
  request := purgeOfOne
  moves := [.start 1, .sign 0 fun _ => .ok, .leave 1, .sign 1 fun _ => .ok, .forward 1, .forward 0,
    .interpret 1, .interpret 0]

/-- In the crowd the purge does as much as alone, though its caller has left, and posts its own
paths. -/
theorem as_alone_crowded :
    (plainGateway loopback).handsOver crowded.request = true ∧
      Effect.work (crowded.own (plainGateway loopback))
        = Effect.work ((crowded.alone (plainGateway loopback)).own
            (plainGateway loopback)) ∧
      Effect.replies (crowded.own (plainGateway loopback)) = [] ∧
      ∃ call, Effect.calls (crowded.own (plainGateway loopback)) = [call] ∧
        PostsPaths loopback crowded.request.body call := by
  have hand : (plainGateway loopback).handsOver crowded.request = true := by
    decide +kernel
  obtain ⟨hends, hsame, -, hposts, -⟩ := as_alone crowded (plainGateway loopback) hand
  have hnumber : crowded.number (plainGateway loopback) = 1 := by
    decide +kernel
  have hsub : (callMoves (fun _ => .ok) (crowded.number (plainGateway loopback))).Sublist
      crowded.moves := by
    rw [hnumber]
    refine .cons_cons _ (.cons _ (.cons _ (.cons_cons _ (.cons_cons _ (.cons _ ?_)))))
    exact .cons_cons _ (.cons _ .slnil)
  obtain ⟨hwork, reply, -, hreplies⟩ := hsame (hends ⟨_, hsub⟩)
  have hleft : (crowded.course (plainGateway loopback)).impatience = some .leaves := by
    decide +kernel
  have hlength : (Effect.calls (crowded.own (plainGateway loopback))).length = 1 := by
    decide +kernel
  have hsigner : AddsHeadersOnly (crowded.course (plainGateway loopback)).signer := by
    refine addsHeadersOnly_course _ _ fun id signer file hmem => ?_
    simp only [crowded, List.mem_cons, List.not_mem_nil, reduceCtorEq, Move.sign.injEq, or_false,
      false_or] at hmem
    obtain ⟨-, rfl⟩ | ⟨-, rfl⟩ := hmem
    all_goals exact addsHeadersOnly_ok
  obtain ⟨call, hcall⟩ := List.length_eq_one_iff.mp hlength
  rw [hleft] at hreplies
  rw [hcall] at hposts
  exact ⟨hand, hwork, hreplies, call, hcall, (hposts call rfl).2 hsigner⟩

end Visit

end PurgeGateway.Gateway
