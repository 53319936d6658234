import PurgeGateway.Proofs.Verdict
import PurgeGateway.Proofs.Visit

/-!
# Purge calls are judged by the rules

Every purge call in every run comes to the end that the rules of the verdict give, with the signer
and the peers that it meets, and the rules give one end only.

## Main definitions

* `Course.Meets`: a course brings a stage to an end.
* `IsCallFor`: what the request to the invalidation API says.

## Main results

* `verdict_meets`: a course comes to the end that the rules give.
* `Verdict.unique`: the rules exclude each other.
* `Routed.isCallFor`: what the signer is asked to sign.
* `Visit.judged`: every purge call in every run is judged by the rules.
-/

namespace PurgeGateway.Gateway

/-! ### The end of a course -/

/-- A course brings a stage to an end. -/
structure Course.Meets (c : Course) (g : Gateway) (stage : Purge.Stage) (ending : Ending) :
    Prop where
  outcome : ∃ outcome, (c.finish g stage).1 = .ended outcome ∧
    ending.response = outcomeResponse outcome
  asks : Effect.asks (c.finish g stage).2 = ending.asked.toList
  calls : Effect.calls (c.finish g stage).2 = ending.sent

section
variable {g : Gateway} {c : Course} {headers : Http.Headers} {body : List UInt8}
  {request : Purge.Request} {outbound signed : Outbound} {answer : Http.Reply}

theorem meets_of_accept_fail {e : Purge.Error}
    (h : ∃ notice, Purge.Stage.accept g.api headers body = Purge.Stage.fail e notice) :
    c.Meets g (.received headers body) { response := (Error.purge e).response } := by
  obtain ⟨notice, h⟩ := h
  have hstart : Turn.start.progress g (.received headers body) = Purge.Stage.fail e notice := h
  have hfinish : c.finish g (.received headers body) = Purge.Stage.fail e notice := by
    rw [← hstart]
    exact finish_of_progress_ended rfl (by rw [hstart]; rfl)
  exact ⟨⟨.error e, by rw [hfinish]; rfl, rfl⟩, by rw [hfinish]; rfl, by rw [hfinish]; rfl⟩

theorem Course.Meets.of_routed {ending : Ending}
    (hrouted : Routed g.api headers body request outbound)
    (h : c.Meets g (.signing request outbound) ending) :
    c.Meets g (.received headers body) ending := by
  have hfinish := finish_of_routed c hrouted
  exact ⟨by rw [hfinish]; exact h.outcome, by rw [hfinish]; exact h.asks,
    by rw [hfinish]; exact h.calls⟩

theorem meets_of_not_signed {e : Signing.Error} (h : c.signer outbound = .error e) :
    c.Meets g (.signing request outbound)
      { response := (Error.purge .signingFailed).response, asked := some outbound } := by
  have hsign : ((Turn.sign c.signer).progress g (.signing request outbound)).1
      = .ended (.error .signingFailed) := by
    simp only [Turn.progress, Purge.Stage.sign, h]
    rfl
  have hfinish := finish_of_progress_ended (c := c) rfl hsign
  obtain ⟨hasks, hcalls⟩ := handedOut_sign c.signer request outbound
  exact ⟨⟨_, by rw [hfinish, hsign], rfl⟩, by rw [hfinish]; exact hasks,
    by rw [hfinish]; exact hcalls⟩

theorem Course.Meets.of_signed {response : Http.Response} {sent : List Outbound}
    (hsign : c.signer outbound = .ok signed)
    (h : c.Meets g (.forwarding request signed) { response, sent }) :
    c.Meets g (.signing request outbound) { response, asked := some outbound, sent } := by
  have hfinish : c.finish g (.signing request outbound)
      = ((c.finish g (.forwarding request signed)).1,
          [.ask outbound] ++ (c.finish g (.forwarding request signed)).2) :=
    finish_of_signed hsign request
  refine ⟨by rw [hfinish]; exact h.outcome, ?_, ?_⟩
  · rw [hfinish, Effect.asks_append, h.asks]
    rfl
  · rw [hfinish, Effect.calls_append, h.calls]
    rfl

theorem meets_of_not_sent (h : (c.peers.send signed).answer = none) :
    c.Meets g (.forwarding request signed)
      { response := (Error.purge .unreachable).response, sent := (c.peers.send signed).calls } := by
  have hsend : ((Turn.forward c.peers).progress g (.forwarding request signed)).1
      = .ended (.error .unreachable) := by
    simp only [Turn.progress, Purge.Stage.forward, h]
    rfl
  have hfinish := finish_of_progress_ended (c := c) rfl hsend
  obtain ⟨hasks, hcalls⟩ := handedOut_forward c.peers request signed
  exact ⟨⟨_, by rw [hfinish, hsend], rfl⟩, by rw [hfinish]; exact hasks,
    by rw [hfinish]; exact hcalls⟩

theorem Course.Meets.of_sent {response : Http.Response}
    (hsend : (c.peers.send signed).answer = some answer)
    (h : c.Meets g (.interpreting request answer) { response }) :
    c.Meets g (.forwarding request signed)
      { response, sent := (c.peers.send signed).calls } := by
  have hfinish : c.finish g (.forwarding request signed)
      = ((c.finish g (.interpreting request answer)).1,
          Purge.Stage.callEffects (c.peers.send signed) ++ ([.sample .latency] ++
            (c.finish g (.interpreting request answer)).2)) :=
    finish_of_answered hsend request
  refine ⟨by rw [hfinish]; exact h.outcome, ?_, ?_⟩
  · rw [hfinish, Effect.asks_append, Effect.asks_append, h.asks, asks_callEffects]
    rfl
  · rw [hfinish, Effect.calls_append, Effect.calls_append, h.calls, calls_callEffects]
    exact List.append_nil _

theorem meets_of_interpret (outcome : Except Purge.Error Purge.Relay)
    (h : (Purge.Stage.interpret g.warming.isSome (.interpreting request answer)).1
      = .ended outcome) :
    c.Meets g (.interpreting request answer) { response := outcomeResponse outcome } := by
  have hnext : c.next? (.interpreting request answer) = some .interpret := rfl
  have hfinish := finish_of_progress_ended (g := g) hnext h
  obtain ⟨hasks, hcalls⟩ := handedOut_interpret g.warming.isSome request answer
  exact ⟨⟨outcome, by rw [hfinish]; exact h, rfl⟩, by rw [hfinish]; exact hasks,
    by rw [hfinish]; exact hcalls⟩

/-- **A course comes to the end that the rules give**, if the body is not too large. -/
theorem verdict_meets {limit : Nat} {call : Http.Request} {ending : Ending}
    (hsize : call.body.length ≤ limit)
    (h : Verdict limit g.api call c.signer c.peers ending) :
    c.Meets g (.received call.headers call.body) ending := by
  cases h with
  | tooLarge hlarge => omega
  | contentType _ hcontent =>
    refine meets_of_accept_fail (e := .invalidContentType) ?_
    simp only [Purge.Stage.accept, hcontent, Bool.not_false, if_true]
    exact ⟨_, rfl⟩
  | payload _ hcontent hpayload =>
    refine meets_of_accept_fail (e := .invalidPayload) ?_
    simp only [Purge.Stage.accept, hcontent, hpayload, Bool.not_true, Bool.false_eq_true, if_false]
    exact ⟨_, rfl⟩
  | purgeType _ hcontent hpayload hurls htags =>
    refine meets_of_accept_fail (e := .invalidType) ?_
    simp only [Purge.Stage.accept, hcontent, hpayload, Purge.Stage.routed, Purge.Request.url?,
      kind_of_ne hurls htags, Option.map_none, Bool.not_true, Bool.false_eq_true, if_false]
    exact ⟨_, rfl⟩
  | address _ hcontent hpayload hkind hto =>
    rw [routedAddress] at hto
    refine meets_of_accept_fail (e := .unreachable) ?_
    simp only [Purge.Stage.accept, hcontent, hpayload, Purge.Stage.routed, Purge.Request.url?,
      hkind, hto, Option.map_some, Bool.not_true, Bool.false_eq_true, if_false]
    exact ⟨_, rfl⟩
  | signature _ hrouted hsign => exact .of_routed hrouted (meets_of_not_signed hsign)
  | transport _ hrouted hsign hsend =>
    exact .of_routed hrouted (.of_signed hsign (meets_of_not_sent hsend))
  | decoding _ hrouted hsign hsend hdecode =>
    refine .of_routed hrouted (.of_signed hsign (.of_sent hsend ?_))
    refine meets_of_interpret (.error .undecodableReply) ?_
    simp only [Purge.Stage.interpret, hdecode]
    rfl
  | relayed _ hrouted hsign hsend hdecode =>
    refine .of_routed hrouted (.of_signed hsign (.of_sent hsend ?_))
    refine meets_of_interpret (.ok ⟨_, _⟩) ?_
    simp only [Purge.Stage.interpret, hdecode]
    rfl

end

theorem Verdict.eq_of_large {limit : Nat} {api : String} {call : Http.Request}
    {signer : Outbound → Except Signing.Error Outbound} {peers : Peers} {ending : Ending}
    (hsize : limit < call.body.length) (h : Verdict limit api call signer peers ending) :
    ending = { response := (Error.payloadTooLarge limit).response } := by
  cases h with
  | tooLarge => rfl
  | _ => omega

/-- **The rules exclude each other.** -/
theorem Verdict.unique {limit : Nat} {api : String} {call : Http.Request}
    {signer : Outbound → Except Signing.Error Outbound} {peers : Peers} {e e' : Ending}
    (h : Verdict limit api call signer peers e) (h' : Verdict limit api call signer peers e') :
    e = e' := by
  rcases Nat.lt_or_ge limit call.body.length with hsize | hsize
  · rw [h.eq_of_large hsize, h'.eq_of_large hsize]
  · -- both are the end of one course, in any gateway with this address
    let g : Gateway := { api, limit, log := { limit } }
    let c : Course := { signer, peers }
    have hm : c.Meets g (.received call.headers call.body) e := verdict_meets hsize h
    have hm' : c.Meets g (.received call.headers call.body) e' := verdict_meets hsize h'
    have hresponse : e.response = e'.response := by
      obtain ⟨outcome, hfinish, heq⟩ := hm.outcome
      obtain ⟨other, hother, heq'⟩ := hm'.outcome
      rw [hfinish] at hother
      cases hother
      rw [heq, heq']
    have hasked : e.asked = e'.asked := by
      have htoList := hm.asks.symm.trans hm'.asks
      cases ha : e.asked <;> cases ha' : e'.asked <;> rw [ha, ha'] at htoList <;> simp_all
    have hsent : e.sent = e'.sent := hm.calls.symm.trans hm'.calls
    cases e
    cases e'
    exact Ending.mk.injEq .. ▸ ⟨hresponse, hasked, hsent⟩

/-! ### What the signer is asked to sign -/

/-- What the request to the invalidation API for a purge request says: it posts the objects as JSON
to the address that the request is routed to, as the URL reader takes it. A user named in that
address is left out of the URL. -/
structure IsCallFor (api : String) (request : Purge.Request) (outbound : Outbound) : Prop where
  method : outbound.method = "POST"
  url : ∃ kind url, Purge.Kind.ofText? request.purgeType = some kind ∧
    Net.Url.ofText? (routedAddress api request kind) = some url ∧
      outbound.url = if (Outbound.user? url).isSome then
        { url with username := "", password := "" } else url
  contentType : outbound.headers.first? "content-type" = some (Utf8.bytes "application/json")
  body : outbound.body = some (.buffered (Utf8.bytes request.objects.compact))

theorem Routed.isCallFor {api : String} {headers : Http.Headers} {body : List UInt8}
    {request : Purge.Request} {outbound : Outbound}
    (h : Routed api headers body request outbound) : IsCallFor api request outbound := by
  obtain ⟨kind, hkind, hto⟩ := h.exists_kind
  obtain ⟨url, hurl, rfl⟩ := Outbound.of_to? hto
  refine ⟨?_, ⟨kind, url, hkind, hurl, ?_⟩, ?_, ?_⟩
  · exact Outbound.withUserInHeader_method _
  · exact Outbound.withUserInHeader_url _
  · exact Http.Headers.first?_set _ _ _
  · exact Outbound.withUserInHeader_body _

/-! ### Every purge call -/

theorem destination_purge {request : Http.Request} (hmethod : request.method = "POST")
    (hpath : request.target.path = "/api/v1/purge") : destination request = .route .purge := by
  rw [destination, hpath, hmethod]
  rfl

/-- A request on the purge route is a POST, and the reply to it goes out as it is. -/
theorem outside_purge {request : Http.Request} (h : destination request = .route .purge)
    (reply : Http.Reply) : outside request reply = reply := by
  have hmethod : request.method = "POST" := by
    rw [destination] at h
    split at h
    · cases h
    · next r _ =>
      split at h
      · next hmethods =>
        cases h
        simpa [Route.methods] using hmethods
      · cases h
  rw [outside, withAllow, h, withoutBody, hmethod]
  rfl

theorem outside_post {request : Http.Request} (hmethod : request.method = "POST")
    (hpath : request.target.path = "/api/v1/purge") (reply : Http.Reply) :
    outside request reply = reply :=
  outside_purge (destination_purge hmethod hpath) reply

/-- A body that is too large is refused, whether the access log takes it in or not. -/
theorem replies_arrive_large {g : Gateway} {clock : AccessLog.Clock} {s : State}
    {request : Http.Request} (hlog : g.log.limit = g.limit)
    (hroute : destination request = .route .purge) (h : g.limit < request.body.length) :
    Effect.replies (g.arrive clock s request).2
      = [(s.arrived, outside request (.ofResponse (Error.payloadTooLarge g.limit).response))] := by
  simp only [arrive, AccessLog.Layer.letIn, hlog]
  split
  · next e he =>
    split at he
    · cases he
      exact replies_refuse _ _ _
    · cases he
  · next admitted hadmitted =>
    split at hadmitted
    · cases hadmitted
    · cases hadmitted
      simp only [handle, hroute, handOver, h, if_true]
      exact replies_deliver g clock s.arrived request _

namespace Visit

variable {v : Visit} {g : Gateway} {ending : Ending}

/-- What comes of a call whose body is too large comes of its arrival. -/
theorem own_of_not_handsOver (h : g.handsOver v.request = false) :
    v.own g = (g.arrive v.clock (v.before g) v.request).2 := by
  have hnone : g.received? v.request = none := by simp [received?, h]
  rw [own_eq, hnone, takeAll_none, List.append_nil]

/-- The effects of a call that became one and ended are those of its verdict. -/
theorem handedOut_of_verdict {limit : Nat} (hand : g.handsOver v.request = true) (hend : v.Ended g)
    (hsize : v.request.body.length ≤ limit)
    (h : Verdict limit g.api v.request (v.course g).signer (v.course g).peers ending) :
    Effect.asks (v.own g) = ending.asked.toList ∧ Effect.calls (v.own g) = ending.sent := by
  have hmeets := verdict_meets hsize h
  constructor
  · rw [← Effect.asks_work, work_own hand hend, Effect.asks_work]
    exact hmeets.asks
  · rw [← Effect.calls_work, work_own hand hend, Effect.calls_work]
    exact hmeets.calls

theorem replies_of_verdict {limit : Nat} (hand : g.handsOver v.request = true) (hend : v.Ended g)
    (hsize : v.request.body.length ≤ limit)
    (h : Verdict limit g.api v.request (v.course g).signer (v.course g).peers ending)
    (hpatient : (v.course g).impatience = none) :
    Effect.replies (v.own g)
      = [(v.number g, outside v.request (.ofResponse ending.response))] := by
  obtain ⟨outcome, hfinish, hreplies⟩ := replies_own hand hend
  obtain ⟨other, hother, hresponse⟩ := (verdict_meets hsize h).outcome
  have hsame : outcome = other := by
    rw [show Purge.Stage.received v.request.headers v.request.body = v.received from rfl,
      hfinish] at hother
    exact Purge.Stage.ended.inj hother
  rw [hreplies, hpatient, hresponse, hsame]

/-- **The first stage that fails decides.** Take a gateway of any configuration and a request to its
purge route, with anything before it and anything behind it in any order.

* It ends once its call has been taken on, signed, forwarded and interpreted.
* Once it ended, there is one end that the rules of the verdict give for the signer and the peers
  that it met. Its caller, if still there, is told the reply of that end, once; the signature asked
  for and the requests that left are those of that end.
* A signature is asked for if and only if every stage before it was passed, and a request leaves if
  and only if the signature is there, its URL can be sent to, and a peer is reached there; the first
  that leaves is what the signer gave.
* What the signer is asked to sign posts the objects as JSON to the routed address. -/
theorem judged {c : Config} {shows : Bool} {g : Gateway}
    (hg : Gateway.ofConfig c shows = .ok g) (v : Visit) (hmethod : v.request.method = "POST")
    (hpath : v.request.target.path = "/api/v1/purge") :
    ((∃ signer, (callMoves signer (v.number g)).Sublist v.moves) → v.Ended g) ∧
      (v.Ended g → ∃ ending,
        Verdict c.listener.maxBodySize c.api.baseUrl v.request (v.course g).signer
            (v.course g).peers ending ∧
          (∀ other, Verdict c.listener.maxBodySize c.api.baseUrl v.request (v.course g).signer
            (v.course g).peers other → other = ending) ∧
          ((v.course g).impatience = none →
            Effect.replies (v.own g) = [(v.number g, .ofResponse ending.response)]) ∧
          Effect.asks (v.own g) = ending.asked.toList ∧
          Effect.calls (v.own g) = ending.sent ∧
          (∀ outbound, ending.asked = some outbound ↔
            v.request.body.length ≤ c.listener.maxBodySize ∧ ∃ request,
              Routed c.api.baseUrl v.request.headers v.request.body request outbound) ∧
          ∀ signed, ending.sent.head? = some signed ↔ ∃ outbound,
            ending.asked = some outbound ∧ (v.course g).signer outbound = .ok signed ∧
              signed.url.isSendable = true ∧ (v.course g).peers.reaches signed.url = true) ∧
      ∀ request outbound,
        Routed c.api.baseUrl v.request.headers v.request.body request outbound →
          IsCallFor c.api.baseUrl request outbound := by
  obtain ⟨hapi, hlimit, hlayer⟩ := of_ofConfig hg
  have hlog : g.log.limit = g.limit := by rw [hlayer, hlimit]; rfl
  have hroute : destination v.request = .route .purge := destination_purge hmethod hpath
  refine ⟨?_, ?_, fun request outbound hrouted => hrouted.isCallFor⟩
  · rintro ⟨signer, hsub⟩
    exact ended_of_sublist hsub
  · intro hend
    rw [← hapi, ← hlimit]
    obtain ⟨ending, hverdict⟩ := exists_verdict g.limit g.api v.request
      (v.course g).signer (v.course g).peers
    refine ⟨ending, hverdict, fun other hother => hother.unique hverdict, ?_⟩
    rw [← and_assoc, ← and_assoc]
    refine ⟨?_, fun _ => hverdict.asked_iff, fun _ => hverdict.head?_sent_iff⟩
    rcases Nat.lt_or_ge g.limit v.request.body.length with hsize | hsize
    · have hand : g.handsOver v.request = false := by
        rw [handsOver_eq hlog, hroute]
        simpa using hsize
      have hown := own_of_not_handsOver hand
      obtain rfl := hverdict.eq_of_large hsize
      refine ⟨⟨fun _ => ?_, ?_⟩, ?_⟩
      · rw [hown, replies_arrive_large hlog hroute hsize, outside_post hmethod hpath]
        rfl
      · rw [hown, ← Effect.asks_work, work_arrive]
        rfl
      · rw [hown, ← Effect.calls_work, work_arrive]
        rfl
    · have hand : g.handsOver v.request = true := by
        rw [handsOver_eq hlog, hroute]
        simpa using hsize
      obtain ⟨hasks, hcalls⟩ := handedOut_of_verdict hand hend hsize hverdict
      refine ⟨⟨fun hpatient => ?_, hasks⟩, hcalls⟩
      rw [replies_of_verdict hand hend hsize hverdict hpatient, outside_post hmethod hpath]

/-- A purge that goes through: what left for it, and what its caller was told. -/
theorem judged_plain :
    ofConfig (plainConfig loopback) true = .ok (plainGateway loopback) ∧
      (Visit.plain accepting).Ended (plainGateway loopback) ∧
      ∃ ending, Verdict (plainConfig loopback).listener.maxBodySize
          (plainConfig loopback).api.baseUrl purgeOfOne
          ((Visit.plain accepting).course (plainGateway loopback)).signer
          ((Visit.plain accepting).course (plainGateway loopback)).peers ending ∧
        ending.response.status = 201 ∧ ending.sent.length = 1 := by
  have hconfig := ofConfig_plain loopback
  obtain ⟨hends, hjudged, -⟩ := judged hconfig (Visit.plain accepting) rfl rfl
  have hend := hends ⟨_, List.Sublist.refl _⟩
  obtain ⟨ending, hverdict, -, hreplies, -, hcalls, -⟩ := hjudged hend
  have hpatient : ((Visit.plain accepting).course (plainGateway loopback)).impatience = none := by
    decide +kernel
  have hstatus : (Effect.replies ((Visit.plain accepting).own (plainGateway loopback))).map
      (fun r => r.2.status) = [201] := by
    decide +kernel
  have hlength :
      (Effect.calls ((Visit.plain accepting).own (plainGateway loopback))).length = 1 := by
    decide +kernel
  refine ⟨hconfig, hend, ending, hverdict, ?_, ?_⟩
  · rw [hreplies hpatient] at hstatus
    exact (List.cons.inj hstatus).1
  · rw [← hcalls, hlength]

/-- It is not so that a request leaves whenever the signature is there: nothing is sent over `ftp`,
though an address may start with it. -/
theorem not_sent_whenever_signed :
    ¬∀ (c : Config) (shows : Bool) (g : Gateway) (v : Visit), ofConfig c shows = .ok g →
      v.request.method = "POST" → v.request.target.path = "/api/v1/purge" → v.Ended g →
        (Effect.calls (v.own g) ≠ [] ↔ ∃ outbound ∈ Effect.asks (v.own g),
          ∃ signed, (v.course g).signer outbound = .ok signed) := by
  intro h
  have hend : (Visit.plain accepting).Ended (plainGateway "ftp://[::1]") :=
    ended_of_sublist (List.Sublist.refl _)
  have hsome :
      ((Visit.plain accepting).course (plainGateway "ftp://[::1]")).forwarded.isSome = true := by
    decide +kernel
  have hnone : Effect.calls ((Visit.plain accepting).own (plainGateway "ftp://[::1]")) = [] := by
    decide +kernel
  obtain ⟨signed, hforwarded⟩ := Option.isSome_iff_exists.mp hsome
  obtain ⟨outbound, hasked, hsigned⟩ := signed_of_forwarded hforwarded
  refine (h _ true _ _ (ofConfig_plain "ftp://[::1]") rfl rfl hend).mpr
    ⟨outbound, ?_, signed, hsigned⟩ hnone
  rw [(handedOut_own _ _).1, hasked]
  exact List.mem_singleton_self outbound

end Visit

end PurgeGateway.Gateway
