import PurgeGateway.Proofs.Accounts
import PurgeGateway.Proofs.Truthful

/-!
# How failures are told

A caller is told of a failure in one way: a JSON object with one text under `error`. There are five
causes: the time is up, a body is too large, the path is none that is served, the metrics are not
shown, or a purge call failed. What the text says depends on the cause alone, and on the limit for
bodies that are too large. Nothing of the request, of the credentials, of the signer or of the
invalidation API gets into it.

A method that the route does not have is the exception. It is answered with a status and no body at
all; and whoever else is told of a failure on such a route is told in addition which methods there
are, since that is put into every reply behind the other layers.

## Main definitions

* `TellsFailure`: the shape of a reply that tells of a failure.
* `Visit.Fails`: the causes.
* `Visit.Refused`: the route does not have the method of the request.

## Main results

* `tellsFailure_outside`: the answer to a failure has the shape.
* `Visit.heard_cases`: what a caller can be told.
* `Visit.fails_alike_iff`: which failures have the shape, and what it depends on.
-/

namespace PurgeGateway.Gateway

variable {g : Gateway}

/-! ### The shape -/

/-- The reply tells of a failure by a text: its only content type is JSON, and its body is a JSON
object with that text under `error` and nothing else. -/
structure TellsFailure (text : String) (reply : Http.Reply) : Prop where
  contentType : reply.headers.filter (·.name == "content-type") = [jsonHeader]
  body : ∃ bytes, reply.body.whole? = some bytes ∧
    Json.read? bytes = some (.object [("error", .text text)])

theorem filter_contentType_addedOutside (request : Http.Request) :
    (addedOutside request).filter (·.name == "content-type") = [] := by
  rw [addedOutside]
  split <;> rfl

/-- **The answer to a failure has the shape**, whatever is put into it on the way out. -/
theorem tellsFailure_outside {request : Http.Request} (hhead : request.method ≠ "HEAD")
    (e : Error) : TellsFailure e.message (outside request (.ofResponse e.response)) := by
  have hbody : e.response.body = Utf8.bytes (Json.object [("error", .text e.message)]).compact := by
    rw [Error.response, jsonResponse]
  have hheaders : e.response.headers = [jsonHeader] := by
    rw [Error.response, jsonResponse]
  rw [outside_ofResponse hhead]
  refine ⟨?_, _, Http.Stream.whole?_ofBytes _, ?_⟩
  · rw [Http.Reply.ofResponse]
    dsimp only
    rw [hheaders, List.filter_append, filter_contentType_addedOutside]
    rfl
  · rw [hbody]
    refine Json.read?_compact (Json.Legible.object fun m hm => ?_)
    rw [List.mem_singleton.mp hm]
    exact .text 126 e.message

/-- A method that is refused is told without that shape. -/
theorem not_tellsFailure_wrongMethodReply {request : Http.Request} (text : String) :
    ¬TellsFailure text (outside request wrongMethodReply) := by
  intro h
  obtain ⟨bytes, hwhole, hread⟩ := h.body
  have hempty : (outside request wrongMethodReply).body.whole? = some [] := by
    rw [outside, withoutBody, withAllow]
    split <;> split <;> rfl
  rw [hempty, Option.some.injEq] at hwhole
  rw [← hwhole, show Json.read? [] = none from rfl] at hread
  cases hread

/-! ### The causes -/

namespace Visit

/-- The access log lets the request in. -/
def IsAdmitted (v : Visit) (g : Gateway) : Prop :=
  g.log.enabled = true → v.request.body.length ≤ g.limit

/-- Why the caller of a request is told of a failure. -/
inductive Fails (v : Visit) (g : Gateway) : Error → Prop
  | late (h : (v.course g).impatience = some .timesOut) : Fails v g .timeout
  | tooLarge (h : g.log.enabled = true ∨ destination v.request = .route .purge)
      (hsize : g.limit < v.request.body.length) : Fails v g (.payloadTooLarge g.limit)
  | nowhere (h : v.IsAdmitted g) (hroute : destination v.request = .nowhere) :
      Fails v g .notFound
  | hidden (h : v.IsAdmitted g) (hroute : destination v.request = .route .metrics)
      (hshows : g.showsMetrics = false) : Fails v g .notFound
  | call {e : Purge.Error} (h : (v.course g).impatience = none)
      (houtcome : v.outcome? g = some (.error e)) : Fails v g (.purge e)

/-- The route of the request does not have its method. -/
structure Refused (v : Visit) (g : Gateway) : Prop where
  admitted : v.IsAdmitted g
  route : ∃ r, destination v.request = .wrongMethod r

/-- The caller is told what the invalidation API answered. -/
structure PassedOn (v : Visit) (g : Gateway) : Prop where
  patient : (v.course g).impatience = none
  outcome : ∃ relay, v.outcome? g = some (.ok relay)

/-- The response to a request at its arrival. -/
def atOnce (v : Visit) (g : Gateway) : Option Http.Response :=
  if g.log.enabled && decide (g.limit < v.request.body.length) then
    some (Error.payloadTooLarge g.limit).response
  else g.answer? v.clock { v.before g with arrived := v.number g + 1 } v.request

variable {v : Visit}

/-! ### What is heard -/

theorem replies_told (id : Nat) (request : Http.Request) (answered : Option Http.Response) :
    Effect.replies (answered.toList.map (told id request))
      = answered.toList.map fun r => (id, outside request (.ofResponse r)) := by
  cases answered <;> rfl

theorem heard_of_not_handsOver (hlog : g.log.limit = g.limit)
    (hand : g.handsOver v.request = false) :
    v.heard g = (v.atOnce g).toList.map fun r => outside v.request (.ofResponse r) := by
  rw [heard_eq, own_of_not_handsOver hand, ← Effect.replies_visible, visible_arrive hlog, atOnce]
  split
  · rfl
  · rw [replies_told, List.map_map]
    rfl

theorem heard_of_handsOver (hand : g.handsOver v.request = true) :
    v.heard g = match (v.course g).impatience, v.outcome? g with
      | some .leaves, _ => []
      | some .timesOut, _ => [outside v.request (.ofResponse Error.timeout.response)]
      | none, some outcome => [outside v.request (.ofResponse (outcomeResponse outcome))]
      | none, none => [] := by
  rw [heard_eq, own_of_handsOver hand, replies_takeAll v.request (v.turns g) rfl,
    course_of_handsOver hand, outcome?, if_pos hand]
  cases (courseOf g v.received (v.turns g)).impatience with
  | some i => cases i <;> rfl
  | none => cases (follow g v.received (v.turns g)).1.outcome? <;> rfl

theorem course_of_not_handsOver (hand : g.handsOver v.request = false) : v.course g = {} := by
  rw [course, hand]
  rfl

theorem outcome?_of_not_handsOver (hand : g.handsOver v.request = false) :
    v.outcome? g = none := by
  rw [outcome?, hand]
  rfl

/-- A request that was not admitted is told at once that its body is too large. -/
theorem atOnce_of_large (hlarge : g.log.enabled = true ∧ g.limit < v.request.body.length) :
    v.atOnce g = some (Error.payloadTooLarge g.limit).response := by
  rw [atOnce, if_pos (by simpa using hlarge)]

theorem atOnce_of_admitted (h : v.IsAdmitted g) :
    v.atOnce g = g.answer? v.clock { v.before g with arrived := v.number g + 1 } v.request := by
  rw [atOnce, if_neg]
  simpa [IsAdmitted] using h

/-- **The caller is told of a failure**, whatever the cause, and of nothing else. -/
theorem heard_of_fails (hlog : g.log.limit = g.limit) {e : Error} (h : v.Fails g e) :
    v.heard g = [outside v.request (.ofResponse e.response)] := by
  cases hand : g.handsOver v.request with
  | true =>
    obtain ⟨hroute, hsize⟩ := destination_of_handsOver hand
    rw [heard_of_handsOver hand]
    cases h with
    | late himpatience => rw [himpatience]
    | tooLarge _ hlarge => exact absurd hsize (Nat.not_le.mpr hlarge)
    | nowhere _ hother => rw [hroute] at hother; cases hother
    | hidden _ hother => rw [hroute] at hother; cases hother
    | call himpatience houtcome => rw [himpatience, houtcome]; rfl
  | false =>
    rw [heard_of_not_handsOver hlog hand]
    have hroute : destination v.request = .route .purge →
        g.limit < v.request.body.length := by
      intro hroute
      rw [handsOver_eq hlog, hroute] at hand
      simpa using hand
    have hnever : (v.course g).impatience = none := by rw [course_of_not_handsOver hand]
    cases h with
    | late himpatience => rw [hnever] at himpatience; cases himpatience
    | tooLarge hwhere hlarge =>
      by_cases hadmitted : v.IsAdmitted g
      · have hpurge : destination v.request = .route .purge :=
          hwhere.resolve_left fun hon => absurd (hadmitted hon) (Nat.not_le.mpr hlarge)
        rw [atOnce_of_admitted hadmitted, Gateway.answer?, hpurge]
        simp [hlarge]
      · rw [atOnce_of_large]
        · rfl
        · simpa [IsAdmitted] using hadmitted
    | nowhere hadmitted hroute =>
      rw [atOnce_of_admitted hadmitted, Gateway.answer?, hroute]
      rfl
    | hidden hadmitted hroute hshows =>
      rw [atOnce_of_admitted hadmitted, Gateway.answer?, hroute]
      simp [showMetrics, hshows]
    | call _ houtcome => rw [outcome?_of_not_handsOver hand] at houtcome; cases houtcome

/-- A caller whose method is refused is told the status alone. -/
theorem heard_of_refused (hlog : g.log.limit = g.limit) (h : v.Refused g) :
    v.heard g = [outside v.request wrongMethodReply] := by
  obtain ⟨r, hroute⟩ := h.route
  have hand : g.handsOver v.request = false := by
    rw [handsOver_eq hlog, hroute]
    rfl
  rw [heard_of_not_handsOver hlog hand, atOnce_of_admitted h.admitted, Gateway.answer?, hroute]
  rfl

/-- **What a caller can be told**: of a failure, that the method is refused, what the invalidation
API answered, or something with the status of success. -/
theorem heard_cases (hlog : g.log.limit = g.limit) {reply : Http.Reply}
    (h : reply ∈ v.heard g) :
    (∃ e, v.Fails g e) ∨ v.Refused g ∨ v.PassedOn g ∨ reply.status = 200 := by
  cases hand : g.handsOver v.request with
  | true =>
    rw [heard_of_handsOver hand] at h
    cases himpatience : (v.course g).impatience with
    | some i =>
      cases i with
      | leaves => rw [himpatience] at h; cases h
      | timesOut => exact .inl ⟨_, .late himpatience⟩
    | none =>
      cases houtcome : v.outcome? g with
      | none => rw [himpatience, houtcome] at h; cases h
      | some outcome =>
        cases outcome with
        | error e => exact .inl ⟨_, .call himpatience houtcome⟩
        | ok relay => exact .inr (.inr (.inl ⟨himpatience, relay, houtcome⟩))
  | false =>
    by_cases hadmitted : v.IsAdmitted g
    · have hwell : ∀ r : Http.Response, v.atOnce g = some r → r.status = 200 →
          reply.status = 200 := by
        intro r honce hstatus
        rw [heard_of_not_handsOver hlog hand, honce] at h
        rw [List.mem_singleton.mp h, status_outside]
        exact hstatus
      have honce := atOnce_of_admitted hadmitted
      rw [Gateway.answer?] at honce
      rcases hroute : destination v.request with (_ | _ | _) | r | _
      · refine .inl ⟨_, .tooLarge (.inr hroute) ?_⟩
        rw [handsOver_eq hlog, hroute] at hand
        simpa using hand
      · rw [hroute] at honce
        exact .inr (.inr (.inr (hwell _ honce rfl)))
      · rw [hroute, showMetrics] at honce
        cases hshows : g.showsMetrics with
        | false => exact .inl ⟨_, .hidden hadmitted hroute hshows⟩
        | true => exact .inr (.inr (.inr (hwell _ honce (by rw [hshows]; rfl))))
      · exact .inr (.inl ⟨hadmitted, r, hroute⟩)
      · exact .inl ⟨_, .nowhere hadmitted hroute⟩
    · have hlarge : g.log.enabled = true ∧ g.limit < v.request.body.length := by
        simpa [IsAdmitted] using hadmitted
      exact .inl ⟨_, .tooLarge (.inl hlarge.1) hlarge.2⟩

/-- **Failures are told alike.** Take a gateway of any configuration and a request that does not ask
for the head alone, in any run of the gateway, with any signer and any answers of the invalidation
API. Say that its caller is told something with the status of a failure that is not what the
invalidation API answered.

* If the method was refused, what the caller is told has not the shape of a failure.
* In all other cases it has. There is a cause, and it decides the status and the text.

What a caller is told of a failure with a given cause is the answer to that failure, with the
methods of the route added if the request has none of them. So two callers with the same cause, of
any gateways, are told the same if and only if the same is added for both. -/
theorem fails_alike_iff {c : Config} {shows : Bool} {g : Gateway}
    (hg : ofConfig c shows = .ok g) (v : Visit) (hhead : v.request.method ≠ "HEAD") :
    (∀ reply ∈ v.heard g, 400 ≤ reply.status → ¬v.PassedOn g →
      (v.Refused g → ∀ text, ¬TellsFailure text reply) ∧
        (¬v.Refused g → ∃ e, v.Fails g e ∧ reply.status = e.status ∧
          TellsFailure e.message reply)) ∧
    (∀ e, v.Fails g e →
      v.heard g = [.ofResponse
        { e.response with headers := e.response.headers ++ addedOutside v.request }] ∧
      ∀ (c' : Config) (shows' : Bool) (g' : Gateway) (v' : Visit), ofConfig c' shows' = .ok g' →
        v'.request.method ≠ "HEAD" → v'.Fails g' e →
          (v'.heard g' = v.heard g ↔ addedOutside v'.request = addedOutside v.request)) := by
  have hlog : g.log.limit = g.limit := log_limit_of_ofConfig hg
  refine ⟨fun reply hreply hstatus hnot => ⟨fun hrefused text => ?_, fun hallowed => ?_⟩,
    fun e hfails => ⟨?_, fun c' shows' g' v' hg' hhead' hfails' => ?_⟩⟩
  · rw [heard_of_refused hlog hrefused] at hreply
    rw [List.mem_singleton.mp hreply]
    exact not_tellsFailure_wrongMethodReply text
  · rcases heard_cases hlog hreply with ⟨e, hfails⟩ | hrefused | hpassed | hwell
    · rw [heard_of_fails hlog hfails] at hreply
      obtain rfl := List.mem_singleton.mp hreply
      exact ⟨e, hfails, status_outside _ _, tellsFailure_outside hhead e⟩
    · exact absurd hrefused hallowed
    · exact absurd hpassed hnot
    · omega
  · rw [heard_of_fails hlog hfails, outside_ofResponse hhead]
  · rw [heard_of_fails (log_limit_of_ofConfig hg') hfails', heard_of_fails hlog hfails,
      outside_ofResponse hhead, outside_ofResponse hhead']
    simp [Http.Reply.ofResponse]

/-- A purge without a content type, with a body of no sense. -/
def untyped : Visit :=
  { plain accepting with request := { purgeOfOne with headers := [], body := [0] } }

/-- A purge of another content type, by a gateway with an access log. -/
def mistyped : Visit :=
  { plain .unreachable with
    request := { purgeOfOne with headers := [⟨"content-type", Utf8.bytes "text/plain"⟩] } }

/-- Two callers of two gateways whose content types are none that is taken are told the same. -/
theorem fails_alike_untyped :
    ofConfig (plainConfig loopback) true = .ok (plainGateway loopback) ∧
      ofConfig ((plainConfig loopback).withLog true) true
        = .ok ((plainGateway loopback).withLog true) ∧
      untyped.request.body ≠ mistyped.request.body ∧
      mistyped.heard ((plainGateway loopback).withLog true)
        = untyped.heard (plainGateway loopback) ∧
      untyped.heard (plainGateway loopback)
        = [.ofResponse (Error.purge .invalidContentType).response] := by
  have hconfig := ofConfig_plain loopback
  have hlogged := ofConfig_withLog hconfig true
  have huntyped : untyped.Fails (plainGateway loopback) (.purge .invalidContentType) :=
    .call (by decide +kernel) (by decide +kernel)
  have hmistyped : mistyped.Fails ((plainGateway loopback).withLog true)
      (.purge .invalidContentType) :=
    .call (by decide +kernel) (by decide +kernel)
  obtain ⟨-, halike⟩ := fails_alike_iff hconfig untyped (by decide)
  obtain ⟨hheard, hsame⟩ := halike _ huntyped
  refine ⟨hconfig, hlogged, by decide, ?_, hheard⟩
  exact (hsame _ _ _ mistyped hlogged (by decide) hmistyped).mpr (by decide)

/-- A request to the route for purges with a method that it does not have. -/
def misdirected : Visit :=
  { plain accepting with request := { target := { path := "/api/v1/purge" } }, moves := [] }

/-- It is not so that every failure is told in one shape: a method that is refused is not. -/
theorem refused_without_shape :
    ¬∀ (c : Config) (shows : Bool) (g : Gateway) (v : Visit) (reply : Http.Reply),
      ofConfig c shows = .ok g → v.request.method ≠ "HEAD" → reply ∈ v.heard g →
        400 ≤ reply.status → ¬v.PassedOn g → ∃ text, TellsFailure text reply := by
  intro h
  have hrefused : misdirected.Refused (plainGateway loopback) :=
    ⟨fun _ => by decide, .purge, by decide⟩
  have hheard := heard_of_refused rfl hrefused
  have hnot : ¬misdirected.PassedOn (plainGateway loopback) := by
    rintro ⟨-, relay, houtcome⟩
    have hnone : misdirected.outcome? (plainGateway loopback) = none := by decide +kernel
    rw [hnone] at houtcome
    cases houtcome
  obtain ⟨text, htells⟩ := h _ true _ misdirected (outside misdirected.request wrongMethodReply)
    (ofConfig_plain loopback) (by decide) (by rw [hheard]; exact List.mem_singleton_self _)
    (by decide) hnot
  exact not_tellsFailure_wrongMethodReply text htells

end Visit

end PurgeGateway.Gateway
