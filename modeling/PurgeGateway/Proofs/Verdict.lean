import PurgeGateway.Proofs.Course
import PurgeGateway.Proofs.Sending

/-!
# The verdict on a purge call

A purge call is judged in stages, and the first stage that it fails decides what its caller is told.
The stages are the size of the body, the content type, the body, the purge type, the address, the
signature, the transport and the answer of the invalidation API. What comes behind the failing stage
does not happen: nothing is asked of the signer before the address stands, and nothing leaves before
the signature is there.

`Verdict` says this as rules, one for each stage that can fail and one for the call that goes
through, without a word of turns, moves or other requests.

## Main definitions

* `Ending`: what a purge call comes to.
* `Verdict`: the rules.

## Main results

* `exists_verdict`: there is a rule for every call.
* `Verdict.asked_iff`, `Verdict.head?_sent_iff`: when a signature is asked for, and when a request
  leaves.
-/

namespace PurgeGateway.Gateway

/-! ### The rules -/

/-- What a purge call comes to: what its caller is told, the request that a signature was asked for,
and the requests that left. -/
structure Ending where
  response : Http.Response
  asked : Option Outbound := none
  sent : List Outbound := []

/-- The reply that tells of a failure. -/
def failure (status : Nat) (message : String) : Http.Response :=
  jsonResponse status (.object [("error", .text message)])

/-- The address that a request of a kind is routed to, under the address of the API. -/
def routedAddress (api : String) (request : Purge.Request) (kind : Purge.Kind) : String :=
  Text.trimEndOf '/' api ++ "/ccu/v3/" ++ request.action.name ++ "/" ++ kind.segment ++ "/"
    ++ request.network.name

/-- The end that a purge call comes to. A body may have so many bytes, the addresses of the API
start with the given text, and the signer and the peers are those that the call meets. -/
inductive Verdict (limit : Nat) (api : String) (call : Http.Request)
    (signer : Outbound → Except Signing.Error Outbound) (peers : Peers) : Ending → Prop
  | tooLarge (hsize : limit < call.body.length) :
    Verdict limit api call signer peers
      { response := failure 413
          ("Payload too large: max " ++ Ascii.decimal limit ++ " bytes allowed") }
  | contentType (hsize : call.body.length ≤ limit)
      (hcontent : Purge.acceptsContentType call.headers = false) :
    Verdict limit api call signer peers { response := failure 400 "Invalid content type" }
  | payload {fault : Purge.PayloadFault} (hsize : call.body.length ≤ limit)
      (hcontent : Purge.acceptsContentType call.headers = true)
      (hpayload : Purge.Request.ofBytes call.body = .error fault) :
    Verdict limit api call signer peers { response := failure 400 "Invalid request payload" }
  | purgeType {request : Purge.Request} (hsize : call.body.length ≤ limit)
      (hcontent : Purge.acceptsContentType call.headers = true)
      (hpayload : Purge.Request.ofBytes call.body = .ok request)
      (hurls : request.purgeType ≠ "urls") (htags : request.purgeType ≠ "cache-tags") :
    Verdict limit api call signer peers { response := failure 400 "Invalid purge type" }
  | address {request : Purge.Request} {kind : Purge.Kind} (hsize : call.body.length ≤ limit)
      (hcontent : Purge.acceptsContentType call.headers = true)
      (hpayload : Purge.Request.ofBytes call.body = .ok request)
      (hkind : Purge.Kind.ofText? request.purgeType = some kind)
      (hto : Purge.Stage.outbound? request (routedAddress api request kind) = none) :
    Verdict limit api call signer peers
      { response := failure 500 "Failed to communicate with Akamai" }
  | signature {request : Purge.Request} {outbound : Outbound} {e : Signing.Error}
      (hsize : call.body.length ≤ limit)
      (hrouted : Routed api call.headers call.body request outbound)
      (hsign : signer outbound = .error e) :
    Verdict limit api call signer peers
      { response := failure 500 "Failed to sign the request with given credentials"
        asked := some outbound }
  | transport {request : Purge.Request} {outbound signed : Outbound}
      (hsize : call.body.length ≤ limit)
      (hrouted : Routed api call.headers call.body request outbound)
      (hsign : signer outbound = .ok signed) (hsend : (peers.send signed).answer = none) :
    Verdict limit api call signer peers
      { response := failure 500 "Failed to communicate with Akamai"
        asked := some outbound, sent := (peers.send signed).calls }
  | decoding {request : Purge.Request} {outbound signed : Outbound} {answer : Http.Reply}
      (hsize : call.body.length ≤ limit)
      (hrouted : Routed api call.headers call.body request outbound)
      (hsign : signer outbound = .ok signed) (hsend : (peers.send signed).answer = some answer)
      (hdecode : answer.body.whole?.bind Purge.Result.ofBytes? = none) :
    Verdict limit api call signer peers
      { response := failure 500 "Failed to decode Akamai response"
        asked := some outbound, sent := (peers.send signed).calls }
  | relayed {request : Purge.Request} {outbound signed : Outbound} {answer : Http.Reply}
      {result : Purge.Result} (hsize : call.body.length ≤ limit)
      (hrouted : Routed api call.headers call.body request outbound)
      (hsign : signer outbound = .ok signed) (hsend : (peers.send signed).answer = some answer)
      (hdecode : answer.body.whole?.bind Purge.Result.ofBytes? = some result) :
    Verdict limit api call signer peers
      { response := jsonResponse answer.status result.toJson
        asked := some outbound, sent := (peers.send signed).calls }

section
variable {limit : Nat} {api : String} {call : Http.Request}
  {signer : Outbound → Except Signing.Error Outbound} {peers : Peers} {ending : Ending}
  {request : Purge.Request} {outbound : Outbound}

/-! ### What is routed -/

theorem Routed.exists_kind {headers : Http.Headers} {body : List UInt8}
    (h : Routed api headers body request outbound) :
    ∃ kind, Purge.Kind.ofText? request.purgeType = some kind ∧
      Purge.Stage.outbound? request (routedAddress api request kind) = some outbound := by
  obtain ⟨address, hurl, hto⟩ := Option.bind_eq_some_iff.mp h.address
  obtain ⟨kind, hkind, rfl⟩ := Option.map_eq_some_iff.mp hurl
  exact ⟨kind, hkind, by simpa only [routedAddress] using hto⟩

theorem routed_of_kind {headers : Http.Headers} {body : List UInt8} {kind : Purge.Kind}
    (hcontent : Purge.acceptsContentType headers = true)
    (hpayload : Purge.Request.ofBytes body = .ok request)
    (hkind : Purge.Kind.ofText? request.purgeType = some kind)
    (hto : Purge.Stage.outbound? request (routedAddress api request kind) = some outbound) :
    Routed api headers body request outbound :=
  ⟨hcontent, hpayload, by
    simpa only [Purge.Request.url?, hkind, Option.map_some, Option.bind_some, routedAddress]
      using hto⟩

/-- A call is routed in one way only. -/
theorem Routed.unique {headers : Http.Headers} {body : List UInt8} {other : Purge.Request}
    {elsewhere : Outbound} (h : Routed api headers body request outbound)
    (h' : Routed api headers body other elsewhere) :
    request = other ∧ outbound = elsewhere := by
  obtain rfl : request = other := Except.ok.inj (h.payload.symm.trans h'.payload)
  exact ⟨rfl, Option.some.inj (h.address.symm.trans h'.address)⟩

/-- A purge type that is none of the two names no kind. -/
theorem kind_of_ne (hurls : request.purgeType ≠ "urls") (htags : request.purgeType ≠ "cache-tags") :
    Purge.Kind.ofText? request.purgeType = none := by
  rw [Purge.Kind.ofText?, if_neg hurls, if_neg htags]

/-! ### The rules taken together -/

private theorem asked_some_iff {elsewhere : Outbound} (hsize : call.body.length ≤ limit)
    (hrouted : Routed api call.headers call.body request outbound) :
    some outbound = some elsewhere ↔ call.body.length ≤ limit ∧
      ∃ request, Routed api call.headers call.body request elsewhere := by
  constructor
  · intro h
    obtain rfl := Option.some.inj h
    exact ⟨hsize, request, hrouted⟩
  · rintro ⟨_, other, hother⟩
    rw [(hrouted.unique hother).2]

private theorem head?_sent_some_iff {signed first : Outbound}
    (hsign : signer outbound = .ok signed) :
    (peers.send signed).calls.head? = some first ↔ ∃ o, some outbound = some o ∧
      signer o = .ok first ∧ first.url.isSendable = true ∧ peers.reaches first.url = true := by
  rw [Peers.head?_calls_send, Peers.isSome_react]
  constructor
  · intro h
    split at h
    · next hreached =>
      obtain rfl := Option.some.inj h
      rw [Bool.and_eq_true] at hreached
      exact ⟨outbound, rfl, hsign, hreached⟩
    · cases h
  · rintro ⟨o, ho, hok, hsendable, hreached⟩
    obtain rfl := Option.some.inj ho
    obtain rfl := Except.ok.inj (hsign.symm.trans hok)
    rw [hsendable, hreached]
    rfl

/-- There is a rule for every call. -/
theorem exists_verdict (limit : Nat) (api : String) (call : Http.Request)
    (signer : Outbound → Except Signing.Error Outbound) (peers : Peers) :
    ∃ ending, Verdict limit api call signer peers ending := by
  rcases Nat.lt_or_ge limit call.body.length with hsize | hsize
  · exact ⟨_, .tooLarge hsize⟩
  cases hcontent : Purge.acceptsContentType call.headers with
  | false => exact ⟨_, .contentType hsize hcontent⟩
  | true =>
  cases hpayload : Purge.Request.ofBytes call.body with
  | error fault => exact ⟨_, .payload hsize hcontent hpayload⟩
  | ok request =>
  cases hkind : Purge.Kind.ofText? request.purgeType with
  | none =>
    have hurls : request.purgeType ≠ "urls" := by
      intro h
      rw [h] at hkind
      cases hkind
    have htags : request.purgeType ≠ "cache-tags" := by
      intro h
      rw [h] at hkind
      cases hkind
    exact ⟨_, .purgeType hsize hcontent hpayload hurls htags⟩
  | some kind =>
  cases hto : Purge.Stage.outbound? request (routedAddress api request kind) with
  | none => exact ⟨_, .address hsize hcontent hpayload hkind hto⟩
  | some outbound =>
  have hrouted : Routed api call.headers call.body request outbound :=
    routed_of_kind hcontent hpayload hkind hto
  cases hsign : signer outbound with
  | error e => exact ⟨_, .signature hsize hrouted hsign⟩
  | ok signed =>
  cases hsend : (peers.send signed).answer with
  | none => exact ⟨_, .transport hsize hrouted hsign hsend⟩
  | some answer =>
  cases hdecode : answer.body.whole?.bind Purge.Result.ofBytes? with
  | none => exact ⟨_, .decoding hsize hrouted hsign hsend hdecode⟩
  | some result => exact ⟨_, .relayed hsize hrouted hsign hsend hdecode⟩

/-- **A signature is asked for if and only if every stage before it was passed**, and then for the
request that the call is routed to. -/
theorem Verdict.asked_iff (h : Verdict limit api call signer peers ending) :
    ending.asked = some outbound ↔ call.body.length ≤ limit ∧
      ∃ request, Routed api call.headers call.body request outbound := by
  cases h with
  | tooLarge hsize =>
    refine iff_of_false (by simp) ?_
    rintro ⟨hfits, _⟩
    omega
  | contentType hsize hcontent =>
    refine iff_of_false (by simp) ?_
    rintro ⟨_, _, hrouted⟩
    exact absurd hrouted.contentType (by simp [hcontent])
  | payload hsize hcontent hpayload =>
    refine iff_of_false (by simp) ?_
    rintro ⟨_, _, hrouted⟩
    exact absurd hrouted.payload (by simp [hpayload])
  | purgeType hsize hcontent hpayload hurls htags =>
    refine iff_of_false (by simp) ?_
    rintro ⟨_, other, hrouted⟩
    obtain ⟨kind, hkind, _⟩ := hrouted.exists_kind
    obtain rfl := Except.ok.inj (hpayload.symm.trans hrouted.payload)
    rw [kind_of_ne hurls htags] at hkind
    cases hkind
  | address hsize hcontent hpayload hkind hto =>
    refine iff_of_false (by simp) ?_
    rintro ⟨_, other, hrouted⟩
    obtain ⟨kind, hother, hrouted'⟩ := hrouted.exists_kind
    obtain rfl := Except.ok.inj (hpayload.symm.trans hrouted.payload)
    obtain rfl := Option.some.inj (hkind.symm.trans hother)
    rw [hto] at hrouted'
    cases hrouted'
  | signature hsize hrouted =>
    exact asked_some_iff hsize hrouted
  | transport hsize hrouted =>
    exact asked_some_iff hsize hrouted
  | decoding hsize hrouted =>
    exact asked_some_iff hsize hrouted
  | relayed hsize hrouted =>
    exact asked_some_iff hsize hrouted

/-- **A request leaves if and only if it was signed and can be sent to a peer that is reached**, and
the first that leaves is the signed one. -/
theorem Verdict.head?_sent_iff {signed : Outbound}
    (h : Verdict limit api call signer peers ending) :
    ending.sent.head? = some signed ↔ ∃ outbound, ending.asked = some outbound ∧
      signer outbound = .ok signed ∧ signed.url.isSendable = true ∧
        peers.reaches signed.url = true := by
  cases h with
  | tooLarge | contentType | payload | purgeType | address => simp
  | signature hsize hrouted hsign => simp [hsign]
  | transport hsize hrouted hsign => exact head?_sent_some_iff hsign
  | decoding hsize hrouted hsign => exact head?_sent_some_iff hsign
  | relayed hsize hrouted hsign => exact head?_sent_some_iff hsign

end

end PurgeGateway.Gateway
