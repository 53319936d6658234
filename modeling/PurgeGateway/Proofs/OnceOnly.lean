import PurgeGateway.Proofs.Sending
import PurgeGateway.Proofs.Visit

/-!
# One request for one purge call

A purge call should lead to one request to the invalidation API, the one that was signed. It does,
unless the first answer to that sends it elsewhere: the answer is followed, and what was signed goes
on to another address.

## Main definitions

* `Visit.SendsSignedOnly`: for a request nothing leaves, or only what was signed for it.
* `Visit.Diverted`: the first answer to what was signed leads elsewhere.

## Main results

* `Signing.of_sign`: what a signature leaves of a request.
* `Visit.sendsSignedOnly_iff`: when exactly there is one request for one call.
-/

namespace PurgeGateway

/-- **A signature leaves a request as it is**, but for the header field that holds it. -/
theorem Signing.of_sign {file : Option (List UInt8)} {stamp : Stamp} {order : Nested.Order}
    {r signed : Outbound} (h : Signing.sign file stamp r order = .ok signed) :
    ∃ value, signed = { r with headers := r.headers.set "authorization" value } := by
  rw [sign] at h
  split at h
  · cases h
  · split at h
    · cases h
    · rw [authorize] at h
      split at h
      · exact ⟨_, (Except.ok.inj h).symm⟩
      · cases h

namespace Gateway.Visit

/-- Nothing leaves for a request but the one that its own fields and body are routed to, signed by
the signer that was asked, and that leaves once at most. -/
def SendsSignedOnly (v : Visit) (g : Gateway) : Prop :=
  Effect.calls (v.own g) = [] ∨ ∃ request outbound signed,
    Routed g.api v.request.headers v.request.body request outbound ∧
      (v.course g).signer outbound = .ok signed ∧ Effect.calls (v.own g) = [signed]

/-- The first answer to what was signed for a request sends it elsewhere, and that reaches a
peer. -/
def Diverted (v : Visit) (g : Gateway) : Prop :=
  ∃ signed, (v.course g).forwarded = some signed ∧ (v.course g).peers.Diverts signed

variable {v : Visit} {g : Gateway}

theorem calls_of_forwarded {signed : Outbound} (h : (v.course g).forwarded = some signed) :
    Effect.calls (v.own g) = ((v.course g).peers.send signed).calls := by
  rw [(handedOut_own v g).2, Course.calls, h]

theorem calls_of_not_forwarded (h : (v.course g).forwarded = none) :
    Effect.calls (v.own g) = [] := by
  rw [(handedOut_own v g).2, Course.calls, h]

/-- What was signed and is not diverted leaves if it reaches a peer, and nothing else does. -/
theorem calls_of_not_diverted {signed : Outbound} (h : (v.course g).forwarded = some signed)
    (hdiverted : ¬v.Diverted g) :
    Effect.calls (v.own g) = if (v.course g).peers.reaches signed.url && signed.url.isSendable
      then [signed] else [] := by
  have hstays : ¬(v.course g).peers.Diverts signed := fun hdiverts =>
    hdiverted ⟨signed, h, hdiverts⟩
  rw [calls_of_forwarded h, Peers.calls_send_of_not_diverts hstays, Bool.and_comm]

/-- **When exactly there is one request for one call.** Take a request that comes to a gateway, with
anything before it and anything behind it in any order.

* Only what was signed for it leaves, and that once at most, if and only if the first answer to it
  does not lead elsewhere.
* If it does not, what was signed leaves whenever it can be sent and reaches a peer.
* If the signer is the one that takes its credentials from a file, what leaves then has the method,
  the URL and the body of the request that the call is routed to. -/
theorem sendsSignedOnly_iff (v : Visit) (g : Gateway) :
    (v.SendsSignedOnly g ↔ ¬v.Diverted g) ∧
      (¬v.Diverted g →
        (∀ signed, (v.course g).forwarded = some signed → signed.url.isSendable = true →
          (v.course g).peers.reaches signed.url = true → Effect.calls (v.own g) = [signed]) ∧
        ∀ file stamp order, (v.course g).signer = Signer.ofFile stamp order file →
          ∀ call ∈ Effect.calls (v.own g), ∃ request outbound,
            Routed g.api v.request.headers v.request.body request outbound ∧
              call.method = outbound.method ∧ call.url = outbound.url ∧
                call.body = outbound.body) := by
  have honly : ¬v.Diverted g → v.SendsSignedOnly g := by
    intro hdiverted
    cases h : (v.course g).forwarded with
    | none => exact .inl (calls_of_not_forwarded h)
    | some signed =>
      obtain ⟨outbound, hasked, hsigned⟩ := signed_of_forwarded h
      obtain ⟨-, request, hrouted⟩ := routed_of_asked hasked
      rw [SendsSignedOnly, calls_of_not_diverted h hdiverted]
      split
      · exact .inr ⟨request, outbound, signed, hrouted, hsigned, rfl⟩
      · exact .inl rfl
  refine ⟨⟨?_, honly⟩, fun hdiverted => ⟨?_, ?_⟩⟩
  · rintro hsends ⟨signed, h, hdiverts⟩
    have hlength : (Effect.calls (v.own g)).length ≤ 1 := by
      rcases hsends with hnone | ⟨_, _, _, _, _, hone⟩
      · rw [hnone]; exact Nat.zero_le 1
      · rw [hone]; exact Nat.le_refl 1
    rw [calls_of_forwarded h] at hlength
    exact (Peers.length_calls_send_le_one_iff _ _).mp hlength hdiverts
  · intro signed h hsendable hreached
    rw [calls_of_not_diverted h hdiverted, hsendable, hreached]
    rfl
  · intro file stamp order hsigner call hcall
    rcases honly hdiverted with hnone | ⟨request, outbound, signed, hrouted, hsigned, hone⟩
    · rw [hnone] at hcall
      cases hcall
    · rw [hone, List.mem_singleton] at hcall
      rw [hsigner] at hsigned
      obtain ⟨value, hvalue⟩ := Signing.of_sign hsigned
      refine ⟨request, outbound, hrouted, ?_⟩
      rw [hcall, hvalue]
      exact ⟨rfl, rfl, rfl⟩

/-- Peers that are reached everywhere, of which the first sends what it gets to another path. -/
def diverting : Peers where
  reaches := fun _ => true
  api := [.answers { status := 307, headers := [⟨"location", Utf8.bytes "/other"⟩] }]

/-- It is not so that only what was signed leaves: an answer with the status 307 has the signed
request posted again, to the path that the answer names. -/
theorem sent_elsewhere :
    ofConfig (plainConfig loopback) true = .ok (plainGateway loopback) ∧
      (Effect.calls ((Visit.plain diverting).own (plainGateway loopback))).map
          (fun r => (r.method, r.url.path, r.body))
        = [("POST", "/ccu/v3/invalidate/url/staging",
            some (.buffered (Utf8.bytes "\x7b\"objects\":[\"/a.jpg\"]\x7d"))),
          ("POST", "/other",
            some (.buffered (Utf8.bytes "\x7b\"objects\":[\"/a.jpg\"]\x7d")))] ∧
      ¬(Visit.plain diverting).SendsSignedOnly (plainGateway loopback) := by
  have hcalls : (Effect.calls ((Visit.plain diverting).own (plainGateway loopback))).map
      (fun r => (r.method, r.url.path, r.body))
    = [("POST", "/ccu/v3/invalidate/url/staging",
        some (.buffered (Utf8.bytes "\x7b\"objects\":[\"/a.jpg\"]\x7d"))),
      ("POST", "/other",
        some (.buffered (Utf8.bytes "\x7b\"objects\":[\"/a.jpg\"]\x7d")))] := by
    decide +kernel
  refine ⟨ofConfig_plain _, hcalls, ?_⟩
  have hlength := congrArg List.length hcalls
  rw [List.length_map] at hlength
  rintro (hnone | ⟨_, _, _, _, _, hone⟩)
  · rw [hnone] at hlength
    cases hlength
  · rw [hone] at hlength
    cases hlength

end Gateway.Visit

end PurgeGateway
