import PurgeGateway.Peers

/-!
# Requests that are sent elsewhere

A request that reaches a peer is sent once, and then again for every answer that sends it elsewhere,
as long as that reaches a peer too. Whether a request is sent once only is decided by the first
answer.

## Main definitions

* `Peers.Diverts`: the first answer to a request leads to another request that reaches a peer.

## Main results

* `Peers.sendUpTo_cases`: what comes of a request, by the first reaction to it.
* `Peers.head?_calls_send`: the first request is the one that was meant.
* `Peers.length_calls_send_le_one_iff`, `calls_send_of_not_diverts`: a request is sent once if and
  only if it is not diverted.
* `Peers.reaches_send`, `Peers.api_send`: what sending leaves alone.
-/

namespace PurgeGateway

/-! ### The method of what follows -/

namespace Outbound

theorem method_onTo (r : Outbound) (url : Net.Url) : (r.onTo url).method = r.method := by
  have hreferer : (r.withReferer url).method = r.method := by
    rw [withReferer]
    split <;> rfl
  rw [onTo]
  split <;> exact hreferer

theorem method_asFetch (r : Outbound) :
    r.asFetch.method = if r.method = "HEAD" then r.method else "GET" :=
  rfl

/-- An answer never turns a request into one that posts. -/
theorem method_of_goes {r again : Outbound} {answer : Http.Reply} (hmethod : r.method ≠ "POST")
    (h : r.next answer = .goes again) : again.method ≠ "POST" := by
  have hfetch : r.asFetch.method ≠ "POST" := by
    rw [method_asFetch]
    split
    · exact hmethod
    · decide
  rw [next] at h
  split at h
  · cases h
  · next same hsame =>
    have hkept : same.method ≠ "POST" := by
      rw [redirected?] at hsame
      split at hsame
      · cases hsame
        exact hfetch
      · split at hsame
        · split at hsame
          · cases hsame
          · cases hsame
            exact hmethod
        · cases hsame
    split at h
    · cases h
    · split at h
      · cases h
        rw [method_onTo]
        exact hkept
      · cases h

end Outbound

namespace Peers

variable {p : Peers} {r : Outbound}

/-- The first answer to a request sends it elsewhere, and that reaches a peer. -/
def Diverts (p : Peers) (r : Outbound) : Prop :=
  ∃ answer rest again, p.react r = some (.answers answer, rest) ∧
    r.next answer = .goes again ∧ (rest.react again).isSome = true

/-- A request is reacted to if its URL can be sent to and reaches a peer. -/
theorem isSome_react : (p.react r).isSome = (r.url.isSendable && p.reaches r.url) := by
  rw [react]
  cases r.url.isSendable && p.reaches r.url with
  | false => rfl
  | true => simp only [Bool.not_true, Bool.false_eq_true, if_false]; split <;> rfl

/-! ### What comes of a request -/

/-- **What sending a request can come to.** It reaches no peer; or the first reaction to it is the
last, as it is not sent on, or may not be; or it is sent on. -/
theorem sendUpTo_cases (n : Nat) (p : Peers) (r : Outbound) :
    (p.react r = none ∧ p.sendUpTo n r = ⟨none, [], p⟩) ∨
      (∃ reaction rest answer, p.react r = some (reaction, rest) ∧
        (∀ a again, reaction = .answers a → r.next a = .goes again → n = 0) ∧
          p.sendUpTo n r = ⟨answer, [r], rest⟩) ∨
      ∃ a rest again k, p.react r = some (.answers a, rest) ∧ r.next a = .goes again ∧
        n = k + 1 ∧ p.sendUpTo n r
          = { rest.sendUpTo k again with calls := r :: (rest.sendUpTo k again).calls } := by
  rw [sendUpTo.eq_def]
  cases h : p.react r with
  | none => exact .inl ⟨rfl, rfl⟩
  | some reacted =>
    right
    obtain ⟨reaction, rest⟩ := reacted
    cases reaction with
    | closes => exact .inl ⟨_, rest, none, rfl, by simp, rfl⟩
    | answers answer =>
      have hlast : (∀ again, r.next answer ≠ .goes again) → ∀ a again,
          Reaction.answers answer = .answers a → r.next a = .goes again → n = 0 := by
        intro hstop a again hreaction hgoes
        cases hreaction
        exact absurd hgoes (hstop again)
      cases hnext : r.next answer with
      | stays =>
        exact .inl ⟨_, rest, some answer, rfl, hlast (by simp [hnext]), by simp only [hnext]⟩
      | fails => exact .inl ⟨_, rest, none, rfl, hlast (by simp [hnext]), by simp only [hnext]⟩
      | goes again =>
        cases n with
        | zero => exact .inl ⟨_, rest, none, rfl, fun _ _ _ _ => rfl, by simp only [hnext]⟩
        | succ k => exact .inr ⟨answer, rest, again, k, rfl, hnext, rfl, by simp only [hnext]⟩

/-! ### How often a request is sent -/

theorem calls_sendUpTo_eq_nil_iff (n : Nat) :
    (p.sendUpTo n r).calls = [] ↔ (p.react r).isSome = false := by
  rcases sendUpTo_cases n p r with ⟨h, hsent⟩ | ⟨_, _, _, h, -, hsent⟩ |
    ⟨_, _, _, _, h, -, -, hsent⟩ <;>
    simp [h, hsent]

/-- **The first request is the one that was meant**, if it is sent at all. -/
theorem head?_calls_send (p : Peers) (r : Outbound) :
    (p.send r).calls.head? = if (p.react r).isSome then some r else none := by
  rw [send]
  rcases sendUpTo_cases Outbound.maxRedirects p r with ⟨h, hsent⟩ | ⟨_, _, _, h, -, hsent⟩ |
    ⟨_, _, _, _, h, -, -, hsent⟩ <;>
    simp [h, hsent]

/-- **Sent once or not at all, unless it is diverted.** -/
theorem length_calls_send_le_one_iff (p : Peers) (r : Outbound) :
    (p.send r).calls.length ≤ 1 ↔ ¬p.Diverts r := by
  rw [send]
  rcases sendUpTo_cases Outbound.maxRedirects p r with ⟨h, hsent⟩ |
    ⟨reaction, rest, _, h, hlast, hsent⟩ | ⟨a, rest, again, k, h, hnext, -, hsent⟩
  · refine iff_of_true (by rw [hsent]; exact Nat.zero_le 1) ?_
    rintro ⟨_, _, _, hreact, -⟩
    rw [h] at hreact
    cases hreact
  · refine iff_of_true (by rw [hsent]; exact Nat.le_refl 1) ?_
    rintro ⟨a, _, again, hreact, hgoes, -⟩
    rw [h] at hreact
    cases hreact
    cases hlast a again rfl hgoes
  · have honce : (p.sendUpTo Outbound.maxRedirects r).calls.length ≤ 1 ↔
        (rest.react again).isSome = false := by
      rw [hsent, ← calls_sendUpTo_eq_nil_iff k, ← List.length_eq_zero_iff, List.length_cons]
      omega
    rw [honce, Bool.eq_false_iff]
    refine not_congr ⟨?_, ?_⟩
    · exact fun hreached => ⟨a, rest, again, h, hnext, hreached⟩
    · rintro ⟨_, _, _, hreact, hgoes, hreached⟩
      rw [h] at hreact
      cases hreact
      rw [hnext] at hgoes
      cases hgoes
      exact hreached

/-- What is not diverted leaves once if it reaches a peer, and nothing else does. -/
theorem calls_send_of_not_diverts (h : ¬p.Diverts r) :
    (p.send r).calls = if r.url.isSendable && p.reaches r.url then [r] else [] := by
  have hlength := (length_calls_send_le_one_iff p r).mpr h
  have hhead := head?_calls_send p r
  rw [isSome_react] at hhead
  match hcalls : (p.send r).calls with
  | [] =>
    rw [hcalls] at hhead
    split at hhead
    · cases hhead
    · next hnot => rw [if_neg hnot]
  | [only] =>
    rw [hcalls] at hhead
    split at hhead
    · next hyes =>
      rw [if_pos hyes]
      exact congrArg (fun r => [r]) (Option.some.inj hhead)
    · cases hhead
  | _ :: _ :: _ =>
    rw [hcalls] at hlength
    simp at hlength

/-! ### What stays -/

theorem reaches_react {reaction : Reaction} {rest : Peers} (h : p.react r = some (reaction, rest)) :
    rest.reaches = p.reaches := by
  rw [react] at h
  split at h
  · cases h
  · split at h <;> cases h <;> rfl

/-- Only what is posted changes what the invalidation API does next. -/
theorem api_react {reaction : Reaction} {rest : Peers} (hmethod : r.method ≠ "POST")
    (h : p.react r = some (reaction, rest)) : rest.api = p.api := by
  rw [react, if_neg hmethod] at h
  split at h
  · cases h
  · cases h
    rfl

/-- What is kept by every reaction to a request is kept by sending it. -/
private theorem sendUpTo_keeps {α : Type} {view : Peers → α} {fits : Outbound → Prop}
    (hreact : ∀ {p : Peers} {r : Outbound} {reaction : Reaction} {rest : Peers}, fits r →
      p.react r = some (reaction, rest) → view rest = view p)
    (hnext : ∀ {r again : Outbound} {answer : Http.Reply}, fits r →
      r.next answer = .goes again → fits again)
    (n : Nat) (p : Peers) {r : Outbound} (hfits : fits r) :
    view (p.sendUpTo n r).peers = view p := by
  fun_induction sendUpTo n p r with
  | case1 => rfl
  | case2 n p r rest hcloses => exact hreact hfits hcloses
  | case3 n p r answer rest hanswers => exact hreact hfits hanswers
  | case4 p r answer rest hanswers again n hgoes sent ih =>
    exact (ih (hnext hfits hgoes)).trans (hreact hfits hanswers)
  | case5 n p r answer rest hanswers => exact hreact hfits hanswers

/-- **Which peers are reached never changes.** -/
theorem reaches_send (p : Peers) (r : Outbound) : (p.send r).peers.reaches = p.reaches :=
  sendUpTo_keeps (fun _ => reaches_react) (fun _ _ => trivial) Outbound.maxRedirects p trivial

/-- **What does not post leaves the invalidation API alone**, wherever it is sent on to. -/
theorem api_send (p : Peers) (hmethod : r.method ≠ "POST") : (p.send r).peers.api = p.api :=
  sendUpTo_keeps api_react Outbound.method_of_goes Outbound.maxRedirects p hmethod

end Peers

end PurgeGateway
