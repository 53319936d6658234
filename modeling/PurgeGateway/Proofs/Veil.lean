import PurgeGateway.Proofs.Effects

/-!
# Requests under a veil

Under a veil, a request has lost the value of what authorizes it. Nobody who follows an answer looks
at that value: the same further requests are made with a veil and without, and they differ in that
value only. So a purge call under a veil goes through the same stages.

## Main definitions

* `Outbound.veiled`, `Effect.veiled`, `Purge.Stage.veiled`: the same without the values of what
  authorizes requests that were signed.

## Main results

* `Peers.sendUpTo_veiled`: what comes of a request, under a veil.
* `Purge.Stage.forward_veiled`, `Purge.Stage.interpret_veiled`: from stage to stage under a veil.
-/

namespace PurgeGateway

/-! ### Header fields -/

namespace Http

/-- The name of the header field that authorizes a request. -/
def authorizationName : String := "authorization"

/-- The header field, without its value if that authorizes a request. -/
def Header.veiled (h : Header) : Header :=
  if h.name = authorizationName then { h with value := [] } else h

@[simp] theorem Header.name_veiled (h : Header) : h.veiled.name = h.name := by
  rw [veiled]
  split <;> rfl

@[simp] theorem Header.veiled_veiled (h : Header) : h.veiled.veiled = h.veiled := by
  rw [veiled, name_veiled]
  split
  · next hname => rw [veiled, if_pos hname]
  · rfl

namespace Headers

/-- The header fields without the values that authorize a request. -/
def veiled (hs : Headers) : Headers :=
  hs.map Header.veiled

variable {hs : Headers}

@[simp] theorem veiled_veiled (hs : Headers) : veiled (veiled hs) = veiled hs := by
  rw [veiled, veiled, List.map_map]
  exact List.map_congr_left fun h _ => h.veiled_veiled

/-- What looks at names only does the same under a veil. -/
theorem filter_veiled (p : String → Bool) (hs : Headers) :
    (veiled hs).filter (fun h => p h.name) = veiled (hs.filter fun h => p h.name) := by
  rw [veiled, veiled, List.filter_map]
  congr 2
  funext h
  rw [Function.comp_apply, Header.name_veiled]

theorem veiled_of_forall_ne (h : ∀ f ∈ hs, f.name ≠ authorizationName) : veiled hs = hs := by
  have hsame : ∀ f ∈ hs, f.veiled = id f := fun f hf => if_neg (h f hf)
  rw [veiled, List.map_congr_left hsame, List.map_id]

theorem set_veiled {name : String} (h : name ≠ authorizationName) (hs : Headers)
    (value : List UInt8) : (veiled hs).set name value = veiled (hs.set name value) := by
  have hlast : Header.veiled ⟨name, value⟩ = ⟨name, value⟩ := if_neg h
  rw [set, without, filter_veiled (· != name), set, without]
  show _ = List.map Header.veiled (_ ++ [_])
  rw [List.map_append, List.map_singleton, hlast]
  rfl

/-- Under a veil all values that authorize a request are the same. -/
theorem veiled_set_authorization (hs : Headers) (value : List UInt8) :
    veiled (hs.set authorizationName value) = hs.set authorizationName [] := by
  have hothers : veiled (hs.without authorizationName) = hs.without authorizationName :=
    veiled_of_forall_ne fun f hf => by simpa [without] using (List.mem_filter.mp hf).2
  rw [set, set, veiled, List.map_append]
  exact congrArg (· ++ _) hothers

end Headers

end Http

/-! ### Requests -/

namespace Outbound

/-- The request without the value of what authorizes it. -/
def veiled (r : Outbound) : Outbound :=
  { r with headers := r.headers.veiled }

@[simp] theorem veiled_veiled (r : Outbound) : r.veiled.veiled = r.veiled := by
  rw [veiled, veiled, Http.Headers.veiled_veiled]

theorem dropFields_veiled (r : Outbound) (names : List String) :
    r.veiled.dropFields names = (r.dropFields names).veiled := by
  simp only [dropFields, veiled, Http.Headers.filter_veiled fun name => !names.contains name]

theorem asFetch_veiled (r : Outbound) : r.veiled.asFetch = r.asFetch.veiled := by
  rw [asFetch, asFetch, ← dropFields_veiled]
  rfl

theorem redirected?_veiled (r : Outbound) (status : Nat) :
    r.veiled.redirected? status = (r.redirected? status).map veiled := by
  simp only [redirected?, asFetch_veiled]
  split
  · rfl
  · split
    · rw [apply_ite (Option.map veiled)]
      rfl
    · rfl

theorem withReferer_veiled (r : Outbound) (destination : Net.Url) :
    r.veiled.withReferer destination = (r.withReferer destination).veiled := by
  simp only [withReferer, veiled]
  split
  · rw [Http.Headers.set_veiled (by decide)]
  · rfl

theorem onTo_veiled (r : Outbound) (url : Net.Url) : r.veiled.onTo url = (r.onTo url).veiled := by
  have hthere : ({ r.veiled.withReferer url with url } : Outbound)
      = ({ r.withReferer url with url } : Outbound).veiled := by
    rw [withReferer_veiled]
    rfl
  rw [onTo, onTo, hthere, dropFields_veiled]
  exact (apply_ite veiled _ _ _).symm

end Outbound

/-- Where an answer leaves a request, under a veil. -/
def Onward.veiled : Onward → Onward
  | .goes r => .goes r.veiled
  | .stays => .stays
  | .fails => .fails

theorem Outbound.next_veiled (r : Outbound) (answer : Http.Reply) :
    r.veiled.next answer = (r.next answer).veiled := by
  have hlocation : r.veiled.location? answer = r.location? answer := rfl
  rw [next, next, redirected?_veiled, hlocation]
  cases r.redirected? answer.status with
  | none => rfl
  | some again =>
    rw [Option.map_some]
    dsimp only
    cases r.location? answer with
    | none => rfl
    | some url =>
      dsimp only
      rw [onTo_veiled]
      split <;> rfl

/-! ### What comes of a request -/

namespace Peers

/-- What comes of a request, with its calls under a veil. -/
def Sent.veiled (sent : Sent) : Sent :=
  { sent with calls := sent.calls.map Outbound.veiled }

/-- **What comes of a request under a veil** is what comes of it without. -/
theorem sendUpTo_veiled (redirects : Nat) (p : Peers) (r : Outbound) :
    p.sendUpTo redirects r.veiled = (p.sendUpTo redirects r).veiled := by
  have hreact : p.react r.veiled = p.react r := rfl
  rw [sendUpTo, sendUpTo, hreact]
  rcases p.react r with _ | ⟨_ | answer, p⟩
  · rfl
  · rfl
  · dsimp only
    rw [Outbound.next_veiled]
    cases r.next answer with
    | stays => rfl
    | fails => rfl
    | goes again =>
      cases redirects with
      | zero => rfl
      | succ redirects =>
        simp only [Onward.veiled, sendUpTo_veiled redirects]
        rfl

end Peers

/-! ### Effects -/

namespace Effect

/-- The effect, under a veil if it is a request that leaves. -/
def veiled : Effect → Effect
  | .call r => .call r.veiled
  | e => e

@[simp] theorem veiled_veiled (e : Effect) : e.veiled.veiled = e.veiled := by
  cases e with
  | call r => exact congrArg Effect.call r.veiled_veiled
  | _ => rfl

/-- Without a request that leaves, effects are the same under a veil. -/
theorem map_veiled_of_calls {es : List Effect} (h : calls es = []) : es.map veiled = es := by
  have hsame : ∀ e ∈ es, e.veiled = id e := by
    intro e he
    cases e with
    | call r =>
      have hcall : r ∈ calls es := List.mem_filterMap.mpr ⟨.call r, he, rfl⟩
      rw [h] at hcall
      cases hcall
    | _ => rfl
  rw [List.map_congr_left hsame, List.map_id]

/-- Effects of another sort than requests that leave are the same under a veil. -/
theorem filterMap_veiled {α : Type} {view : Effect → Option α}
    (h : ∀ e : Effect, view e.veiled = view e) (es : List Effect) :
    (es.map veiled).filterMap view = es.filterMap view := by
  rw [List.filterMap_map]
  congr 1
  funext e
  exact h e

@[simp] theorem replies_veiled (es : List Effect) : replies (es.map veiled) = replies es :=
  filterMap_veiled (fun e => by cases e <;> rfl) es

@[simp] theorem notices_veiled (es : List Effect) : notices (es.map veiled) = notices es :=
  filterMap_veiled (fun e => by cases e <;> rfl) es

@[simp] theorem records_veiled (es : List Effect) : records (es.map veiled) = records es :=
  filterMap_veiled (fun e => by cases e <;> rfl) es

@[simp] theorem samples_veiled (es : List Effect) : samples (es.map veiled) = samples es :=
  filterMap_veiled (fun e => by cases e <;> rfl) es

@[simp] theorem jobs_veiled (es : List Effect) : jobs (es.map veiled) = jobs es :=
  filterMap_veiled (fun e => by cases e <;> rfl) es

theorem calls_veiled (es : List Effect) :
    calls (es.map veiled) = (calls es).map Outbound.veiled := by
  rw [calls, calls, List.filterMap_map, List.map_filterMap]
  congr 1
  funext e
  cases e <;> rfl

end Effect

/-! ### Stages of a purge call -/

namespace Purge.Stage

/-- The stage, with what was signed under a veil. -/
def veiled : Stage → Stage
  | .forwarding request signed => .forwarding request signed.veiled
  | stage => stage

/-- The stage that a call comes to and the effects on the way, under a veil. -/
def Progress.veiled (p : Progress) : Progress :=
  (p.1.veiled, p.2.map Effect.veiled)

@[simp] theorem outcome?_veiled (stage : Stage) : stage.veiled.outcome? = stage.outcome? := by
  cases stage <;> rfl

theorem start_veiled (api : String) (stage : Stage) :
    start api stage.veiled = Progress.veiled (start api stage) := by
  cases stage with
  | received headers body =>
    simp only [veiled, start, accept]
    split
    · rfl
    · split
      · rfl
      · next request _ =>
        rw [routed]
        split
        · rfl
        · split <;> rfl
  | _ => rfl

theorem forward_veiled (p : Peers) (stage : Stage) :
    stage.veiled.forward p = (Progress.veiled (stage.forward p).1, (stage.forward p).2) := by
  cases stage with
  | forwarding request signed =>
    have hsend : p.send signed.veiled = (p.send signed).veiled := Peers.sendUpTo_veiled _ p signed
    have hcalls : callEffects (p.send signed).veiled
        = (callEffects (p.send signed)).map Effect.veiled := by
      rw [callEffects, callEffects, List.map_map, Peers.Sent.veiled, List.map_map]
      rfl
    simp only [veiled, forward, hsend, hcalls]
    rw [show (p.send signed).veiled.answer = (p.send signed).answer from rfl]
    cases (p.send signed).answer with
    | none => simp only [Progress.veiled, List.map_append]; rfl
    | some answer => simp only [Progress.veiled, List.map_append]; rfl
  | _ => rfl

theorem interpret_veiled (warms : Bool) (stage : Stage) :
    interpret warms stage.veiled = Progress.veiled (interpret warms stage) := by
  cases stage with
  | interpreting request answer =>
    simp only [veiled, interpret]
    split
    · simp only [succeed]
      split <;> rfl
    · rfl
  | _ => rfl

end Purge.Stage

end PurgeGateway
