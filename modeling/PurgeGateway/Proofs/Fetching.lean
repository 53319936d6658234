import PurgeGateway.Config.Validation
import PurgeGateway.Proofs.Effects
import PurgeGateway.Proofs.Sending
import PurgeGateway.Warming

/-!
# One path fetched

Warming tries a path once, with the header fields that are configured for it. If the path is an
address that can be sent to and reaches a peer, a `GET` for it leaves with all of these fields; if
not, nothing does. What comes of that is counted and noted, and has no other effect.

## Main definitions

* `addressOf?`: the address that a path is.
* `IsFetchOf`: what leaves for a path.
* `fetchOf?`: the request that leaves for a path, if one does.
* `Attempt`: a path that is tried, and the peers at the time.
* `Attempt.effects`, `Attempt.calls`, `Attempt.answered`: what comes of it.

## Main results

* `Config.Warming.nodup_headerFields`: no name comes twice among the configured fields.
* `isFetchOf_of_to?`: the request for a path is a `GET` that carries all of them.
* `isSome_fetchOf?_iff`: when it leaves.
* `Attempt.calls_of_not_diverts`: what leaves depends on nothing but the path and who is reached.
* `Attempt.samples_effects`: every attempt is counted once.
* `effects_fetch`: a move that warms makes an attempt.
-/

namespace PurgeGateway

/-! ### Header fields that are put in -/

namespace Http.Headers

theorem filter_set (hs : Headers) (name other : String) (value : List UInt8) :
    (hs.set name value).filter (·.name == other)
      = if name = other then [⟨name, value⟩] else hs.filter (·.name == other) := by
  rw [set, List.filter_append, without, List.filter_filter]
  split
  · next heq =>
    have hnone : hs.filter (fun h => h.name == other && h.name != name) = [] := by
      rw [List.filter_eq_nil_iff]
      intro h _
      simp [heq]
    rw [hnone, heq]
    simp
  · next hne =>
    have hsame : hs.filter (fun h => h.name == other && h.name != name)
        = hs.filter (·.name == other) := by
      refine List.filter_congr fun h _ => ?_
      by_cases hother : h.name = other
      · simp [hother, Ne.symm hne]
      · simp [hother]
    rw [hsame]
    simp [hne]

theorem names_set (hs : Headers) (name : String) (value : List UInt8) :
    (hs.set name value).map (·.name) = (hs.map (·.name)).filter (· != name) ++ [name] := by
  rw [set, without, List.map_append, List.filter_map]
  rfl

theorem nodup_set {hs : Headers} (h : (hs.map (·.name)).Nodup) (name : String)
    (value : List UInt8) : ((hs.set name value).map (·.name)).Nodup := by
  rw [names_set, List.nodup_append]
  refine ⟨h.filter _, List.pairwise_singleton _ name, fun a ha b hb => ?_⟩
  rw [List.mem_singleton.mp hb]
  simpa using (List.mem_filter.mp ha).2

end Http.Headers

/-- No name comes twice among the header fields of warming requests. -/
theorem Config.Warming.nodup_headerFields {w : Warming} {fields : Http.Headers}
    (h : w.headerFields = .ok fields) : (fields.map (·.name)).Nodup := by
  have hfold : ∀ (entries : List (String × String)) {sofar last : Http.Headers},
      (sofar.map (·.name)).Nodup → entries.foldlM addHeader sofar = .ok last →
        (last.map (·.name)).Nodup := by
    intro entries
    induction entries with
    | nil =>
      intro sofar last hnodup hlast
      cases hlast
      exact hnodup
    | cons entry rest ih =>
      intro sofar last hnodup hlast
      rw [List.foldlM_cons] at hlast
      cases hadd : addHeader sofar entry with
      | error e =>
        rw [hadd] at hlast
        cases hlast
      | ok next =>
        rw [hadd] at hlast
        refine ih ?_ hlast
        rw [addHeader] at hadd
        split at hadd
        · cases hadd
        · split at hadd
          · cases hadd
            exact Http.Headers.nodup_set hnodup _ _
          · cases hadd
  have hnone : (([] : Http.Headers).map (·.name)).Nodup := .nil
  rw [headerFields] at h
  split at h
  · cases h
  · exact hfold w.headers.entries hnone h

namespace Outbound

theorem withFields_cons (r : Outbound) (field : Http.Header) (rest : Http.Headers) :
    r.withFields (field :: rest)
      = ({ r with headers := r.headers.set field.name field.value } : Outbound).withFields rest :=
  rfl

theorem method_of_to? {method address : String} {fields : Http.Headers} {body : Option Payload}
    {r : Outbound} (h : to? method address fields body = some r) : r.method = method := by
  obtain ⟨url, -, rfl⟩ := of_to? h
  exact withUserInHeader_method _

/-- Fields that are put in leave those of other names alone. -/
theorem filter_withFields_of_notMem {name : String} (fields : Http.Headers) :
    ∀ {r : Outbound}, name ∉ fields.map (·.name) →
      (r.withFields fields).headers.filter (·.name == name)
        = r.headers.filter (·.name == name) := by
  induction fields with
  | nil => intro r _; rfl
  | cons field rest ih =>
    intro r hname
    rw [List.map_cons, List.mem_cons, not_or] at hname
    rw [withFields_cons, ih hname.2, Http.Headers.filter_set, if_neg (Ne.symm hname.1)]

/-- **Fields that are put in are there**, each once and in place of all others of its name. -/
theorem filter_withFields {field : Http.Header} (fields : Http.Headers) : ∀ {r : Outbound},
    (fields.map (·.name)).Nodup → field ∈ fields →
      (r.withFields fields).headers.filter (·.name == field.name) = [field] := by
  induction fields with
  | nil => intro r _ hmem; cases hmem
  | cons head rest ih =>
    intro r hnodup hmem
    rw [List.map_cons, List.nodup_cons] at hnodup
    rw [withFields_cons]
    rcases List.mem_cons.mp hmem with rfl | hrest
    · rw [filter_withFields_of_notMem rest hnodup.1, Http.Headers.filter_set, if_pos rfl]
    · exact ih hnodup.2 hrest

end Outbound

namespace Gateway

/-! ### The request for a path -/

/-- The address that a path is: a URL that has a host, less the user that it may name. -/
def addressOf? (path : String) : Option Net.Url :=
  (Net.Url.ofText? path).bind fun url =>
    if url.hostText.isEmpty then none
    else some (if (Outbound.user? url).isSome then { url with username := "", password := "" }
      else url)

/-- The request is a fetch of a path with the given header fields: a `GET` without a body, for the
address that the path is, with each of the fields once. -/
structure IsFetchOf (fields : Http.Headers) (path : String) (r : Outbound) : Prop where
  method : r.method = "GET"
  body : r.body = none
  address : addressOf? path = some r.url
  carries : ∀ field ∈ fields, r.headers.filter (·.name == field.name) = [field]

variable {fields : Http.Headers} {path : String} {r : Outbound}

theorem map_url_to? (method path : String) (fields : Http.Headers) (body : Option Payload) :
    (Outbound.to? method path fields body).map (·.url) = addressOf? path := by
  rw [Outbound.to?, addressOf?]
  cases Net.Url.ofText? path with
  | none => rfl
  | some url =>
    simp only [Option.bind_some]
    split
    · rfl
    · exact congrArg some (Outbound.withUserInHeader_url _)

theorem isFetchOf_of_to? (hnodup : (fields.map (·.name)).Nodup)
    (h : Outbound.to? "GET" path fields none = some r) : IsFetchOf fields path r := by
  have haddress : addressOf? path = some r.url := by
    rw [← map_url_to? "GET" path fields none, h]
    rfl
  have hmethod : r.method = "GET" := Outbound.method_of_to? h
  obtain ⟨url, hurl, rfl⟩ := Outbound.of_to? h
  refine ⟨hmethod, ?_, haddress, fun field => Outbound.filter_withFields fields hnodup⟩
  exact Outbound.withUserInHeader_body _

/-- The request that leaves for a path, if the path is an address that can be sent to and reaches a
peer. -/
def fetchOf? (fields : Http.Headers) (reaches : Net.Url → Bool) (path : String) :
    Option Outbound :=
  (Outbound.to? "GET" path fields none).filter fun r => r.url.isSendable && reaches r.url

theorem isFetchOf_of_fetchOf? {reaches : Net.Url → Bool} (hnodup : (fields.map (·.name)).Nodup)
    (h : fetchOf? fields reaches path = some r) : IsFetchOf fields path r :=
  isFetchOf_of_to? hnodup (Option.filter_eq_some_iff.mp h).1

/-- **When a request leaves for a path.** -/
theorem isSome_fetchOf?_iff (fields : Http.Headers) (reaches : Net.Url → Bool) (path : String) :
    (fetchOf? fields reaches path).isSome = true ↔
      ∃ url, addressOf? path = some url ∧ url.isSendable = true ∧ reaches url = true := by
  rw [fetchOf?, ← map_url_to? "GET" path fields none]
  cases Outbound.to? "GET" path fields none with
  | none => simp
  | some r => simp [Option.filter_some]

/-! ### An attempt -/

/-- A path that is tried, and the peers at the time. -/
structure Attempt where
  path : String
  peers : Peers

namespace Attempt

variable (fields) in
/-- The effects of an attempt. -/
def effects (a : Attempt) : List Effect :=
  (Warming.fetch fields a.peers a.path).1

variable (fields) in
/-- The requests that leave in an attempt. -/
def calls (a : Attempt) : List Outbound :=
  ((Outbound.to? "GET" a.path fields none).map fun r => (a.peers.send r).calls).getD []

variable (fields) in
/-- The attempt gets an answer. -/
def answered (a : Attempt) : Bool :=
  ((Outbound.to? "GET" a.path fields none).bind fun r => (a.peers.send r).answer).isSome

variable (fields) in
/-- The first answer in an attempt sends it elsewhere. -/
def Diverted (a : Attempt) : Prop :=
  ∃ r, Outbound.to? "GET" a.path fields none = some r ∧ a.peers.Diverts r

theorem effects_eq (fields : Http.Headers) (a : Attempt) :
    a.effects fields = (a.calls fields).map .call ++ Warming.report (a.answered fields) := by
  rw [effects, Warming.fetch, calls, answered]
  cases Outbound.to? "GET" a.path fields none <;> rfl

theorem jobs_effects (fields : Http.Headers) (a : Attempt) :
    Effect.jobs (a.effects fields) = [] := by
  rw [effects_eq, Effect.jobs_append, Effect.jobs_map_call]
  cases a.answered fields <;> rfl

/-- **An attempt tells no caller anything**, and is not recorded. -/
theorem answers_effects (fields : Http.Headers) (a : Attempt) :
    Effect.answers (a.effects fields) = [] := by
  rw [effects_eq, Effect.answers_append, Effect.answers, Effect.answers, List.filter_map]
  simp [Warming.report, Effect.isAnswer, Function.comp_def]

/-- **An attempt is counted once**, by whether it got an answer. -/
theorem samples_effects (fields : Http.Headers) (a : Attempt) :
    Effect.samples (a.effects fields) = [.fetch (a.answered fields)] := by
  rw [effects_eq, Effect.samples_append, Effect.samples_map_call]
  cases a.answered fields <;> rfl

theorem calls_effects (fields : Http.Headers) (a : Attempt) :
    Effect.calls (a.effects fields) = a.calls fields := by
  rw [effects_eq, Effect.calls_append, Effect.calls_map_call]
  cases a.answered fields <;> exact List.append_nil _

/-- **What leaves in an attempt** depends on nothing but the path and who is reached, if no answer
sends it elsewhere. -/
theorem calls_of_not_diverted {a : Attempt} (h : ¬a.Diverted fields) :
    a.calls fields = (fetchOf? fields a.peers.reaches a.path).toList := by
  rw [calls, fetchOf?]
  cases hto : Outbound.to? "GET" a.path fields none with
  | none => rfl
  | some r =>
    have hstays : ¬a.peers.Diverts r := fun hdiverts => h ⟨r, hto, hdiverts⟩
    rw [Option.map_some, Option.getD_some, Peers.calls_send_of_not_diverts hstays,
      Option.filter_some]
    split <;> rfl

end Attempt

/-- The effects of a move that warms are those of an attempt, if a path waits. -/
theorem effects_fetch (g : Gateway) (s : State) (id : Nat) :
    (g.fetch s id).2 = ((s.job id).head?.map fun path =>
      (⟨path, s.peers⟩ : Attempt).effects (g.warming.getD [])).getD [] := by
  rw [fetch]
  cases s.job id <;> rfl

/-- Warming leaves alone who is reached, and what the invalidation API does. -/
theorem peers_fetch (fields : Http.Headers) (p : Peers) (path : String) :
    (Warming.fetch fields p path).2.reaches = p.reaches ∧
      (Warming.fetch fields p path).2.api = p.api := by
  rw [Warming.fetch]
  split
  · exact ⟨rfl, rfl⟩
  · next r hto =>
    have hmethod : r.method ≠ "POST" := by
      rw [Outbound.method_of_to? hto]
      decide
    exact ⟨p.reaches_send r, p.api_send hmethod⟩

end Gateway

end PurgeGateway
