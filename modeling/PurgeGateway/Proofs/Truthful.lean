import PurgeGateway.Proofs.Flattened
import PurgeGateway.Proofs.Relayed

/-!
# The access log tells the truth

The access log sits between a caller and whatever handles the request. It reads both bodies and
hands both on, so it could pass on or record something else than it got. It does not: the handler
gets the request as it came, and the fields of the record are those of that request and of the
reply that the caller gets, with no body if that is too large to be taken in.

The one thing in a reply that the log does not see is put in behind it, on the way out: the header
field that tells which methods there are. A request for the head alone is left out here, since its
reply loses its body on the way out too.

## Main definitions

* `AccessLog.flattened`: the fields of an exchange as they stand in its record.
* `Logs`: a response has what goes out to a caller, as far as the log sees it.

## Main results

* `AccessLog.exchangeRecord?_eq_append`: a record is what it has of its own and its fields.
* `Visit.recorded_truly`: the fields are those of the request that came and the reply that went.
-/

namespace PurgeGateway

/-! ### The fields in a record -/

namespace AccessLog

/-- The fields of an exchange as they stand in its record: each name once, with its last value, but
for the names of what the record has of its own. -/
def flattened (fs : FieldSet) : Record :=
  (collapseMembers fs.members).filter fun m => m.1 ∉ ownKeys

/-- **A record is what it has of its own and its fields.** -/
theorem exchangeRecord?_eq_append (fs : FieldSet) (clock : Clock) :
    exchangeRecord? fs clock = some (ownRecord clock ++ flattened fs) := by
  rw [exchangeRecord?_eq, foldl_addAbsent_eq_append (nodup_collapseMembers fs.members), flattened]
  rfl

end AccessLog

namespace Gateway

variable {g : Gateway}

/-! ### What the log sees of a reply -/

/-- The header fields that are put into a reply behind the log. -/
def addedOutside (request : Http.Request) : Http.Headers :=
  match destination request with
  | .wrongMethod r => [r.allowHeader]
  | _ => []

/-- What goes out, unless only the head is asked for. -/
theorem outside_ofResponse {request : Http.Request} (hhead : request.method ≠ "HEAD")
    (r : Http.Response) : outside request (.ofResponse r)
      = .ofResponse { r with headers := r.headers ++ addedOutside request } := by
  rw [outside, withoutBody, if_neg hhead, withAllow, addedOutside]
  cases destination request with
  | wrongMethod _ => rfl
  | _ => simp [Http.Reply.ofResponse]

/-- The response has what goes out to a caller, as far as the log sees it: the status, the version,
the header fields but for those that are put in last, and the whole body, or none if the whole is
longer than the limit. -/
structure Logs (limit : Nat) (request : Http.Request) (reply : Http.Reply)
    (logged : Http.Response) : Prop where
  status : logged.status = reply.status
  version : logged.version = reply.version
  headers : reply.headers = logged.headers ++ addedOutside request
  body : ∃ body, reply.body.whole? = some body ∧
    logged.body = if body.length ≤ limit then body else []

/-- What the log sees of a response is what goes out. -/
theorem logs_seen {request : Http.Request} (hhead : request.method ≠ "HEAD")
    (l : AccessLog.Layer) (r : Http.Response) :
    Logs l.limit request (outside request (.ofResponse r)) (l.seen r) := by
  rw [outside_ofResponse hhead]
  refine ⟨?_, ?_, ?_, r.body, Http.Stream.whole?_ofBytes r.body, ?_⟩
  all_goals rw [AccessLog.Layer.seen]; split <;> rfl

namespace Visit

variable {v : Visit}

/-- **The access log tells the truth.** Take a gateway of any configuration with an access log, and
a request that does not ask for the head alone and whose body is within the limit, in any run of the
gateway.

* Whatever handles the request gets it as it came; on the purge route a call is received with its
  header fields and its whole body.
* Unless its caller was told that the time is up, each answer to it goes with one record. The fields
  in that record are those that the configured templates take from the request as it came, and from
  a response that has what the caller gets. -/
theorem recorded_truly {c : Config} {shows : Bool} {g : Gateway} (hg : ofConfig c shows = .ok g)
    (hon : c.logs.enabled = true) (v : Visit) (hhead : v.request.method ≠ "HEAD")
    (hsize : v.request.body.length ≤ c.listener.maxBodySize) :
    (g.arrive v.clock (v.before g) v.request
        = g.handle v.clock { v.before g with arrived := v.number g + 1 } (v.number g) v.request ∧
      (destination v.request = .route .purge →
        (g.arrive v.clock (v.before g) v.request).1.task? (v.number g)
          = some ⟨some v.request, .received v.request.headers v.request.body⟩)) ∧
    ((v.course g).impatience ≠ some .timesOut → ∀ reply ∈ v.heard g,
      ∃ logged, Logs c.listener.maxBodySize v.request reply logged ∧
        Effect.records (v.own g) = [AccessLog.ownRecord v.clock
          ++ AccessLog.flattened (c.logs.extractor.extract v.request logged)]) := by
  obtain ⟨-, hlimit, hlayer⟩ := of_ofConfig hg
  have hlog : g.log.limit = g.limit := log_limit_of_ofConfig hg
  have hextract : g.log.extractor = c.logs.extractor := by rw [hlayer]; rfl
  have henabled : g.log.enabled = true := by rw [hlayer]; exact hon
  rw [← hlimit] at hsize
  rw [← hlimit, ← hextract]
  refine ⟨⟨arrive_eq_handle hlog hsize v.clock _, ?_⟩, ?_⟩
  · intro hroute
    have hand : g.handsOver v.request = true := by
      rw [handsOver_eq hlog, hroute]
      simpa using hsize
    rw [arrive_of_handsOver hand]
    exact State.task?_setTask_self _ _ _
  · intro hpatient reply hreply
    obtain ⟨answered, hanswers⟩ := exists_delivered hlog hsize hpatient
    rw [heard_eq, ← Effect.replies_answers, hanswers] at hreply
    cases answered with
    | none => cases hreply
    | some r =>
      rw [Option.map_some, Option.getD_some, Effect.replies_answers, replies_deliver] at hreply
      obtain rfl := List.mem_singleton.mp hreply
      refine ⟨g.log.seen r, hlog ▸ logs_seen hhead g.log r, ?_⟩
      rw [← Effect.records_answers, hanswers, Option.map_some, Option.getD_some,
        Effect.records_answers, records_deliver, if_pos henabled, AccessLog.Layer.line?,
        AccessLog.exchangeRecord?_eq_append]
      rfl

/-! A look at how the gateway is, where even the shortest reply is longer than the limit. -/

/-- A configuration in which bodies must be empty, with an access log. -/
def observant : Config :=
  { bodiless with
    logs :=
      { enabled := true
        fields :=
          ["$\x7bRESPONSE:status\x7d", "$\x7bREQUEST:path\x7d", "$\x7bRESPONSE:body\x7d"] } }

/-- A request to the route that tells how the gateway is. -/
def glance : Visit :=
  { plain accepting with request := { target := { path := "/health" } }, moves := [] }

/-- The status of the reply and the path of the request are recorded, and the body is not. -/
theorem recorded_truly_glance :
    ofConfig observant true = .ok (coldGateway observant) ∧
      (glance.heard (coldGateway observant)).map (·.status) = [200] ∧
      Effect.records (glance.own (coldGateway observant))
        = [AccessLog.ownRecord { time := "" } ++ [("status", .text "200"), ("body", .text ""),
            ("path", .text "/health")]] := by
  have hconfig : ofConfig observant true = .ok (coldGateway observant) := ofConfig_cold rfl
  have hheard : (glance.heard (coldGateway observant)).map (fun r =>
      (r.status, r.version, r.headers, r.body.whole?.map List.isEmpty))
        = [(200, .v11, [jsonHeader], some false)] := by
    decide +kernel
  have hpatient : (glance.course (coldGateway observant)).impatience ≠ some .timesOut := by
    decide +kernel
  obtain ⟨-, htruly⟩ := recorded_truly hconfig rfl glance (by decide) (by decide)
  obtain ⟨reply, hreply, hparts⟩ := List.map_eq_singleton_iff.mp hheard
  simp only [Prod.mk.injEq] at hparts
  obtain ⟨hstatus, hversion, hheaders, hsome⟩ := hparts
  obtain ⟨logged, hlogs, hrecords⟩ :=
    htruly hpatient reply (by rw [hreply]; exact List.mem_singleton_self reply)
  obtain ⟨body, hwhole, hbody⟩ := hlogs.body
  have hlong : ¬body.length ≤ observant.listener.maxBodySize := by
    rw [show observant.listener.maxBodySize = 0 by decide]
    rw [hwhole, Option.map_some, Option.some.injEq, List.isEmpty_eq_false_iff] at hsome
    exact Nat.not_le.mpr (List.length_pos_of_ne_nil hsome)
  rw [if_neg hlong] at hbody
  have hlogged : logged = { headers := [jsonHeader] } := by
    have hsent := hlogs.headers
    rw [hheaders, show addedOutside glance.request = [] by decide, List.append_nil] at hsent
    obtain ⟨status, version, headers, _⟩ := logged
    rw [Http.Response.mk.injEq]
    exact ⟨hlogs.status.trans hstatus, hlogs.version.trans hversion, hsent.symm, hbody⟩
  have hfields : (observant.logs.extractor.extract glance.request
      { headers := [jsonHeader] }).entries
        = [("status", "200"), ("body", ""), ("path", "/health")] := by
    decide +kernel
  refine ⟨hconfig, ?_, ?_⟩
  · rw [hreply, List.map_singleton, hstatus]
  · rw [hrecords, hlogged, AccessLog.flattened, FieldSet.members, hfields]
    rfl

end Visit

end Gateway

end PurgeGateway
