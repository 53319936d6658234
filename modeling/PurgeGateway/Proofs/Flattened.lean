import PurgeGateway.Proofs.Members
import PurgeGateway.Proofs.ReadBack

/-!
# Fields in their record

The fields of an exchange reach the access log as the text of a JSON object, and the record takes
that text apart again. Nothing is lost in the text, but the reader that takes it apart keeps one
value under each name, the last one. So a field is in the record unless another field of the same
name comes behind it.

## Main definitions

* `AccessLog.ownRecord`: what a record holds besides the fields.

## Main results

* `FieldSet.read?_text`: the text of fields is read back.
* `AccessLog.exchangeRecord?_eq`: the record of an exchange.
* `AccessLog.keepsFields_iff`: which fields are in it.
-/

namespace PurgeGateway

/-! ### The text of fields -/

namespace FieldSet

/-- The fields as members of an object. -/
def members (fs : FieldSet) : List (String × Json) :=
  fs.entries.map fun e => (e.1, .text e.2)

/-- **The text of fields is read back**, repeated names and all. -/
theorem read?_text (fs : FieldSet) :
    Json.read? (Utf8.bytes fs.text) = some (.object fs.members) := by
  refine Json.read?_compact (Json.Legible.object fun m hm => ?_)
  obtain ⟨e, -, rfl⟩ := List.mem_map.mp hm
  exact .text 126 e.2

theorem collapseEach_members (fs : FieldSet) : Json.collapseEach fs.members = fs.members := by
  rw [members]
  induction fs.entries with
  | nil => rfl
  | cons e entries ih =>
    rw [List.map_cons, Json.collapseEach, ih]
    rfl

/-- A reader of maps finds each name once. -/
theorem objectMembers?_text (fs : FieldSet) :
    AccessLog.objectMembers? fs.text = some (collapseMembers fs.members) := by
  rw [AccessLog.objectMembers?, Json.parse?, read?_text, Option.map_some, Json.collapse,
    collapseEach_members]

end FieldSet

/-! ### The record of an exchange -/

namespace AccessLog

/-- What the record of an exchange holds besides the fields. -/
def ownRecord (clock : Clock) : Record :=
  [("timestamp", .text clock.time), ("level", .text "INFO"), ("target", .text "access_log"),
    ("message", .text "request"), ("duration_ms", .number (.real clock.elapsed))]

/-- The keys of a record that are its own. -/
def ownKeys : List String :=
  ["timestamp", "level", "target", "message", "duration_ms"]

theorem exchangeRecord?_eq (fs : FieldSet) (clock : Clock) : exchangeRecord? fs clock
    = some ((collapseMembers fs.members).foldl addAbsent (ownRecord clock)) := by
  have hfields : ∀ d : Draft, d.add (fieldsKey, .text fs.text)
      = { d with extracted := collapseMembers fs.members } := by
    intro d
    simp only [Draft.add, Draft.putText, if_true, FieldSet.objectMembers?_text]
  rw [exchangeRecord?, exchangeEvent, Event.record?, if_pos rfl, List.foldl_cons, List.foldl_cons,
    List.foldl_cons, hfields]
  rfl

/-- **Which fields are in the record.** An exchange has one record, in which no key stands twice.
Under a name that is no key of the record's own stands the last value of that name among the fields.
So every field is in its record if and only if no two fields that share such a name differ. -/
theorem keepsFields_iff (fs : FieldSet) (clock : Clock) :
    ∃ record, exchangeRecord? fs clock = some record ∧ (record.map (·.1)).Nodup ∧
      (∀ name value, name ∉ ownKeys →
        ((name, .text value) ∈ record ↔ lastMember? fs.entries name = some value)) ∧
      ((∀ e ∈ fs.entries, e.1 ∉ ownKeys → (e.1, .text e.2) ∈ record) ↔
        ∀ e ∈ fs.entries, ∀ e' ∈ fs.entries, e.1 ∉ ownKeys → e.1 = e'.1 → e.2 = e'.2) := by
  refine ⟨_, exchangeRecord?_eq fs clock, ?_⟩
  have hnodup :
      (((collapseMembers fs.members).foldl addAbsent (ownRecord clock)).map (·.1)).Nodup :=
    nodup_foldl_addAbsent _ (show ownKeys.Nodup by decide)
  have hvalue : ∀ name value, name ∉ ownKeys →
      ((name, .text value) ∈ (collapseMembers fs.members).foldl addAbsent (ownRecord clock) ↔
        lastMember? fs.entries name = some value) := by
    intro name value hname
    have hown : (ownRecord clock).lookup name = none := lookup_eq_none_iff_notMem.mpr hname
    rw [mem_iff_lookup hnodup, lookup_foldl_addAbsent, hown, Option.none_or,
      lookup_collapseMembers, FieldSet.members, lastMember?_map Json.text]
    cases lastMember? fs.entries name <;> simp
  refine ⟨hnodup, hvalue, ?_⟩
  constructor
  · intro hkept e he e' he' hname heq
    have hlast := (hvalue e.1 e.2 hname).mp (hkept e he hname)
    have hlast' := (hvalue e'.1 e'.2 (heq ▸ hname)).mp (hkept e' he' (heq ▸ hname))
    rw [← heq, hlast] at hlast'
    exact Option.some.inj hlast'
  · intro hsame e he hname
    obtain ⟨last, hlast, hmem⟩ := exists_lastMember? he
    rw [hvalue e.1 e.2 hname, hlast, hsame e he (e.1, last) hmem hname rfl]

/-- Templates that take the body of a request and that of a response. -/
def bodies : Extractor where
  templates := [⟨"$\x7bREQUEST:body\x7d"⟩, ⟨"$\x7bRESPONSE:body\x7d"⟩]

/-- It is not so that no field is lost: of two bodies that are taken from an exchange, that of the
response is not in the record. -/
theorem body_lost :
    ¬∀ (x : Extractor) (request : Http.Request) (response : Http.Response) (clock : Clock)
      (record : Record), exchangeRecord? (x.extract request response) clock = some record →
        ∀ e ∈ (x.extract request response).entries, e.1 ∉ ownKeys → (e.1, .text e.2) ∈ record := by
  intro h
  have hentries : (bodies.extract { body := [0x71] } { body := [0x72] }).entries
      = [("body", "r"), ("body", "q")] := by
    decide +kernel
  obtain ⟨record, hrecord, -, hvalue, -⟩ :=
    keepsFields_iff (bodies.extract { body := [0x71] } { body := [0x72] }) { time := "" }
  have hkept : ("body", .text "r") ∈ record :=
    h bodies _ _ _ record hrecord ("body", "r") (by rw [hentries]; exact List.mem_cons_self)
      (by decide)
  have hlast := (hvalue "body" "r" (by decide)).mp hkept
  rw [hentries] at hlast
  revert hlast
  decide

end AccessLog

end PurgeGateway
