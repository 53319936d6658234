import PurgeGateway.Proofs.Flattened

/-!
# A record's own keys

A record of the access log has keys of its own: the time, the level and the target, and a key for
each value of the event. The names of the fields that the event carries come from templates, and so
from whoever has configured them; among them may be any of the names above, or the name under which
the fields are carried.

None of the own keys is touched by that. They come first, each once and with its own value, and
behind them each further name of the fields, where it came first. The text of the fields is in the
record under no key of its own: a value is always shorter than the text that it is a part of.

## Main definitions

* `AccessLog.Event.Carries`: the event is one of the access log and carries fields.
* `AccessLog.Event.own`: what is in the record of an event besides them.

## Main results

* `AccessLog.Event.record?_of_carries`: the record of an event that carries fields.
* `AccessLog.own_keys_stay`: its own keys, and those of the fields.
-/

namespace PurgeGateway

/-! ### A value and the text that it is a part of -/

namespace Json

theorem length_escape_pos (c : Char) : 0 < (escape c).length := by
  rw [escape]
  split_ifs <;> simp

theorem length_lt_length_renderText (s : String) : s.toList.length < (renderText s).length := by
  have hescaped : ∀ cs : List Char, cs.length ≤ (cs.flatMap escape).length := by
    intro cs
    induction cs with
    | nil => exact Nat.le_refl 0
    | cons c cs ih =>
      rw [List.flatMap_cons, List.length_append, List.length_cons]
      have := length_escape_pos c
      omega
  rw [renderText, List.cons_append, List.length_cons, List.length_append]
  have := hescaped s.toList
  omega

theorem length_render_lt_of_mem {m : String × Json} {members : List (String × Json)}
    (hm : m ∈ members) :
    ∀ first : Bool, m.2.render.length < (renderMembers first members).length := by
  induction members with
  | nil => cases hm
  | cons k members ih =>
    intro first
    rw [renderMembers, List.length_append, List.length_append, List.length_cons, List.length_append]
    rcases List.mem_cons.mp hm with rfl | hm
    · omega
    · have := ih hm false
      omega

end Json

/-- A value is shorter than the text of the fields. -/
theorem FieldSet.value_ne_text {fs : FieldSet} {e : String × String} (he : e ∈ fs.entries) :
    e.2 ≠ fs.text := by
  intro heq
  have hmember : (e.1, Json.text e.2) ∈ fs.members := List.mem_map.mpr ⟨e, he, rfl⟩
  have hvalue := Json.length_lt_length_renderText e.2
  have hobject := Json.length_render_lt_of_mem hmember true
  have hlength : e.2.toList.length = (Json.object fs.members).render.length := by
    rw [heq, text, Json.compact, String.toList_ofList]
    rfl
  rw [Json.render, List.length_cons] at hlength
  rw [Json.render] at hobject
  omega

namespace AccessLog

variable {e : Event} {fs : FieldSet}

/-! ### The values of an event -/

/-- The value in a record, if it is one that a record can hold. -/
def EventValue.json? : EventValue → Option Json
  | .integer z => some (.int z)
  | .real x => x.map fun x => .number (.real x)
  | .bool b => some (.bool b)
  | .text s => some (.text s)

/-- The values under names, but for the fields. -/
def plainValues (values : List (String × EventValue)) : List (String × Json) :=
  values.filterMap fun v => if v.1 = fieldsKey then none else v.2.json?.map (v.1, ·)

/-- The draft with values put in one by one. -/
def Draft.putAll (d : Draft) (members : List (String × Json)) : Draft :=
  { d with record := members.foldl (fun r m => upsert r m.1 m.2) d.record }

theorem Draft.add_of_ne (d : Draft) {v : String × EventValue} (h : v.1 ≠ fieldsKey) :
    d.add v = d.putAll (plainValues [v]) := by
  obtain ⟨name, value⟩ := v
  rw [plainValues, List.filterMap_cons, if_neg h]
  cases value with
  | integer z => rfl
  | real x => cases x <;> rfl
  | bool b => rfl
  | text s => exact if_neg h

theorem plainValues_cons (v : String × EventValue) (values : List (String × EventValue)) :
    plainValues (v :: values) = plainValues [v] ++ plainValues values :=
  List.filterMap_append (l := [v])

theorem Draft.putAll_putAll (d : Draft) (ms members : List (String × Json)) :
    (d.putAll ms).putAll members = d.putAll (ms ++ members) := by
  rw [putAll, putAll, putAll, List.foldl_append]

theorem foldl_add_of_forall_ne {values : List (String × EventValue)}
    (h : ∀ v ∈ values, v.1 ≠ fieldsKey) : ∀ d : Draft,
      values.foldl Draft.add d = d.putAll (plainValues values) := by
  induction values with
  | nil => intro d; rfl
  | cons v values ih =>
    intro d
    obtain ⟨hv, hvalues⟩ := List.forall_mem_cons.mp h
    rw [List.foldl_cons, ih hvalues, d.add_of_ne hv, d.putAll_putAll, ← plainValues_cons]

/-- Wherever the fields stand among the values, they are put aside and the rest is put in. -/
theorem foldl_add_of_fields {values : List (String × EventValue)}
    (h : values.filter (·.1 = fieldsKey) = [(fieldsKey, .text fs.text)]) : ∀ d : Draft,
      values.foldl Draft.add d
        = { d.putAll (plainValues values) with extracted := collapseMembers fs.members } := by
  -- Values in front of the fields are put into the draft that the rest starts from.
  induction values with
  | nil => cases h
  | cons v values ih =>
    intro d
    by_cases hv : v.1 = fieldsKey
    · rw [List.filter_cons_of_pos (by simpa using hv), List.cons.injEq] at h
      obtain ⟨rfl, hrest⟩ := h
      have hplain : ∀ w ∈ values, w.1 ≠ fieldsKey := by simpa using hrest
      have hfields : d.add (fieldsKey, .text fs.text)
          = { d with extracted := collapseMembers fs.members } := by
        simp only [Draft.add, Draft.putText, if_true, FieldSet.objectMembers?_text]
      rw [List.foldl_cons, hfields, foldl_add_of_forall_ne hplain, plainValues_cons]
      rfl
    · rw [List.filter_cons_of_neg (by simpa using hv)] at h
      rw [List.foldl_cons, ih h, d.add_of_ne hv, d.putAll_putAll, ← plainValues_cons]

/-! ### The record of an event -/

namespace Event

/-- The event is one of the access log and carries the fields, once and as their text. -/
structure Carries (e : Event) (fs : FieldSet) : Prop where
  target : e.target = AccessLog.target
  fields : e.values.filter (·.1 = fieldsKey) = [(fieldsKey, .text fs.text)]

/-- What is in the record besides the fields: each key once, where it came first, with its last
value. -/
def own (e : Event) (time : String) : Record :=
  collapseMembers (e.front time ++ plainValues e.values)

theorem record_putAll (e : Event) (time : String) :
    (Draft.putAll { record := e.front time } (plainValues e.values)).record = e.own time := by
  have hfront : (e.front time).foldl (fun r m => upsert r m.1 m.2) [] = e.front time := by
    simp [front, upsert]
  rw [Draft.putAll, own, collapseMembers, List.foldl_append, hfront]

/-- **The record of an event that carries fields**: its own keys, and behind them the members of the
fields that have other names. -/
theorem record?_of_carries (h : e.Carries fs) (time : String) : e.record? time
    = some (e.own time ++
      (collapseMembers fs.members).filter fun m => m.1 ∉ (e.own time).map (·.1)) := by
  rw [record?, if_pos h.target, foldl_add_of_fields h.fields, Draft.finish, record_putAll,
    foldl_addAbsent_eq_append (nodup_collapseMembers fs.members)]

theorem mem_names_own {time name : String} : name ∈ (e.own time).map (·.1) ↔
    name ∈ (e.front time ++ plainValues e.values).map (·.1) := by
  rw [own, names_collapseMembers, List.mem_eraseDups]

/-- The fields leave no key of their own. -/
theorem fieldsKey_notMem_own (e : Event) (time : String) :
    fieldsKey ∉ (e.own time).map (·.1) := by
  rw [mem_names_own, List.map_append, List.mem_append, not_or]
  constructor
  · show fieldsKey ∉ ["timestamp", "level", "target"]
    decide
  · intro hmem
    obtain ⟨m, hm, hname⟩ := List.mem_map.mp hmem
    obtain ⟨v, -, hv⟩ := List.mem_filterMap.mp hm
    split at hv
    · cases hv
    · next hother =>
      obtain ⟨value, -, rfl⟩ := Option.map_eq_some_iff.mp hv
      exact hother hname

end Event

/-- **A record's own keys stay.** An event that carries fields has one record. In it no key stands
twice; what it has of its own comes first, under each key the last value that the event gives it;
behind that come the names of the fields, each where it comes first and unless it is one of the own
keys; and the text of the fields is not under the key that carries it.

The own keys of an exchange are five. An event with another target has no record. -/
theorem own_keys_stay (fs : FieldSet) :
    (∀ (e : Event) (time : String), e.Carries fs → ∃ extracted,
      e.record? time = some (e.own time ++ extracted) ∧
      ((e.own time ++ extracted).map (·.1)).Nodup ∧
      (∀ name value, lastMember? (e.front time ++ plainValues e.values) name = some value →
        (name, value) ∈ e.own time) ∧
      extracted.map (·.1) = fs.names.eraseDups.filter (· ∉ (e.own time).map (·.1)) ∧
      (fieldsKey, .text fs.text) ∉ e.own time ++ extracted) ∧
    (∀ clock : Clock, (exchangeEvent fs clock.elapsed).Carries fs ∧
      (exchangeEvent fs clock.elapsed).own clock.time = ownRecord clock) ∧
    ∀ (e : Event) (time : String), e.target ≠ target → e.record? time = none := by
  refine ⟨fun e time h => ⟨_, e.record?_of_carries h time, ?_, ?_, ?_, ?_⟩,
    fun clock => ⟨⟨rfl, rfl⟩, rfl⟩, fun e time h => if_neg h⟩
  · rw [← foldl_addAbsent_eq_append (nodup_collapseMembers fs.members)]
    exact nodup_foldl_addAbsent _ (nodup_collapseMembers _)
  · intro name value hlast
    rwa [Event.own, mem_iff_lookup (nodup_collapseMembers _), lookup_collapseMembers]
  · have hnames : (collapseMembers fs.members).map (·.1) = fs.names.eraseDups := by
      rw [names_collapseMembers, FieldSet.members, List.map_map, FieldSet.names]
      rfl
    rw [← hnames, List.filter_map]
    rfl
  · intro hmem
    rcases List.mem_append.mp hmem with hown | hextracted
    · exact e.fieldsKey_notMem_own time (List.mem_map.mpr ⟨_, hown, rfl⟩)
    · have hlast := (mem_iff_lookup (nodup_collapseMembers fs.members)).mp
        (List.mem_of_mem_filter hextracted)
      rw [lookup_collapseMembers] at hlast
      obtain ⟨entry, hentry, heq⟩ := List.mem_map.mp (mem_of_lastMember? hlast)
      rw [Prod.mk.injEq, Json.text.injEq] at heq
      exact FieldSet.value_ne_text hentry heq.2

/-- Fields with names of every sort: own keys, the name under which fields are carried, and one
that comes twice. -/
def meddling : FieldSet :=
  ⟨[("status", "200"), ("level", "ERROR"), ("fields", "\x7b\x7d"), ("tries", "9"),
    ("status", "201")]⟩

/-- An event that carries them between values of its own, one of which is under a key that is there
already. -/
def firmEvent : Event where
  target := target
  level := .info
  values := [("tries", .integer 2), (fieldsKey, .text meddling.text), ("level", .text "loud")]

theorem own_keys_stay_meddling :
    firmEvent.Carries meddling ∧ firmEvent.own "now" = [("timestamp", .text "now"),
        ("level", .text "loud"), ("target", .text "access_log"), ("tries", .int 2)] ∧
      ∃ extracted, firmEvent.record? "now" = some (firmEvent.own "now" ++ extracted) ∧
        extracted.map (·.1) = ["status", "fields"] ∧
        (fieldsKey, .text meddling.text) ∉ firmEvent.own "now" ++ extracted ∧
        { firmEvent with target := "elsewhere" }.record? "now" = none := by
  have hcarries : firmEvent.Carries meddling := ⟨rfl, rfl⟩
  have hown : firmEvent.own "now" = [("timestamp", .text "now"), ("level", .text "loud"),
      ("target", .text "access_log"), ("tries", .int 2)] := rfl
  obtain ⟨hrecord, -, helsewhere⟩ := own_keys_stay meddling
  obtain ⟨extracted, hrecord, -, -, hnames, htext⟩ := hrecord firmEvent "now" hcarries
  refine ⟨hcarries, hown, extracted, hrecord, hnames.trans ?_, htext, helsewhere _ _ (by decide)⟩
  rw [hown]
  decide +kernel

end AccessLog

end PurgeGateway
