import PurgeGateway.Fields
import PurgeGateway.Json.Reader
import PurgeGateway.Notice

/-!
# Records of the access log

An event of the access log becomes one flat record: a JSON object with a time, a level and a target
in front, then the values of the event, then the members of the object that the event carries as a
text under `fields`. A value of the event takes the place of a key that is there already; a member
of that object never does.

## Main definitions

* `AccessLog.Event`: a level, a target, and values under names.
* `AccessLog.Record`: keys with values, in order.
* `AccessLog.Event.record?`: the record of an event.
-/

namespace PurgeGateway.AccessLog

/-! ### Events -/

/-- A value that an event carries. A double that is no finite number is `real none`. -/
inductive EventValue
  | integer (z : Int)
  | real (x : Option Binary64)
  | bool (b : Bool)
  | text (s : String)
  deriving DecidableEq, Repr

/-- An event: values under names, the message among them. -/
structure Event where
  target : String
  level : Level
  values : List (String × EventValue) := []
  deriving Repr

/-- The target of the access log. -/
def target : String := "access_log"

/-- The name of the value whose members become keys of the record. -/
def fieldsKey : String := "fields"

/-- Keys with values, in order. -/
abbrev Record := List (String × Json)

/-! ### Flattening -/

/-- The members of the object that a text writes. -/
def objectMembers? (s : String) : Option (List (String × Json)) :=
  match Json.parse? (Utf8.bytes s) with
  | some (.object members) => some members
  | _ => none

/-- A record in the making: what it holds so far, and the members that come last. -/
structure Draft where
  record : Record
  extracted : List (String × Json) := []

namespace Draft

/-- The draft with a value under a key. -/
def put (d : Draft) (key : String) (value : Json) : Draft :=
  { d with record := upsert d.record key value }

/-- The draft with a text. Under `fields` the text of an object is taken apart. -/
def putText (d : Draft) (key : String) (s : String) : Draft :=
  if key = fieldsKey then
    match objectMembers? s with
    | some members => { d with extracted := members }
    | none => d.put key (.text s)
  else d.put key (.text s)

/-- The draft with a value of an event. What is no finite number is left out. -/
def add (d : Draft) (entry : String × EventValue) : Draft :=
  match entry.2 with
  | .integer z => d.put entry.1 (.int z)
  | .real (some x) => d.put entry.1 (.number (.real x))
  | .real none => d
  | .bool b => d.put entry.1 (.bool b)
  | .text s => d.putText entry.1 s

end Draft

/-- The record with a member at its end, unless its key is there already. -/
def addAbsent (r : Record) (m : String × Json) : Record :=
  if r.any (·.1 == m.1) then r else r ++ [m]

/-- The record whose last keys come from the members that were put aside. -/
def Draft.finish (d : Draft) : Record :=
  d.extracted.foldl addAbsent d.record

namespace Event

/-- The keys in front of every record. -/
def front (e : Event) (time : String) : Record :=
  [("timestamp", .text time), ("level", .text e.level.name), ("target", .text e.target)]

/-- The record of an event that happens at a time. Only events of the access log have one. -/
def record? (e : Event) (time : String) : Option Record :=
  if e.target = AccessLog.target then
    some (e.values.foldl Draft.add { record := e.front time }).finish
  else none

end Event

/-! ### Exchanges -/

/-- What a clock says when a record is made: the time, and how many milliseconds went by. -/
structure Clock where
  time : String
  elapsed : Binary64 := .zero
  deriving Repr, Inhabited

/-- The event of an exchange with the given fields. -/
def exchangeEvent (fields : FieldSet) (elapsed : Binary64) : Event where
  target := target
  level := .info
  values := [("message", .text "request"), ("duration_ms", .real (some elapsed)),
    (fieldsKey, .text fields.text)]

/-- The record of an exchange with the given fields, if its event has one. -/
def exchangeRecord? (fields : FieldSet) (clock : Clock) : Option Record :=
  (exchangeEvent fields clock.elapsed).record? clock.time

end PurgeGateway.AccessLog
