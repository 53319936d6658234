import PurgeGateway.Json.Binary64

/-!
# JSON values

A JSON text can name a member of an object twice. `Json` keeps every member in order as written;
`Json.collapse` gives the value that a reader of maps sees: each name once, at the place where it
first stood, with the value that stood last.

## Main definitions

* `Json`: a value, members kept in order.
* `Json.Number`: a number as an integer or as a double.
* `upsert`: a member put into a list of members.
* `Json.collapse`: every object with each name once.
-/

namespace PurgeGateway

/-- A number: an integer of 64 bits with or without sign, or a double. -/
inductive Json.Number
  | integer (z : Int)
  | real (x : Binary64)
  deriving DecidableEq, Repr, Inhabited

/-- A JSON value. Members of objects keep their order, and repeated names stay. -/
inductive Json
  | null
  | bool (b : Bool)
  | number (n : Json.Number)
  | text (s : String)
  | array (items : List Json)
  | object (members : List (String × Json))
  deriving Repr, Inhabited

/-! ### Members -/

/-- The members with `value` under `name`: in the place of the member of that name, or at the end
if there is none. -/
def upsert {α : Type} (members : List (String × α)) (name : String) (value : α) :
    List (String × α) :=
  match members with
  | [] => [(name, value)]
  | (n, v) :: rest => if n = name then (name, value) :: rest else (n, v) :: upsert rest name value

/-- The members with each name once: at the place of its first mention, with its last value. -/
def collapseMembers {α : Type} (members : List (String × α)) : List (String × α) :=
  members.foldl (fun done m => upsert done m.1 m.2) []

/-- The value under a name, the last one if there are several. -/
def lastMember? {α : Type} (members : List (String × α)) (name : String) : Option α :=
  (members.reverse.find? (·.1 == name)).map (·.2)

namespace Json

/-- An integer as a value. -/
def int (z : Int) : Json :=
  .number (.integer z)

mutual

/-- The value with each name once in every object, however deep. -/
def collapse : Json → Json
  | .array items => .array (collapseItems items)
  | .object members => .object (collapseMembers (collapseEach members))
  | .null => .null
  | .bool b => .bool b
  | .number n => .number n
  | .text s => .text s

/-- `collapse` on the items of an array. -/
def collapseItems : List Json → List Json
  | [] => []
  | j :: rest => collapse j :: collapseItems rest

/-- `collapse` on the values of members, names kept as they are. -/
def collapseEach : List (String × Json) → List (String × Json)
  | [] => []
  | (n, j) :: rest => (n, collapse j) :: collapseEach rest

end

end Json

end PurgeGateway
