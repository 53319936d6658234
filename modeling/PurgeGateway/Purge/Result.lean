import PurgeGateway.Json.Outline
import PurgeGateway.Json.Printer

/-!
# Results of an invalidation

The network tells what became of an invalidation in a JSON object with five members, all of them
optional. The caller of the gateway gets the same members back, those without a value left out.

## Main definitions

* `Purge.Result`: what the network tells.
* `Purge.Result.ofBytes?`: the result that a body writes.
* `Purge.Result.toJson`: the result as it is passed on.
-/

namespace PurgeGateway.Purge

/-- What the network tells about an invalidation. -/
structure Result where
  httpStatus : UInt16 := 0
  detail : String := ""
  purgeId : Option String := none
  supportId : Option String := none
  estimatedSeconds : Option UInt64 := none
  deriving DecidableEq, Repr, Inhabited

namespace Result

/-! ### Values of members -/

/-- The number that a value is, if it is below the limit. -/
def naturalOf? (limit : Nat) : Json → Option Nat
  | .number (.integer z) => if 0 ≤ z ∧ z < limit then some z.toNat else none
  | _ => none

/-- The status that a value is. -/
def statusOf? (j : Json) : Option UInt16 :=
  (naturalOf? 0x10000 j).map UInt16.ofNat

/-- The text that a value is. -/
def detailOf? : Json → Option String
  | .text s => some s
  | _ => none

/-- The text that a value is, where null stands for none. -/
def optionalTextOf? : Json → Option (Option String)
  | .null => some none
  | .text s => some (some s)
  | _ => none

/-- The number that a value is, where null stands for none. -/
def optionalCountOf? : Json → Option (Option UInt64)
  | .null => some none
  | j => (naturalOf? 0x10000000000000000 j).map fun n => some (UInt64.ofNat n)

/-! ### Members -/

/-- The names of the members in order. -/
def memberNames : List String :=
  ["httpStatus", "detail", "purgeId", "supportId", "estimatedSeconds"]

/-- The result with one member set from a value. A name that is not known changes nothing, and its
value is not looked at. -/
def withMember? (r : Result) (name : String) (value : Json.Stretch) : Option Result := do
  match name with
  | "httpStatus" => do return { r with httpStatus := ← statusOf? (← value.value?) }
  | "detail" => do return { r with detail := ← detailOf? (← value.value?) }
  | "purgeId" => do return { r with purgeId := ← optionalTextOf? (← value.value?) }
  | "supportId" => do return { r with supportId := ← optionalTextOf? (← value.value?) }
  | "estimatedSeconds" => do
    return { r with estimatedSeconds := ← optionalCountOf? (← value.value?) }
  | _ => some r

/-- The result that members make up one after the other. -/
def ofMembers? (members : List (String × Json.Stretch)) : Option Result :=
  members.foldlM (fun r m => withMember? r m.1 m.2) {}

/-- No known name comes twice. -/
def namesOnce (members : List (String × Json.Stretch)) : Bool :=
  memberNames.all fun name => (members.filter (·.1 == name)).length ≤ 1

/-- The result that an outline gives: an object in which no known name comes twice, or an array of
at most the five values in order. -/
def ofOutline? : Json.Outline → Option Result
  | .object members => if namesOnce members then ofMembers? members else none
  | .array items =>
    if items.length ≤ memberNames.length then ofMembers? (memberNames.zip items) else none

/-- The result that a body writes. -/
def ofBytes? (body : List UInt8) : Option Result :=
  (Json.outline? body).bind ofOutline?

/-! ### Passing on -/

/-- A member, unless it has no value. -/
def member (name : String) (value : Option Json) : List (String × Json) :=
  match value with
  | some j => [(name, j)]
  | none => []

/-- The result as it is passed on. -/
def toJson (r : Result) : Json :=
  .object ([("httpStatus", Json.int r.httpStatus.toNat), ("detail", .text r.detail)] ++
    member "purgeId" (r.purgeId.map .text) ++
    member "supportId" (r.supportId.map .text) ++
    member "estimatedSeconds" (r.estimatedSeconds.map fun n => Json.int n.toNat))

end Result

end PurgeGateway.Purge
