import PurgeGateway.Credentials.Ini
import PurgeGateway.Json.Basic

/-!
# Settings in one another

The settings of a text make one table. The name of a section, or of a setting in front of all
sections, says where in that table its value goes: it may be a way that leads down by names with
dots between them and by places in brackets, which count from the end of a list if they are
negative. What is not there on the way is made, what is no table or no list and stands in the way is
replaced. A name that writes no way is a name at the top.

Of sections, and of settings in front of them, only the last under a name counts. They are taken in
no particular order, and what one of them puts down another may replace.

## Main definitions

* `Nested.Way`: where a name leads.
* `Nested.Value`: a table of settings, or what stands in one.
* `Nested.entries`: what a text of settings puts down, and under which names.
* `Nested.build`: the table that comes of it, in an order.
-/

namespace PurgeGateway.Nested

/-! ### Ways -/

/-- One step of a way: to what stands under a name, or at a place of a list. -/
inductive Step
  | name (name : String)
  | place (i : Int)
  deriving DecidableEq, Repr

/-- A way down to a value: a name at the top, and the steps from there. -/
structure Way where
  top : String
  steps : List Step := []
  deriving DecidableEq, Repr

/-- The character may stand in a name on a way. -/
def inName (c : Char) : Bool :=
  c.isAlphanum || c == '_' || c == '-' || c == ' '

/-- The character may stand around a place. -/
def aroundPlace (c : Char) : Bool :=
  c == ' ' || c == '\t'

/-- The name at the start, and the rest. -/
def name? (cs : List Char) : Option (String × List Char) :=
  let name := cs.takeWhile inName
  if name.isEmpty then none else some (String.ofList name, cs.dropWhile inName)

/-- The number of a place, which is one of 64 bits. -/
def placeOf? (negative : Bool) (digits : List Char) : Option Int :=
  (Ascii.readBase? 10 digits).bind fun n =>
    let i : Int := if negative then -n else n
    if -0x8000000000000000 ≤ i ∧ i < 0x8000000000000000 then some i else none

/-- The place behind an opening bracket, and what is behind the closing one. -/
def place? (cs : List Char) : Option (Int × List Char) :=
  let cs := cs.dropWhile aroundPlace
  let negative := cs.head? = some '-'
  let cs := if negative then cs.drop 1 else cs
  match (cs.dropWhile Char.isDigit).dropWhile aroundPlace with
  | ']' :: rest => (placeOf? negative (cs.takeWhile Char.isDigit)).map fun i => (i, rest)
  | _ => none

/-- The steps that a text writes. Each has a character at least, so the length of the text is fuel
enough. -/
def stepsFrom? : Nat → List Char → Option (List Step)
  | _, [] => some []
  | fuel + 1, '.' :: cs =>
    (name? cs).bind fun (name, rest) => (stepsFrom? fuel rest).map (.name name :: ·)
  | fuel + 1, '[' :: cs =>
    (place? cs).bind fun (i, rest) => (stepsFrom? fuel rest).map (.place i :: ·)
  | _, _ => none

/-- The way that a name writes. -/
def Way.ofText? (name : String) : Option Way :=
  (name? name.toList).bind fun (top, rest) =>
    (stepsFrom? rest.length rest).map fun steps => { top, steps }

/-- Where a name leads. -/
def Way.ofName (name : String) : Way :=
  (Way.ofText? name).getD { top := name }

/-! ### Values -/

/-- A table of settings, or what stands in one. A place of a list that nothing was put to holds
nothing. -/
inductive Value
  | nothing
  | text (s : String)
  | list (items : List Value)
  | table (members : List (String × Value))
  deriving Repr, Inhabited

namespace Value

/-- What a table holds; what is no table holds nothing. -/
def members : Value → List (String × Value)
  | .table members => members
  | _ => []

/-- What a list holds; what is no list holds nothing. -/
def items : Value → List Value
  | .list items => items
  | _ => []

/-- A list that is long enough to have a place, and how far from its start the place is. It grows at
its end, or at its start if the place counts from the end. -/
def reaching (items : List Value) : Int → List Value × Nat
  | .ofNat n => (items ++ List.replicate (n + 1 - items.length) .nothing, n)
  | .negSucc n => (List.replicate (n + 1 - items.length) .nothing ++ items, items.length - (n + 1))

/-- The value with a change made at the end of some steps. -/
def alter (change : Value → Value) : List Step → Value → Value
  | [], v => change v
  | .name name :: steps, v =>
    .table (upsert v.members name
      (alter change steps ((v.members.lookup name).getD .nothing)))
  | .place i :: steps, v =>
    let (items, n) := reaching v.items i
    .list (items.modify n (alter change steps))

end Value

/-! ### What is put down -/

/-- What a name stands for in a text of settings: the text of a setting, or the settings of a
section. -/
inductive Entry
  | text (s : String)
  | texts (settings : List (String × String))
  deriving DecidableEq, Repr

/-- What is put down by a section of a text, and under which names. -/
def ofSection (s : Ini.Section) : List (String × Entry) :=
  match s.name with
  | some name => [(name, .texts s.settings)]
  | none => s.settings.map fun setting => (setting.1, .text setting.2)

/-- What is put down by a text of settings: the last entry under each name. -/
def entries (sections : List Ini.Section) : List (String × Entry) :=
  collapseMembers (sections.flatMap ofSection)

/-- What an entry makes of the value in its place: a text replaces it, and settings are put into it
if it is a table. -/
def Entry.onto (v : Value) : Entry → Value
  | .text s => .text s
  | .texts settings =>
    .table (settings.foldl (fun members s => upsert members s.1 (.text s.2)) v.members)

/-- The table with an entry put down. -/
def Value.put (v : Value) (entry : String × Entry) : Value :=
  let way := Way.ofName entry.1
  v.alter (fun v => entry.2.onto v) (.name way.top :: way.steps)

/-! ### Orders -/

/-- An order in which things are taken up: of each one in turn, how many of those behind it come
first. -/
abbrev Order := List Nat

/-- A list in an order. Nothing comes first where the order says nothing. -/
def arrange {α : Type} : Order → List α → List α
  | _, [] => []
  | order, x :: xs => (arrange order.tail xs).insertIdx (order.headD 0 % (xs.length + 1)) x

/-- The table that a text of settings makes when its entries are put down in an order. -/
def build (order : Order) (sections : List Ini.Section) : Value :=
  (arrange order (entries sections)).foldl Value.put (.table [])

end PurgeGateway.Nested
