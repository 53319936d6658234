import PurgeGateway.Text.Ascii
import PurgeGateway.Yaml.Node

/-!
# Values of YAML nodes

What a node is worth depends on what is wanted. Any scalar is a text, however it is written. A
truth value or a number must be written plain, or as a literal block that is tagged as one. A
mapping or a sequence that holds nothing may be left out.

## Main definitions

* `Yaml.Tree`: a document in which aliases can be followed.
* `Yaml.Tree.text?`, `bool?`, `natural?`: scalars as values.
* `Yaml.Tree.texts?`, `pairs?`, `fields?`: collections as values.
-/

namespace PurgeGateway.Yaml

/-! ### Following aliases -/

mutual

/-- The nodes with anchors in the order in which they start. -/
def Node.anchored : Node → List (Nat × Node)
  | .scalar anchor tag style content =>
    (anchor.map fun n => (n, Node.scalar anchor tag style content)).toList
  | .sequence anchor items =>
    (anchor.map fun n => (n, Node.sequence anchor items)).toList ++ anchoredItems items
  | .mapping anchor entries =>
    (anchor.map fun n => (n, Node.mapping anchor entries)).toList ++ anchoredEntries entries
  | .alias _ => []

/-- The nodes with anchors among items. -/
def anchoredItems : List Node → List (Nat × Node)
  | [] => []
  | n :: rest => n.anchored ++ anchoredItems rest

/-- The nodes with anchors among entries. -/
def anchoredEntries : List (Node × Node) → List (Nat × Node)
  | [] => []
  | (k, v) :: rest => k.anchored ++ v.anchored ++ anchoredEntries rest

end

/-- A document: its root and its nodes with anchors, those that start last in front. -/
structure Tree where
  root : Node
  targets : List (Nat × Node)

/-- The document with a root. -/
def Tree.ofRoot (root : Node) : Tree :=
  ⟨root, root.anchored.reverse⟩

/-- The document that a text writes. -/
def Tree.ofText? (s : String) : Option Tree :=
  (Node.ofText? s).map Tree.ofRoot

namespace Tree

/-- The node that a node stands for. -/
def resolve (t : Tree) : Node → Node
  | .alias n => (t.targets.lookup n).getD Node.blank
  | n => n

/-! ### Scalars -/

/-- The text that a node is. -/
def text? (t : Tree) (n : Node) : Option String :=
  match t.resolve n with
  | .scalar _ _ _ content => some content
  | _ => none

/-- The text of a node that is written plain, or as a literal block under the given tag. -/
def plainText? (t : Tree) (wanted : String) (n : Node) : Option String :=
  match t.resolve n with
  | .scalar _ _ .plain content => some content
  | .scalar _ (some tag) .literal content => if tag = wanted then some content else none
  | _ => none

/-- The truth value that a node is. -/
def bool? (t : Tree) (n : Node) : Option Bool :=
  (t.plainText? "tag:yaml.org,2002:bool" n).bind fun s =>
    if ["true", "True", "TRUE"].contains s then some true
    else if ["false", "False", "FALSE"].contains s then some false
    else none

/-- The digits behind the mark of a base. -/
def behindMark? (mark cs : List Char) : Option (List Char) :=
  mark.isPrefixOf? cs

/-- The number that a text writes: a plus sign or none, and digits, behind `0x`, `0o` or `0b` in
another base. A decimal number does not start with a zero. -/
def naturalOf? (s : String) : Option Nat :=
  let cs := s.toList
  let cs := if cs.head? == some '+' then cs.drop 1 else cs
  match behindMark? ['0', 'x'] cs, behindMark? ['0', 'o'] cs, behindMark? ['0', 'b'] cs with
  | some digits, _, _ => fromDigits? 16 digits
  | _, some digits, _ => fromDigits? 8 digits
  | _, _, some digits => fromDigits? 2 digits
  | _, _, _ =>
    if cs.length > 1 && cs.head? == some '0' then none else fromDigits? 10 cs
where
  /-- The number of digits in a base. -/
  fromDigits? (base : Nat) (digits : List Char) : Option Nat := Ascii.readBase? base digits

/-- The number below a limit that a node is. -/
def natural? (t : Tree) (limit : Nat) (n : Node) : Option Nat :=
  (t.plainText? "tag:yaml.org,2002:int" n).bind fun s =>
    (naturalOf? s).bind fun k => if k < limit then some k else none

/-! ### Collections -/

/-- The entries of a mapping, which may be left out. -/
def entries? (t : Tree) (n : Node) : Option (List (Node × Node)) :=
  match t.resolve n with
  | .mapping _ entries => some entries
  | .scalar _ _ .plain "" => some []
  | _ => none

/-- The items of a sequence, which may be left out. -/
def items? (t : Tree) (n : Node) : Option (List Node) :=
  match t.resolve n with
  | .sequence _ items => some items
  | .scalar _ _ .plain "" => some []
  | _ => none

/-- The texts of a sequence. -/
def texts? (t : Tree) (n : Node) : Option (List String) :=
  (t.items? n).bind (·.mapM t.text?)

/-- The entries of a mapping from texts to texts. -/
def pairs? (t : Tree) (n : Node) : Option (List (String × String)) :=
  (t.entries? n).bind (·.mapM fun e => do return (← t.text? e.1, ← t.text? e.2))

/-- The values of a mapping under their names. All keys must be texts, and of the given names none
may come twice. -/
def fields? (t : Tree) (names : List String) (n : Node) : Option (List (String × Node)) := do
  let entries ← t.entries? n
  let fields ← entries.mapM fun e => do return (← t.text? e.1, e.2)
  if names.all fun name => (fields.filter (·.1 == name)).length ≤ 1 then some fields else none

/-- The value under a name read by `read`, or another one if there is none. -/
def fieldOr? {α : Type} (fields : List (String × Node)) (name : String) (other : α)
    (read : Node → Option α) : Option α :=
  match fields.lookup name with
  | some n => read n
  | none => some other

end Tree

end PurgeGateway.Yaml
