import PurgeGateway.Proofs.ListGrammar
import PurgeGateway.Proofs.NumberGrammar
import PurgeGateway.Proofs.StringGrammar

/-!
# The grammar of JSON texts

The grammar says which byte strings are JSON texts and how each is divided, and nothing about what
can be done with the parts. A `Tree` is a text as the grammar divides it: its numbers are spellings,
its strings are units, and its members are all there in their order. What stands for a value is a
second question: a number may be past the largest double, and half of a surrogate pair is no
character. `Tree.value?` answers it.

Values within values are counted, since readers count them: `Writes depth` are the texts that open
at most `depth` brackets and braces one inside the other.

## Main definitions

* `Tree`, `Tree.value?`: a text as the grammar divides it, and the value it stands for.
* `Tree.Representable`: its numbers and texts can be held.
* `Writes`, `WritesText`: the byte strings that write a tree, without and with blanks around it.

## Main results

* `representable_iff`: which trees stand for values.
* `readValue?_sound`, `readValue?_complete`: the reader takes the values of the grammar off a text.
* `read?_eq_some_iff`: the value of a whole text.
-/

namespace PurgeGateway.Json

variable {α : Type} {bs front rest : List UInt8} {depth : Nat} {j : Json}

/-! ### Trees -/

/-- A JSON text as its grammar divides it. -/
inductive Tree
  | null
  | bool (b : Bool)
  | number (s : Number.Spelling)
  | text (units : List Nat)
  | array (items : List Tree)
  | object (members : List (List Nat × Tree))

/-- The text that units stand for. -/
def textOfUnits? (units : List Nat) : Option String :=
  (charsOf? units).map String.ofList

mutual

/-- The value that a tree stands for, if all its numbers and texts stand for values. -/
def Tree.value? : Tree → Option Json
  | .null => some .null
  | .bool b => some (.bool b)
  | .number s => (Number.value? s).map .number
  | .text units => (textOfUnits? units).map .text
  | .array items => (itemValues? items).map .array
  | .object members => (memberValues? members).map .object

/-- `Tree.value?` on the items of an array. -/
def itemValues? : List Tree → Option (List Json)
  | [] => some []
  | tree :: rest => do
    let j ← tree.value?
    let js ← itemValues? rest
    some (j :: js)

/-- `Tree.value?` on the values of members, with their names as texts. -/
def memberValues? : List (List Nat × Tree) → Option (List (String × Json))
  | [] => some []
  | (units, tree) :: rest => do
    let name ← textOfUnits? units
    let j ← tree.value?
    let members ← memberValues? rest
    some ((name, j) :: members)

end

/-- The tree stands for the value. -/
abbrev StandsFor (tree : Tree) (j : Json) : Prop :=
  tree.value? = some j

/-- The name and the tree of a member stand for a name and a value. -/
abbrev MemberStandsFor (m : List Nat × Tree) (member : String × Json) : Prop :=
  textOfUnits? m.1 = some member.1 ∧ StandsFor m.2 member.2

theorem itemValues?_eq_some_iff {items : List Tree} :
    ∀ {js : List Json}, itemValues? items = some js ↔ List.Forall₂ StandsFor items js := by
  induction items with
  | nil => intro js; simp [itemValues?, eq_comm]
  | cons tree items ih =>
    intro js
    simp only [itemValues?, Option.bind_eq_bind, Option.bind_eq_some_iff, Option.some.injEq]
    constructor
    · rintro ⟨j, hj, js, hjs, rfl⟩
      exact .cons hj (ih.mp hjs)
    · rintro (_ | ⟨hj, hjs⟩)
      exact ⟨_, hj, _, ih.mpr hjs, rfl⟩

theorem memberValues?_eq_some_iff {members : List (List Nat × Tree)} :
    ∀ {ms : List (String × Json)},
      memberValues? members = some ms ↔ List.Forall₂ MemberStandsFor members ms := by
  induction members with
  | nil => intro ms; simp [memberValues?, eq_comm]
  | cons m members ih =>
    intro ms
    obtain ⟨units, tree⟩ := m
    simp only [memberValues?, Option.bind_eq_bind, Option.bind_eq_some_iff, Option.some.injEq]
    constructor
    · rintro ⟨name, hname, j, hj, js, hjs, rfl⟩
      exact .cons ⟨hname, hj⟩ (ih.mp hjs)
    · rintro (_ | ⟨⟨hname, hj⟩, hjs⟩)
      exact ⟨_, hname, _, hj, _, ih.mpr hjs, rfl⟩

/-! ### What a tree stands for -/

section
variable {tree : Tree}

theorem standsFor_null_iff : StandsFor tree .null ↔ tree = .null := by
  cases tree <;> simp [StandsFor, Tree.value?]

theorem standsFor_bool_iff {b : Bool} : StandsFor tree (.bool b) ↔ tree = .bool b := by
  cases tree <;> simp [StandsFor, Tree.value?]

theorem standsFor_text_iff {s : String} :
    StandsFor tree (.text s) ↔ ∃ units, tree = .text units ∧ textOfUnits? units = some s := by
  cases tree <;> simp [StandsFor, Tree.value?]

theorem standsFor_array_iff {js : List Json} :
    StandsFor tree (.array js) ↔
      ∃ items, tree = .array items ∧ List.Forall₂ StandsFor items js := by
  cases tree <;> simp [StandsFor, Tree.value?, itemValues?_eq_some_iff]

theorem standsFor_object_iff {ms : List (String × Json)} :
    StandsFor tree (.object ms) ↔
      ∃ members, tree = .object members ∧ List.Forall₂ MemberStandsFor members ms := by
  cases tree <;> simp [StandsFor, Tree.value?, memberValues?_eq_some_iff]

theorem standsFor_unique {j k : Json} (hj : StandsFor tree j) (hk : StandsFor tree k) : j = k :=
  Option.some.inj (hj.symm.trans hk)

end

/-- Every number of the tree is within the range of doubles, and every half of a surrogate pair in
its texts and names has its partner. -/
inductive Tree.Representable : Tree → Prop
  | null : Tree.Representable .null
  | bool (b : Bool) : Tree.Representable (.bool b)
  | number {s : Number.Spelling} (h : (Number.value? s).isSome = true) :
    Tree.Representable (.number s)
  | text {units : List Nat} (h : (charsOf? units).isSome = true) : Tree.Representable (.text units)
  | array {items : List Tree} (h : ∀ tree ∈ items, Tree.Representable tree) :
    Tree.Representable (.array items)
  | object {members : List (List Nat × Tree)} (hnames : ∀ m ∈ members, (charsOf? m.1).isSome = true)
      (h : ∀ m ∈ members, Tree.Representable m.2) : Tree.Representable (.object members)

theorem exists_forall₂ {β : Type} {P : α → β → Prop} {as : List α} (h : ∀ a ∈ as, ∃ b, P a b) :
    ∃ bs, List.Forall₂ P as bs := by
  induction as with
  | nil => exact ⟨[], .nil⟩
  | cons a as ih =>
    obtain ⟨b, hb⟩ := h a List.mem_cons_self
    obtain ⟨bs, hbs⟩ := ih fun c hc => h c (List.mem_cons_of_mem a hc)
    exact ⟨b :: bs, .cons hb hbs⟩

theorem isSome_textOfUnits? {units : List Nat} (h : (charsOf? units).isSome = true) :
    ∃ s, textOfUnits? units = some s := by
  obtain ⟨cs, hcs⟩ := Option.isSome_iff_exists.mp h
  exact ⟨_, by rw [textOfUnits?, hcs, Option.map_some]⟩

theorem isSome_of_textOfUnits? {units : List Nat} {s : String} (h : textOfUnits? units = some s) :
    (charsOf? units).isSome = true := by
  obtain ⟨cs, hcs, -⟩ := Option.map_eq_some_iff.mp h
  exact Option.isSome_of_eq_some hcs

theorem Tree.Representable.exists_standsFor {tree : Tree} (h : tree.Representable) :
    ∃ j, StandsFor tree j := by
  induction h with
  | null => exact ⟨.null, rfl⟩
  | bool b => exact ⟨.bool b, rfl⟩
  | number h =>
    obtain ⟨n, hn⟩ := Option.isSome_iff_exists.mp h
    exact ⟨.number n, by rw [StandsFor, Tree.value?, hn]; rfl⟩
  | text h =>
    obtain ⟨s, hs⟩ := isSome_textOfUnits? h
    exact ⟨.text s, standsFor_text_iff.mpr ⟨_, rfl, hs⟩⟩
  | array _ ih =>
    obtain ⟨js, hjs⟩ := exists_forall₂ ih
    exact ⟨.array js, standsFor_array_iff.mpr ⟨_, rfl, hjs⟩⟩
  | @object members hnames _ ih =>
    have hmember : ∀ m ∈ members, ∃ member, MemberStandsFor m member := by
      intro m hm
      obtain ⟨name, hname⟩ := isSome_textOfUnits? (hnames m hm)
      obtain ⟨j, hj⟩ := ih m hm
      exact ⟨(name, j), hname, hj⟩
    obtain ⟨ms, hms⟩ := exists_forall₂ hmember
    exact ⟨.object ms, standsFor_object_iff.mpr ⟨_, rfl, hms⟩⟩

mutual

theorem representable_of_standsFor : ∀ (tree : Tree) (j : Json), StandsFor tree j →
    tree.Representable
  | .null, _, _ => .null
  | .bool b, _, _ => .bool b
  | .number _, _, h => by
    obtain ⟨n, hn, -⟩ := Option.map_eq_some_iff.mp h
    exact .number (Option.isSome_of_eq_some hn)
  | .text _, _, h => by
    obtain ⟨s, hs, -⟩ := Option.map_eq_some_iff.mp h
    exact .text (isSome_of_textOfUnits? hs)
  | .array items, _, h => by
    obtain ⟨js, hjs, -⟩ := Option.map_eq_some_iff.mp h
    exact .array (representable_of_itemValues? items js hjs)
  | .object members, _, h => by
    obtain ⟨ms, hms, -⟩ := Option.map_eq_some_iff.mp h
    have hall := representable_of_memberValues? members ms hms
    exact .object (fun m hm => (hall m hm).1) fun m hm => (hall m hm).2

theorem representable_of_itemValues? : ∀ (items : List Tree) (js : List Json),
    itemValues? items = some js → ∀ tree ∈ items, tree.Representable
  | [], _, _ => List.forall_mem_nil _
  | tree :: items, _, h => by
    rw [itemValues?_eq_some_iff] at h
    cases h with
    | cons hj hjs =>
      exact List.forall_mem_cons.mpr ⟨representable_of_standsFor tree _ hj,
        representable_of_itemValues? items _ (itemValues?_eq_some_iff.mpr hjs)⟩

theorem representable_of_memberValues? :
    ∀ (members : List (List Nat × Tree)) (ms : List (String × Json)),
      memberValues? members = some ms →
        ∀ m ∈ members, (charsOf? m.1).isSome = true ∧ m.2.Representable
  | [], _, _ => List.forall_mem_nil _
  | (units, tree) :: members, _, h => by
    rw [memberValues?_eq_some_iff] at h
    cases h with
    | cons hm hms =>
      have hname := isSome_of_textOfUnits? hm.1
      exact List.forall_mem_cons.mpr ⟨⟨hname, representable_of_standsFor tree _ hm.2⟩,
        representable_of_memberValues? members _ (memberValues?_eq_some_iff.mpr hms)⟩

end

/-- **The trees that stand for values.** -/
theorem representable_iff {tree : Tree} : tree.Representable ↔ ∃ j, StandsFor tree j :=
  ⟨Tree.Representable.exists_standsFor, fun ⟨j, hj⟩ => representable_of_standsFor tree j hj⟩

/-! ### Texts -/

/-- The texts of values that hold no others. -/
inductive WritesScalar : List UInt8 → Tree → Prop
  | null : WritesScalar (Ascii.byte 'n' :: word "ull") .null
  | yes : WritesScalar (Ascii.byte 't' :: word "rue") (.bool true)
  | no : WritesScalar (Ascii.byte 'f' :: word "alse") (.bool false)
  | number {s : Number.Spelling} {bs : List UInt8} (h : Number.Spells s bs) :
    WritesScalar bs (.number s)
  | text {content : List UInt8} {units : List Nat} (h : SpellsUnits content units) :
    WritesScalar (Ascii.byte '"' :: (content ++ [Ascii.byte '"'])) (.text units)

/-- A text with blanks in front of it. -/
inductive Led (value : List UInt8 → α → Prop) : List UInt8 → α → Prop
  | mk {before bs : List UInt8} {a : α} (hbefore : IsBlank before) (h : value bs a) :
    Led value (before ++ bs) a

/-- The text of a member: its name in quotes, a colon and its value, blanks in front of each. -/
inductive WritesMember (value : List UInt8 → α → Prop) : List UInt8 → List Nat × α → Prop
  | mk {before content between bs : List UInt8} {units : List Nat} {a : α}
      (hbefore : IsBlank before) (hname : SpellsUnits content units) (hbetween : IsBlank between)
      (h : Led value bs a) :
    WritesMember value (before ++ Ascii.byte '"' ::
      (content ++ Ascii.byte '"' :: (between ++ Ascii.byte ':' :: bs))) (units, a)

/-- The texts of arrays and objects, given those of the values in them. -/
inductive WritesGroup (value : List UInt8 → Tree → Prop) : List UInt8 → Tree → Prop
  | noItems {blank : List UInt8} (h : IsBlank blank) :
    WritesGroup value (Ascii.byte '[' :: (blank ++ [Ascii.byte ']'])) (.array [])
  | items {bs : List UInt8} {items : List Tree} (h : WritesList (Led value) bs items) :
    WritesGroup value (Ascii.byte '[' :: (bs ++ [Ascii.byte ']'])) (.array items)
  | noMembers {blank : List UInt8} (h : IsBlank blank) :
    WritesGroup value (Ascii.byte '{' :: (blank ++ [Ascii.byte '}'])) (.object [])
  | members {bs : List UInt8} {members : List (List Nat × Tree)}
      (h : WritesList (WritesMember value) bs members) :
    WritesGroup value (Ascii.byte '{' :: (bs ++ [Ascii.byte '}'])) (.object members)

/-- The texts that write a tree and are nested so deep at most. -/
def Writes : Nat → List UInt8 → Tree → Prop
  | 0, bs, tree => WritesScalar bs tree
  | depth + 1, bs, tree => WritesScalar bs tree ∨ WritesGroup (Writes depth) bs tree

/-- The whole texts that write a tree, blanks around it. -/
inductive WritesText (depth : Nat) : List UInt8 → Tree → Prop
  | mk {bs behind : List UInt8} {tree : Tree} (h : Led (Writes depth) bs tree)
      (hbehind : IsBlank behind) : WritesText depth (bs ++ behind) tree

theorem Writes.scalar {tree : Tree} (h : WritesScalar bs tree) : Writes depth bs tree := by
  cases depth with
  | zero => exact h
  | succ depth => exact .inl h

theorem Led.solid {value : List UInt8 → α → Prop} {a : α} (h : value bs a) : Led value bs a :=
  .mk isBlank_nil h

/-! ### Groups of values -/

/-- The byte that opens a frame. -/
def Frame.opening : Frame → UInt8
  | .array => Ascii.byte '['
  | .object => Ascii.byte '{'

theorem eq_opening_of_ofOpen? {b : UInt8} {f : Frame} (h : Frame.ofOpen? b = some f) :
    b = f.opening := by
  rw [Frame.ofOpen?] at h
  split at h
  · next hbracket => cases h; exact hbracket
  · split at h
    · next hbrace => cases h; exact hbrace
    · cases h

/-- No value within others is read where none may be. -/
theorem readValue?_opening_zero {f : Frame} (hskip : skipBlank bs = f.opening :: rest) :
    readValue? 0 bs = none := by
  unfold readValue?
  rw [hskip]
  cases f <;> rfl

/-- A text that opens an array is read as a group of values. -/
theorem readValue?_array (depth : Nat) (hskip : skipBlank bs = Frame.array.opening :: rest) :
    readValue? (depth + 1) bs
      = (readGroup? .array (readValue? depth) rest).map fun (js, rest) => (.array js, rest) := by
  rw [readValue?, hskip]
  simp only [Frame.opening, readItems?_eq]
  rw [if_neg (by decide), if_neg (by decide), if_neg (by decide), if_neg (by decide), if_true]
  refine Eq.trans ?_ (map_readGroup? .array _ Json.array rest)
  cases skipBlank rest <;> rfl

/-- A text that opens an object is read as a group of members. -/
theorem readValue?_object (depth : Nat) (hskip : skipBlank bs = Frame.object.opening :: rest) :
    readValue? (depth + 1) bs
      = (readGroup? .object (readMember? (readValue? depth)) rest).map
          fun (ms, rest) => (.object ms, rest) := by
  rw [readValue?, hskip]
  simp only [Frame.opening, readMembers?_eq]
  rw [if_neg (by decide), if_neg (by decide), if_neg (by decide), if_neg (by decide),
    if_neg (by decide), if_true]
  refine Eq.trans ?_ (map_readGroup? .object _ Json.object rest)
  cases skipBlank rest <;> rfl

/-! ### What is read is written -/

/-- A name that is read is written, and so is the member that it names. -/
theorem writesMember_of_readName? {name : String} (h : readName? bs = some (name, rest)) :
    ∃ head units, bs = head ++ rest ∧ textOfUnits? units = some name ∧
      ∀ {value : List UInt8 → α → Prop} {inner a}, Led value inner a →
        WritesMember value (head ++ inner) (units, a) := by
  simp only [readName?, Option.bind_eq_bind, Option.bind_eq_some_iff, Prod.exists] at h
  obtain ⟨behindQuote, hquote, t, behindName, hname, behindColon, hcolon, heq⟩ := h
  obtain ⟨rfl, rfl⟩ := Prod.mk.inj (Option.some.inj heq)
  obtain ⟨before, hbefore, hbs⟩ := exists_skipBlank bs
  obtain ⟨between, hbetween, hbehind⟩ := exists_skipBlank behindName
  rw [readWord?_eq_some_iff] at hquote hcolon
  obtain ⟨content, units, rfl, hcontent, hunits⟩ := readText?_eq_some_iff.mp hname
  refine ⟨before ++ Ascii.byte '"' :: (content ++ Ascii.byte '"' :: (between ++ [Ascii.byte ':'])),
    units, ?_, ?_, ?_⟩
  · rw [hbs, hquote, hbehind, hcolon]
    simp [word]
  · rw [textOfUnits?, hunits, Option.map_some, String.ofList_toList]
  · intro value inner a hinner
    have hmember := WritesMember.mk hbefore hcontent hbetween hinner
    simpa only [List.append_assoc, List.cons_append, List.nil_append] using hmember

/-- What the reader takes off a text that may be nested `depth` deep is written there. -/
def SoundAt (depth : Nat) : Prop :=
  ∀ {bs j rest}, readValue? depth bs = some (j, rest) →
    ∃ front, bs = front ++ rest ∧ ∃ tree, Led (Writes depth) front tree ∧ StandsFor tree j

theorem eq_of_readWord? {w : List UInt8} {k : Json}
    (h : ((readWord? w bs).map fun rest => (k, rest)) = some (j, rest)) :
    j = k ∧ bs = w ++ rest := by
  obtain ⟨left, hword, heq⟩ := Option.map_eq_some_iff.mp h
  obtain ⟨rfl, rfl⟩ := Prod.mk.inj heq
  exact ⟨rfl, readWord?_eq_some_iff.mp hword⟩

/-- A value that opens nothing is one that holds no others. -/
theorem writesScalar_of_readValue? {b : UInt8} {more : List UInt8}
    (hskip : skipBlank bs = b :: more) (hopen : Frame.ofOpen? b = none)
    (h : readValue? depth bs = some (j, rest)) :
    ∃ front tree, b :: more = front ++ rest ∧ WritesScalar front tree ∧ StandsFor tree j := by
  have hbracket : b ≠ Ascii.byte '[' := by
    rintro rfl
    cases hopen
  have hbrace : b ≠ Ascii.byte '{' := by
    rintro rfl
    cases hopen
  unfold readValue? at h
  rw [hskip] at h
  simp only [if_neg hbracket, if_neg hbrace] at h
  split at h
  · next hquote =>
    obtain ⟨⟨t, left⟩, htext, heq⟩ := Option.map_eq_some_iff.mp h
    obtain ⟨rfl, rfl⟩ := Prod.mk.inj heq
    obtain ⟨content, units, rfl, hcontent, hunits⟩ := readText?_eq_some_iff.mp htext
    refine ⟨_, .text units, ?_, .text hcontent, ?_⟩
    · rw [hquote, List.cons_append, List.append_assoc, List.singleton_append]
    · simp [StandsFor, Tree.value?, textOfUnits?, hunits]
  split at h
  · next hnull =>
    obtain ⟨rfl, hword⟩ := eq_of_readWord? h
    rw [hnull, hword]
    exact ⟨_, .null, rfl, .null, rfl⟩
  split at h
  · next htrue =>
    obtain ⟨rfl, hword⟩ := eq_of_readWord? h
    rw [htrue, hword]
    exact ⟨_, .bool true, rfl, .yes, rfl⟩
  split at h
  · next hfalse =>
    obtain ⟨rfl, hword⟩ := eq_of_readWord? h
    rw [hfalse, hword]
    exact ⟨_, .bool false, rfl, .no, rfl⟩
  · obtain ⟨⟨n, left⟩, hnumber, heq⟩ := Option.map_eq_some_iff.mp h
    obtain ⟨rfl, rfl⟩ := Prod.mk.inj heq
    simp only [Number.read?, Option.bind_eq_bind, Option.bind_eq_some_iff, Prod.exists] at hnumber
    obtain ⟨s, behind, hspelled, m, hvalue, heq⟩ := hnumber
    obtain ⟨rfl, rfl⟩ := Prod.mk.inj (Option.some.inj heq)
    obtain ⟨front, hfront, hspells⟩ := Number.spells_of_spelled hspelled
    refine ⟨front, .number s, hfront, .number hspells, ?_⟩
    rw [StandsFor, Tree.value?, hvalue]
    rfl

theorem writesGroup_of_array (hvalue : SoundAt depth) {items : List Json}
    (h : readGroup? .array (readValue? depth) bs = some (items, rest)) :
    ∃ front tree, Ascii.byte '[' :: bs = front ++ rest ∧ WritesGroup (Writes depth) front tree ∧
      StandsFor tree (.array items) := by
  obtain ⟨front, rfl, ⟨hblank, rfl⟩ | hlist⟩ := readGroup?_sound hvalue h
  · exact ⟨_, .array [], by simp [Frame.close], .noItems hblank, rfl⟩
  · obtain ⟨trees, htrees, hall⟩ := writesList_exists_iff.mp hlist
    exact ⟨_, .array trees, by simp [Frame.close], .items htrees,
      standsFor_array_iff.mpr ⟨trees, rfl, hall⟩⟩

theorem writesGroup_of_object (hvalue : SoundAt depth) {members : List (String × Json)}
    (h : readGroup? .object (readMember? (readValue? depth)) bs = some (members, rest)) :
    ∃ front tree, Ascii.byte '{' :: bs = front ++ rest ∧ WritesGroup (Writes depth) front tree ∧
      StandsFor tree (.object members) := by
  have hmember : ∀ {bs member rest}, readMember? (readValue? depth) bs = some (member, rest) →
      ∃ front, bs = front ++ rest ∧
        ∃ m, WritesMember (Writes depth) front m ∧ MemberStandsFor m member := by
    intro bs member rest h
    simp only [readMember?, Option.bind_eq_bind, Option.bind_eq_some_iff, Prod.exists] at h
    obtain ⟨name, behindName, hname, j, left, hj, heq⟩ := h
    obtain ⟨rfl, rfl⟩ := Prod.mk.inj (Option.some.inj heq)
    obtain ⟨head, units, rfl, hunits, hhead⟩ := writesMember_of_readName? (α := Tree) hname
    obtain ⟨inner, rfl, tree, htree, hstands⟩ := hvalue hj
    exact ⟨_, (List.append_assoc _ _ _).symm, _, hhead htree, hunits, hstands⟩
  obtain ⟨front, rfl, ⟨hblank, rfl⟩ | hlist⟩ := readGroup?_sound hmember h
  · exact ⟨_, .object [], by simp [Frame.close], .noMembers hblank, rfl⟩
  · obtain ⟨trees, htrees, hall⟩ := writesList_exists_iff.mp hlist
    exact ⟨_, .object trees, by simp [Frame.close], .members htrees,
      standsFor_object_iff.mpr ⟨trees, rfl, hall⟩⟩

/-- One level of values is sound, if the level below is. -/
theorem soundAt_of_below (hbelow : ∀ d, depth = d + 1 → SoundAt d) : SoundAt depth := by
  intro bs j rest h
  obtain ⟨before, hbefore, hbs⟩ := exists_skipBlank bs
  -- it is enough to find the value behind the blanks
  suffices hsolid : ∃ front tree, skipBlank bs = front ++ rest ∧ Writes depth front tree ∧
      StandsFor tree j by
    obtain ⟨front, tree, hfront, htree, hstands⟩ := hsolid
    exact ⟨before ++ front, by rw [hbs, hfront, List.append_assoc], tree, .mk hbefore htree,
      hstands⟩
  match hskip : skipBlank bs with
  | [] =>
    unfold readValue? at h
    rw [hskip] at h
    cases h
  | b :: more =>
    cases hopen : Frame.ofOpen? b with
    | none =>
      obtain ⟨front, tree, hfront, hscalar, hstands⟩ := writesScalar_of_readValue? hskip hopen h
      exact ⟨front, tree, hfront, .scalar hscalar, hstands⟩
    | some f =>
      obtain rfl := eq_opening_of_ofOpen? hopen
      cases depth with
      | zero =>
        rw [readValue?_opening_zero hskip] at h
        cases h
      | succ d =>
        cases f with
        | array =>
          rw [readValue?_array d hskip] at h
          obtain ⟨⟨items, left⟩, hitems, heq⟩ := Option.map_eq_some_iff.mp h
          obtain ⟨rfl, rfl⟩ := Prod.mk.inj heq
          obtain ⟨front, tree, hfront, hgroup, hstands⟩ :=
            writesGroup_of_array (hbelow d rfl) hitems
          exact ⟨front, tree, hfront, .inr hgroup, hstands⟩
        | object =>
          rw [readValue?_object d hskip] at h
          obtain ⟨⟨members, left⟩, hmembers, heq⟩ := Option.map_eq_some_iff.mp h
          obtain ⟨rfl, rfl⟩ := Prod.mk.inj heq
          obtain ⟨front, tree, hfront, hgroup, hstands⟩ :=
            writesGroup_of_object (hbelow d rfl) hmembers
          exact ⟨front, tree, hfront, .inr hgroup, hstands⟩

/-- **What the reader takes off a text is written there.** -/
theorem readValue?_sound (depth : Nat) : SoundAt depth := by
  induction depth with
  | zero => exact soundAt_of_below fun d hd => by cases hd
  | succ depth ih => exact soundAt_of_below fun d hd => by cases hd; exact ih

/-! ### What is written is read -/

theorem word_quote : word "\"" = [Ascii.byte '"'] := rfl

theorem word_colon : word ":" = [Ascii.byte ':'] := rfl

/-- A sign is taken off with the blanks in front of it. -/
theorem readWord?_byte {before : List UInt8} {b : UInt8} (hbefore : IsBlank before)
    (hb : isBlankByte b = false) (bs : List UInt8) :
    readWord? [b] (skipBlank (before ++ b :: bs)) = some bs := by
  rw [skipBlank_append hbefore, skipBlank_cons hb]
  exact readWord?_append [b] bs

/-- A name is read with its colon, if its units stand for a text. -/
theorem readName?_of_spells {before content between : List UInt8} {units : List Nat}
    (hbefore : IsBlank before) (hname : SpellsUnits content units) (hbetween : IsBlank between)
    (bs : List UInt8) : readName? (before ++ Ascii.byte '"' ::
      (content ++ Ascii.byte '"' :: (between ++ Ascii.byte ':' :: bs)))
        = (textOfUnits? units).map fun name => (name, bs) := by
  have hquote := readWord?_byte (b := Ascii.byte '"') hbefore (by decide)
    (content ++ Ascii.byte '"' :: (between ++ Ascii.byte ':' :: bs))
  have hcolon := readWord?_byte (b := Ascii.byte ':') hbetween (by decide) bs
  rw [readName?, word_quote, hquote]
  simp only [Option.bind_eq_bind, Option.bind_some, readText?_of_spells hname, textOfUnits?]
  cases charsOf? units with
  | none => rfl
  | some cs =>
    simp only [Option.map_some, Option.bind_some, word_colon, hcolon]

/-- A member is read, if its value is. -/
theorem readMember?_complete {β : Type} {value : List UInt8 → α → Prop} {P : β → Prop}
    {item : List UInt8 → Option (β × List UInt8)} {m : List Nat × α} {name : String}
    (hitem : ∀ {front rest}, Led value front m.2 → Ends rest →
      ∃ b, item (front ++ rest) = some (b, rest) ∧ P b)
    (h : WritesMember value front m) (hname : textOfUnits? m.1 = some name) (hrest : Ends rest) :
    ∃ b, readMember? item (front ++ rest) = some ((name, b), rest) ∧ P b := by
  obtain @⟨before, content, between, bs, units, a, hbefore, hcontent, hbetween, hvalue⟩ := h
  obtain ⟨b, hread, hp⟩ := hitem hvalue hrest
  have hhead := readName?_of_spells hbefore hcontent hbetween (bs ++ rest)
  rw [hname] at hhead
  refine ⟨b, ?_, hp⟩
  simp only [List.append_assoc, List.cons_append]
  rw [readMember?, hhead]
  simp [hread]

/-- A member without a name that is a text is refused. -/
theorem readMember?_refused {β : Type} {value : List UInt8 → α → Prop}
    {item : List UInt8 → Option (β × List UInt8)} {m : List Nat × α}
    (h : WritesMember value front m) (hname : textOfUnits? m.1 = none) (rest : List UInt8) :
    readMember? item (front ++ rest) = none := by
  obtain @⟨before, content, between, bs, units, a, hbefore, hcontent, hbetween, -⟩ := h
  have hhead := readName?_of_spells hbefore hcontent hbetween (bs ++ rest)
  rw [hname] at hhead
  simp only [List.append_assoc, List.cons_append]
  rw [readMember?, hhead]
  rfl

/-- Every value that is written is read, in front of a text in front of which it ends. -/
def CompleteAt (depth : Nat) : Prop :=
  ∀ {front tree j rest}, Led (Writes depth) front tree → StandsFor tree j → Ends rest →
    readValue? depth (front ++ rest) = some (j, rest)

/-- The byte starts a number. -/
def startsNumber (b : UInt8) : Bool :=
  b == Ascii.byte '-' || Ascii.isDigit b

theorem Number.Spells.exists_head {s : Number.Spelling} (h : Number.Spells s front) :
    ∃ b more, front = b :: more ∧ startsNumber b = true := by
  obtain @⟨negative, whole, fraction, power, point, exponent, hwhole, -, -⟩ := h
  cases negative with
  | true => exact ⟨_, _, rfl, rfl⟩
  | false =>
    obtain ⟨b, more, rfl⟩ := List.exists_cons_of_ne_nil hwhole.nonempty
    refine ⟨b, _, rfl, ?_⟩
    rw [startsNumber, hwhole.digits b List.mem_cons_self, Bool.or_true]

theorem ne_of_startsNumber {b c : UInt8} (hb : startsNumber b = true)
    (hc : startsNumber c = false) : b ≠ c := by
  rintro rfl
  rw [hc] at hb
  cases hb

theorem not_blank_of_startsNumber {b : UInt8} (h : startsNumber b = true) :
    isBlankByte b = false := by
  simp only [isBlankByte, Bool.or_eq_false_iff, beq_eq_false_iff_ne]
  exact ⟨⟨⟨ne_of_startsNumber h (by decide), ne_of_startsNumber h (by decide)⟩,
    ne_of_startsNumber h (by decide)⟩, ne_of_startsNumber h (by decide)⟩

/-- Where a value starts there is no blank and no closing bracket. -/
theorem Writes.exists_head {tree : Tree} (h : Writes depth front tree) :
    ∃ b more, front = b :: more ∧ isBlankByte b = false ∧ b ≠ Ascii.byte ']' := by
  have hscalar : WritesScalar front tree →
      ∃ b more, front = b :: more ∧ isBlankByte b = false ∧ b ≠ Ascii.byte ']' := by
    intro h
    cases h with
    | null | yes | no | text _ => exact ⟨_, _, rfl, by decide, by decide⟩
    | number hspells =>
      obtain ⟨b, more, hfront, hb⟩ := hspells.exists_head
      exact ⟨b, more, hfront, not_blank_of_startsNumber hb, ne_of_startsNumber hb (by decide)⟩
  cases depth with
  | zero => exact hscalar h
  | succ depth =>
    rcases h with h | h
    · exact hscalar h
    · cases h with
      | noItems _ | items _ | noMembers _ | members _ => exact ⟨_, _, rfl, by decide, by decide⟩

theorem stops_of_ends (h : Ends rest) : Number.Stops rest := by
  intro b hb
  rcases h b hb with hblank | rfl | rfl | rfl
  · simp only [isBlankByte, Bool.or_eq_true, beq_iff_eq] at hblank
    rcases hblank with ((rfl | rfl) | rfl) | rfl <;> decide
  · decide
  · decide
  · decide

/-- A value that holds no others is read. -/
theorem readValue?_scalar {tree : Tree} (h : WritesScalar front tree) (hj : StandsFor tree j)
    (hrest : Ends rest) : readValue? depth (front ++ rest) = some (j, rest) := by
  cases h with
  | null =>
    cases hj
    rw [List.cons_append, readValue?, skipBlank_cons (by decide)]
    simp only
    rw [if_neg (by decide), if_true, readWord?_append]
    rfl
  | yes =>
    cases hj
    rw [List.cons_append, readValue?, skipBlank_cons (by decide)]
    simp only
    rw [if_neg (by decide), if_neg (by decide), if_true, readWord?_append]
    rfl
  | no =>
    cases hj
    rw [List.cons_append, readValue?, skipBlank_cons (by decide)]
    simp only
    rw [if_neg (by decide), if_neg (by decide), if_neg (by decide), if_true, readWord?_append]
    rfl
  | @text content units hcontent =>
    obtain ⟨t, ht, rfl⟩ := Option.map_eq_some_iff.mp hj
    obtain ⟨cs, hcs, rfl⟩ := Option.map_eq_some_iff.mp ht
    have htext : readText? (content ++ Ascii.byte '"' :: rest) = some (String.ofList cs, rest) := by
      refine readText?_eq_some_iff.mpr ⟨content, units, rfl, hcontent, ?_⟩
      rw [String.toList_ofList, hcs]
    rw [List.cons_append, List.append_assoc, List.singleton_append, readValue?,
      skipBlank_cons (by decide)]
    simp only
    rw [if_true, htext]
    rfl
  | @number s _ hspells =>
    obtain ⟨n, hn, rfl⟩ := Option.map_eq_some_iff.mp hj
    have hread : Number.read? (front ++ rest) = some (n, rest) := by
      rw [Number.read?, Number.spelled_append hspells (stops_of_ends hrest)]
      simp [hn]
    obtain ⟨b, more, rfl, hb⟩ := hspells.exists_head
    rw [List.cons_append] at hread ⊢
    rw [readValue?, skipBlank_cons (not_blank_of_startsNumber hb)]
    simp only
    rw [if_neg (ne_of_startsNumber hb (by decide)), if_neg (ne_of_startsNumber hb (by decide)),
      if_neg (ne_of_startsNumber hb (by decide)), if_neg (ne_of_startsNumber hb (by decide)),
      if_neg (ne_of_startsNumber hb (by decide)), if_neg (ne_of_startsNumber hb (by decide)), hread]
    rfl

theorem skipBlank_led {tree : Tree} (h : Led (Writes depth) front tree) (rest : List UInt8) :
    ∃ b more, skipBlank (front ++ rest) = b :: more ∧ b ≠ Ascii.byte ']' := by
  obtain ⟨hbefore, hwrites⟩ := h
  obtain ⟨b, more, rfl, hsolid, hb⟩ := hwrites.exists_head
  refine ⟨b, more ++ rest, ?_, hb⟩
  rw [List.append_assoc, skipBlank_append hbefore, List.cons_append, skipBlank_cons hsolid]

theorem skipBlank_member {value : List UInt8 → α → Prop} {m : List Nat × α}
    (h : WritesMember value front m) (rest : List UInt8) :
    ∃ b more, skipBlank (front ++ rest) = b :: more ∧ b ≠ Ascii.byte '}' := by
  obtain ⟨hbefore, -, -, -⟩ := h
  rw [List.append_assoc, skipBlank_append hbefore, List.cons_append, skipBlank_cons (by decide)]
  exact ⟨_, _, rfl, by decide⟩

/-- The items of an array are read, if their level is complete. -/
theorem readGroup?_items (hvalue : CompleteAt depth) {trees : List Tree} {js : List Json}
    (h : WritesList (Led (Writes depth)) front trees) (hall : List.Forall₂ StandsFor trees js)
    (rest : List UInt8) :
    readGroup? .array (readValue? depth) (front ++ Frame.array.close :: rest)
      = some (js, rest) := by
  have hlist := writesList_exists_iff.mpr ⟨trees, h, hall⟩
  obtain ⟨all, hread, hsame⟩ := readGroup?_complete (f := .array) (P := fun (j k : Json) => j = k)
    (fun ⟨_, htree, hstands⟩ hrest => ⟨_, hvalue htree hstands hrest, rfl⟩)
    (fun rest ⟨_, htree, _⟩ => skipBlank_led htree rest) hlist rest
  rw [List.forall₂_eq_eq_eq] at hsame
  rw [hread, hsame]

/-- The members of an object are read, if the level of their values is complete. -/
theorem readGroup?_members (hvalue : CompleteAt depth) {trees : List (List Nat × Tree)}
    {ms : List (String × Json)} (h : WritesList (WritesMember (Writes depth)) front trees)
    (hall : List.Forall₂ MemberStandsFor trees ms) (rest : List UInt8) :
    readGroup? .object (readMember? (readValue? depth)) (front ++ Frame.object.close :: rest)
      = some (ms, rest) := by
  have hmember : ∀ {front member rest},
      (∃ m, WritesMember (Writes depth) front m ∧ MemberStandsFor m member) → Ends rest →
        readMember? (readValue? depth) (front ++ rest) = some (member, rest) := by
    rintro front ⟨name, j⟩ rest ⟨m, hm, hname, hstands⟩ hrest
    obtain ⟨_, hread, rfl⟩ := readMember?_complete (P := (· = j))
      (fun hfront hrest => ⟨j, hvalue hfront hstands hrest, rfl⟩) hm hname hrest
    exact hread
  have hlist := writesList_exists_iff.mpr ⟨trees, h, hall⟩
  obtain ⟨all, hread, hsame⟩ := readGroup?_complete (f := .object)
    (P := fun (m k : String × Json) => m = k) (fun hm hrest => ⟨_, hmember hm hrest, rfl⟩)
    (fun rest ⟨_, hm, _⟩ => skipBlank_member hm rest) hlist rest
  rw [List.forall₂_eq_eq_eq] at hsame
  rw [hread, hsame]

/-- An array or object is read, if the level below is complete. -/
theorem readValue?_group {tree : Tree} (hvalue : CompleteAt depth)
    (h : WritesGroup (Writes depth) front tree) (hj : StandsFor tree j) (rest : List UInt8) :
    readValue? (depth + 1) (front ++ rest) = some (j, rest) := by
  have harray : ∀ inner : List UInt8,
      readValue? (depth + 1) (Ascii.byte '[' :: (inner ++ [Ascii.byte ']']) ++ rest)
        = (readGroup? .array (readValue? depth) (inner ++ Frame.array.close :: rest)).map
            fun (js, rest) => (.array js, rest) := by
    intro inner
    rw [List.cons_append, List.append_assoc, List.singleton_append]
    exact readValue?_array depth (skipBlank_cons (by decide) _)
  have hobject : ∀ inner : List UInt8,
      readValue? (depth + 1) (Ascii.byte '{' :: (inner ++ [Ascii.byte '}']) ++ rest)
        = (readGroup? .object (readMember? (readValue? depth))
            (inner ++ Frame.object.close :: rest)).map fun (ms, rest) => (.object ms, rest) := by
    intro inner
    rw [List.cons_append, List.append_assoc, List.singleton_append]
    exact readValue?_object depth (skipBlank_cons (by decide) _)
  cases h with
  | noItems hblank =>
    cases hj
    rw [harray, readGroup?_blank hblank]
    rfl
  | items hitems =>
    obtain ⟨js, hjs, rfl⟩ := Option.map_eq_some_iff.mp hj
    rw [harray, readGroup?_items hvalue hitems (itemValues?_eq_some_iff.mp hjs)]
    rfl
  | noMembers hblank =>
    cases hj
    rw [hobject, readGroup?_blank hblank]
    rfl
  | members hmembers =>
    obtain ⟨ms, hms, rfl⟩ := Option.map_eq_some_iff.mp hj
    rw [hobject, readGroup?_members hvalue hmembers (memberValues?_eq_some_iff.mp hms)]
    rfl

theorem readValue?_skipBlank {before : List UInt8} (h : IsBlank before) (bs : List UInt8) :
    readValue? depth (before ++ bs) = readValue? depth bs := by
  unfold readValue?
  simp only [skipBlank_append h]

/-- One level of values is complete, if the level below is. -/
theorem completeAt_of_below (hbelow : ∀ d, depth = d + 1 → CompleteAt d) : CompleteAt depth := by
  rintro front tree j rest ⟨hbefore, h⟩ hj hrest
  rw [List.append_assoc, readValue?_skipBlank hbefore]
  cases depth with
  | zero => exact readValue?_scalar h hj hrest
  | succ depth =>
    rcases h with h | h
    · exact readValue?_scalar h hj hrest
    · exact readValue?_group (hbelow depth rfl) h hj rest

/-- **Every value that is written is read.** -/
theorem readValue?_complete (depth : Nat) : CompleteAt depth := by
  induction depth with
  | zero => exact completeAt_of_below fun d hd => by cases hd
  | succ depth ih => exact completeAt_of_below fun d hd => by cases hd; exact ih

/-! ### Whole texts -/

/-- Blanks in front of a text make no difference. -/
theorem read?_append {before : List UInt8} (h : IsBlank before) (bs : List UInt8) :
    read? (before ++ bs) = read? bs := by
  rw [read?, read?, readValue?_skipBlank h]

/-- **The value of a whole text** is what a tree stands for that is written there. -/
theorem read?_eq_some_iff :
    read? bs = some j ↔ ∃ tree, WritesText maxDepth bs tree ∧ StandsFor tree j := by
  constructor
  · intro h
    unfold read? at h
    split at h
    · next k rest hread =>
      split at h
      · next hblank =>
        cases h
        obtain ⟨front, rfl, tree, htree, hstands⟩ := readValue?_sound maxDepth hread
        obtain ⟨behind, hbehind, hrest⟩ := exists_skipBlank rest
        rw [List.isEmpty_iff.mp hblank, List.append_nil] at hrest
        rw [hrest]
        exact ⟨tree, .mk htree hbehind, hstands⟩
      · cases h
    · cases h
  · rintro ⟨tree, htext, hstands⟩
    obtain ⟨htree, hbehind⟩ := htext
    have hends := ends_append hbehind ends_nil
    have hskip := skipBlank_append hbehind []
    rw [List.append_nil] at hends hskip
    rw [read?, readValue?_complete maxDepth htree hstands hends]
    simp only [hskip]
    rfl

end PurgeGateway.Json
