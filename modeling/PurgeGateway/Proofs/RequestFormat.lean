import PurgeGateway.Proofs.Members
import PurgeGateway.Proofs.ReadBack
import PurgeGateway.Purge.Stage

/-!
# The format of purge requests

The format is said on the text as its grammar divides it, before anything is read. A record is an
object or an array: the object gives its values by name, in any order and beside any other members,
and of several members of a name the last one counts; the array gives them in their fixed order. A
choice is a name or an object with null under that name and no other. The last value of the record
may be missing.

The reader takes a body if and only if it has this format and every number and text in it can be
held, even in members that are not looked at. Every other body is an invalid payload.

## Main definitions

* `LastUnder`, `LastIfAny`: the value that stands last under a name.
* `IsText`, `IsChoice`, `Gives`: the values of a request.
* `Describes`: the trees that describe a request.

## Main results

* `Request.ofBytes_eq_ok_iff`: the bodies that are read.
* `accepts_exactly`: the same, and what becomes of every other body.
* `described_and_refused`: bodies of the format that hold what cannot be held.
-/

namespace PurgeGateway

open Json (word Tree StandsFor MemberStandsFor textOfUnits? WritesText)

variable {tree : Tree} {j : Json} {name : String} {members : List (List Nat × Tree)}
  {ms : List (String × Json)}

/-! ### Members of a name -/

/-- No member has the name. -/
def Without (name : String) (members : List (List Nat × Tree)) : Prop :=
  ∀ m ∈ members, textOfUnits? m.1 ≠ some name

/-- The value that stands last under a name. -/
inductive LastUnder (name : String) : List (List Nat × Tree) → Tree → Prop
  | here {units : List Nat} {tree : Tree} {rest : List (List Nat × Tree)}
      (hname : textOfUnits? units = some name) (hlast : Without name rest) :
    LastUnder name ((units, tree) :: rest) tree
  | later {m : List Nat × Tree} {rest : List (List Nat × Tree)} {tree : Tree}
      (h : LastUnder name rest tree) : LastUnder name (m :: rest) tree

/-- The value that stands last under a name, if any does. -/
inductive LastIfAny (name : String) (members : List (List Nat × Tree)) : Option Tree → Prop
  | absent (h : Without name members) : LastIfAny name members none
  | present {tree : Tree} (h : LastUnder name members tree) : LastIfAny name members (some tree)

theorem LastUnder.not_without (h : LastUnder name members tree) : ¬Without name members := by
  induction h with
  | here hname _ => exact fun hwithout => hwithout _ List.mem_cons_self hname
  | later _ ih => exact fun hwithout => ih fun m hm => hwithout m (List.mem_cons_of_mem _ hm)

/-- At most one value stands last under a name. -/
theorem LastUnder.unique {other : Tree} (h : LastUnder name members tree)
    (h' : LastUnder name members other) : tree = other := by
  induction h with
  | here _ hlast =>
    cases h' with
    | here _ _ => rfl
    | later h' => exact absurd hlast h'.not_without
  | later h ih =>
    cases h' with
    | here _ hlast => exact absurd hlast h.not_without
    | later h' => exact ih h'

theorem exists_lastIfAny (name : String) (members : List (List Nat × Tree)) :
    ∃ last, LastIfAny name members last := by
  induction members with
  | nil => exact ⟨none, .absent (List.forall_mem_nil _)⟩
  | cons m members ih =>
    obtain ⟨last, hlast⟩ := ih
    cases hlast with
    | present h => exact ⟨_, .present (.later h)⟩
    | absent h =>
      by_cases hname : textOfUnits? m.1 = some name
      · exact ⟨_, .present (.here hname h)⟩
      · exact ⟨none, .absent (List.forall_mem_cons.mpr ⟨hname, h⟩)⟩

/-- The last value under a name is that of the members that the members stand for. -/
theorem rel_lastMember? (hall : List.Forall₂ MemberStandsFor members ms) {last : Option Tree}
    (h : LastIfAny name members last) : Option.Rel StandsFor last (lastMember? ms name) := by
  induction hall generalizing last with
  | nil =>
    cases h with
    | absent _ => exact .none
    | present h => cases h
  | @cons m member members ms hm _ ih =>
    rw [lastMember?_cons]
    cases h with
    | absent h =>
      obtain ⟨hname, hrest⟩ := List.forall_mem_cons.mp h
      have hlater := ih (.absent hrest)
      have hne : member.1 ≠ name := fun heq => hname (by rw [hm.1, heq])
      rw [if_neg hne]
      cases hlast : lastMember? ms name with
      | none => exact .none
      | some _ => rw [hlast] at hlater; cases hlater
    | present h =>
      cases h with
      | here hname hlast =>
        have hlater := ih (.absent hlast)
        have heq : member.1 = name := Option.some.inj (hm.1.symm.trans hname)
        rw [if_pos heq]
        cases hlast : lastMember? ms name with
        | none => exact .some hm.2
        | some _ => rw [hlast] at hlater; cases hlater
      | later h =>
        have hlater := ih (.present h)
        cases hlast : lastMember? ms name with
        | none => rw [hlast] at hlater; cases hlater
        | some _ => rw [hlast] at hlater; exact hlater

/-! ### Each name once -/

theorem collapseEach_eq (ms : List (String × Json)) :
    Json.collapseEach ms = ms.map fun m => (m.1, m.2.collapse) := by
  induction ms with
  | nil => rfl
  | cons m ms ih => rw [Json.collapseEach, ih, List.map_cons]

theorem collapseItems_eq (js : List Json) : Json.collapseItems js = js.map Json.collapse := by
  induction js with
  | nil => rfl
  | cons j js ih => rw [Json.collapseItems, ih, List.map_cons]

theorem lastMember?_collapse (ms : List (String × Json)) (name : String) :
    lastMember? (collapseMembers (Json.collapseEach ms)) name
      = (lastMember? ms name).map Json.collapse := by
  rw [lastMember?_eq_lookup (nodup_collapseMembers _), lookup_collapseMembers, collapseEach_eq,
    lastMember?_map]

/-- What stands under a name once each name is there once. -/
theorem exists_lastIfAny_collapse (hall : List.Forall₂ MemberStandsFor members ms)
    (name : String) : ∃ last value, LastIfAny name members last ∧ Option.Rel StandsFor last value ∧
      lastMember? (collapseMembers (Json.collapseEach ms)) name = value.map Json.collapse := by
  obtain ⟨last, hlast⟩ := exists_lastIfAny name members
  exact ⟨last, _, hlast, rel_lastMember? hall hlast, lastMember?_collapse ms name⟩

theorem exists_lastUnder_collapse (hall : List.Forall₂ MemberStandsFor members ms)
    (h : lastMember? (collapseMembers (Json.collapseEach ms)) name = some j) :
    ∃ tree value, LastUnder name members tree ∧ StandsFor tree value ∧ value.collapse = j := by
  obtain ⟨last, value, hlast, hrel, heq⟩ := exists_lastIfAny_collapse hall name
  rw [h] at heq
  cases hrel with
  | none => cases heq
  | some hstands =>
    cases hlast with
    | present hlast => exact ⟨_, _, hlast, hstands, (Option.some.inj heq).symm⟩

theorem lastMember?_collapse_of_lastIfAny (hall : List.Forall₂ MemberStandsFor members ms)
    {last : Option Tree} (h : LastIfAny name members last) :
    ∃ value, Option.Rel StandsFor last value ∧
      lastMember? (collapseMembers (Json.collapseEach ms)) name = value.map Json.collapse :=
  ⟨_, rel_lastMember? hall h, lastMember?_collapse ms name⟩

theorem lastMember?_collapse_of_lastUnder (hall : List.Forall₂ MemberStandsFor members ms)
    (h : LastUnder name members tree) : ∃ value, StandsFor tree value ∧
      lastMember? (collapseMembers (Json.collapseEach ms)) name = some value.collapse := by
  obtain ⟨value, hrel, heq⟩ := lastMember?_collapse_of_lastIfAny hall (.present h)
  cases hrel with
  | some hstands => exact ⟨_, hstands, heq⟩

namespace Purge

/-! ### The values of a request -/

/-- The tree is a text. -/
def IsText (tree : Tree) (s : String) : Prop :=
  ∃ units, tree = .text units ∧ textOfUnits? units = some s

/-- The tree is a name among alternatives: a text, or an object with null under the name and no
other member. -/
inductive IsChoice (name : String) : Tree → Prop
  | text {tree : Tree} (h : IsText tree name) : IsChoice name tree
  | object {members : List (List Nat × Tree)} (hnames : ∀ m ∈ members, textOfUnits? m.1 = some name)
      (hnull : LastUnder name members .null) : IsChoice name (.object members)

/-- The values of a request in their order, the last of which may be missing. -/
structure Gives (purgeType action network paths : Tree) (warm : Option Tree) (r : Request) :
    Prop where
  purgeType : IsText purgeType r.purgeType
  action : IsChoice r.action.name action
  network : IsChoice r.network.name network
  paths : ∃ items, paths = .array items ∧ List.Forall₂ IsText items r.paths
  nonempty : r.paths ≠ []
  warm : warm = none ∧ r.warm = false ∨ warm = some (.bool r.warm)

/-- The trees that describe a request. -/
inductive Describes : Tree → Request → Prop
  | object {members : List (List Nat × Tree)} {purgeType action network paths : Tree}
      {warm : Option Tree} {r : Request} (hpurgeType : LastUnder "purgeType" members purgeType)
      (haction : LastUnder "actionType" members action)
      (hnetwork : LastUnder "environment" members network)
      (hpaths : LastUnder "paths" members paths)
      (hwarm : LastIfAny "postPurgeRequest" members warm)
      (h : Gives purgeType action network paths warm r) : Describes (.object members) r
  | four {purgeType action network paths : Tree} {r : Request}
      (h : Gives purgeType action network paths none r) :
    Describes (.array [purgeType, action, network, paths]) r
  | five {purgeType action network paths warm : Tree} {r : Request}
      (h : Gives purgeType action network paths (some warm) r) :
    Describes (.array [purgeType, action, network, paths, warm]) r

theorem isText_iff {s : String} (h : StandsFor tree j) :
    IsText tree s ↔ textOf? j.collapse = some s := by
  have htext : textOf? j.collapse = some s ↔ j = .text s := by
    cases j <;> simp [Json.collapse, textOf?]
  rw [htext, IsText, ← Json.standsFor_text_iff]
  constructor
  · exact fun hs => Json.standsFor_unique h hs
  · rintro rfl
    exact h

/-- The name that a value chooses. -/
def chosen? : Json → Option String
  | .text name => some name
  | .object [(name, .null)] => some name
  | _ => none

theorem chosen?_eq_none {j : Json} (htext : ∀ name, j ≠ .text name)
    (hobject : ∀ name, j ≠ .object [(name, .null)]) : chosen? j = none := by
  unfold chosen?
  split
  · next name => exact (htext name rfl).elim
  · next name => exact (hobject name rfl).elim
  · rfl

theorem choice?_eq {α : Type} (alternatives : List (String × α)) (j : Json) :
    choice? alternatives j = (chosen? j).bind fun name =>
      (alternatives.find? (·.1 == name)).map (·.2) := by
  unfold choice?
  split
  · rfl
  · rfl
  · next htext hobject =>
    rw [chosen?_eq_none htext hobject]
    rfl

theorem collapse_eq_null_iff {j : Json} : j.collapse = .null ↔ j = .null := by
  cases j <;> simp [Json.collapse]

theorem chosen?_eq_some_iff {j : Json} : chosen? j = some name ↔
    j = .text name ∨ j = .object [(name, .null)] := by
  constructor
  · intro h
    unfold chosen? at h
    split at h
    · cases h; exact .inl rfl
    · cases h; exact .inr rfl
    · cases h
  · rintro (rfl | rfl) <;> rfl

theorem names_eq_iff (hall : List.Forall₂ MemberStandsFor members ms) :
    (∀ m ∈ members, textOfUnits? m.1 = some name) ↔ ∀ member ∈ ms, member.1 = name := by
  induction hall with
  | nil => simp
  | @cons m member members ms hm _ ih =>
    rw [List.forall_mem_cons, List.forall_mem_cons, ih, hm.1, Option.some.injEq]

theorem isChoice_iff (h : StandsFor tree j) :
    IsChoice name tree ↔ chosen? j.collapse = some name := by
  rw [chosen?_eq_some_iff]
  constructor
  · intro hchoice
    cases hchoice with
    | text htext =>
      obtain ⟨units, rfl, hunits⟩ := htext
      rw [Json.standsFor_unique h (Json.standsFor_text_iff.mpr ⟨units, rfl, hunits⟩)]
      exact .inl rfl
    | object hnames hnull =>
      obtain ⟨ms, hms, rfl⟩ := Option.map_eq_some_iff.mp h
      have hall := Json.memberValues?_eq_some_iff.mp hms
      obtain ⟨value, hvalue, hlast⟩ := lastMember?_collapse_of_lastUnder hall hnull
      cases hvalue
      rw [lastMember?_eq_lookup (nodup_collapseMembers _), lookup_collapseMembers] at hlast
      refine .inr (congrArg Json.object (collapseMembers_eq_singleton_iff.mpr ⟨?_, hlast⟩))
      rw [collapseEach_eq, List.forall_mem_map]
      exact (names_eq_iff hall).mp hnames
  · rintro (htext | hobject)
    · exact .text ((isText_iff h).mpr (by rw [htext]; rfl))
    · cases j with
      | object ms =>
        obtain ⟨members, rfl, hall⟩ := Json.standsFor_object_iff.mp h
        obtain ⟨hnames, hlast⟩ := collapseMembers_eq_singleton_iff.mp (Json.object.inj hobject)
        rw [← lookup_collapseMembers, ← lastMember?_eq_lookup (nodup_collapseMembers _)] at hlast
        obtain ⟨tree, value, htree, hvalue, hnull⟩ := exists_lastUnder_collapse hall hlast
        rw [collapse_eq_null_iff] at hnull
        rw [hnull, Json.standsFor_null_iff] at hvalue
        rw [collapseEach_eq, List.forall_mem_map] at hnames
        exact .object ((names_eq_iff hall).mpr hnames) (hvalue ▸ htree)
      | null | bool _ | number _ | text _ | array _ => cases hobject

/-- A choice is taken if its name is given to one alternative only. -/
theorem choice?_iff {α : Type} {alternatives : List (String × α)} {a : α} (h : StandsFor tree j)
    (hname : ∀ given, (alternatives.find? (·.1 == given)).map (·.2) = some a ↔ given = name) :
    choice? alternatives j.collapse = some a ↔ IsChoice name tree := by
  rw [isChoice_iff h, choice?_eq, Option.bind_eq_some_iff]
  constructor
  · rintro ⟨given, hgiven, ha⟩
    rw [hgiven, (hname given).mp ha]
  · exact fun hchosen => ⟨name, hchosen, (hname name).mpr rfl⟩

theorem find?_pair {α : Type} {m k : String × α} {given : String} {a : α} :
    ([m, k].find? (·.1 == given)).map (·.2) = some a ↔
      m.1 = given ∧ m.2 = a ∨ m.1 ≠ given ∧ k.1 = given ∧ k.2 = a := by
  by_cases hm : m.1 = given <;> by_cases hk : k.1 = given <;> simp [hm, hk]

theorem action_iff {action : Action} (h : StandsFor tree j) :
    Action.ofJson? j.collapse = some action ↔ IsChoice action.name tree := by
  refine choice?_iff h fun given => ?_
  rw [find?_pair]
  cases action with
  | invalidate => simp [Action.name, eq_comm]
  | delete => simp [Action.name, eq_comm]; rintro rfl; decide

theorem network_iff {network : Network} (h : StandsFor tree j) :
    Network.ofJson? j.collapse = some network ↔ IsChoice network.name tree := by
  refine choice?_iff h fun given => ?_
  rw [find?_pair]
  cases network with
  | production => simp [Network.name, eq_comm]
  | staging => simp [Network.name, eq_comm]; rintro rfl; decide

theorem texts_iff {items : List Tree} {js : List Json}
    (hall : List.Forall₂ StandsFor items js) : ∀ {texts : List String},
      (js.map Json.collapse).mapM textOf? = some texts ↔ List.Forall₂ IsText items texts := by
  induction hall with
  | nil => intro texts; simp [eq_comm]
  | @cons tree j items js h _ ih =>
    intro texts
    simp only [List.map_cons, List.mapM_cons, Option.bind_eq_bind, Option.bind_eq_some_iff,
      Option.pure_def, Option.some.injEq]
    constructor
    · rintro ⟨s, hs, rest, hrest, rfl⟩
      exact .cons ((isText_iff h).mpr hs) (ih.mp hrest)
    · rintro (_ | ⟨hs, hrest⟩)
      exact ⟨_, (isText_iff h).mp hs, _, ih.mpr hrest, rfl⟩

theorem paths_iff {paths : List String} (h : StandsFor tree j) :
    textsOf? j.collapse = some paths ↔
      ∃ items, tree = .array items ∧ List.Forall₂ IsText items paths := by
  cases j with
  | array js =>
    obtain ⟨items, rfl, hall⟩ := Json.standsFor_array_iff.mp h
    rw [Json.collapse, textsOf?, collapseItems_eq, texts_iff hall]
    simp
  | null | bool _ | number _ | text _ | object _ =>
    constructor
    · intro hpaths
      cases hpaths
    · rintro ⟨items, rfl, -⟩
      obtain ⟨_, _, heq⟩ := Option.map_eq_some_iff.mp h
      cases heq

theorem warm_iff {last : Option Tree} {value : Option Json} {warm : Bool}
    (h : Option.Rel StandsFor last value) : warmOf? (value.map Json.collapse) = some warm ↔
      last = none ∧ warm = false ∨ last = some (.bool warm) := by
  cases h with
  | none => simp [warmOf?, eq_comm]
  | @some tree j h =>
    have hbool : warmOf? (some j.collapse) = some warm ↔ j = .bool warm := by
      cases j <;> simp [Json.collapse, warmOf?]
    rw [Option.map_some, hbool]
    constructor
    · rintro rfl
      exact .inr (congrArg some (Json.standsFor_bool_iff.mp h))
    · rintro (⟨hnone, -⟩ | hsome)
      · cases hnone
      · obtain rfl := Option.some.inj hsome
        exact Json.standsFor_unique h (Json.standsFor_bool_iff.mpr rfl)

/-- **The values of a request are read as what they are.** -/
theorem ofParts?_iff {purgeType action network paths : Tree} {warm : Option Tree}
    {jPurgeType jAction jNetwork jPaths : Json} {jWarm : Option Json} {r : Request}
    (hpurgeType : StandsFor purgeType jPurgeType) (haction : StandsFor action jAction)
    (hnetwork : StandsFor network jNetwork) (hpaths : StandsFor paths jPaths)
    (hwarm : Option.Rel StandsFor warm jWarm) :
    Request.ofParts? jPurgeType.collapse jAction.collapse jNetwork.collapse jPaths.collapse
        (jWarm.map Json.collapse) = some r ∧ r.paths ≠ [] ↔
      Gives purgeType action network paths warm r := by
  simp only [Request.ofParts?, Option.bind_eq_bind, Option.bind_eq_some_iff, Option.some.injEq]
  constructor
  · rintro ⟨⟨s, hs, a, ha, n, hn, ps, hps, w, hw, rfl⟩, hnonempty⟩
    exact ⟨(isText_iff hpurgeType).mpr hs, (action_iff haction).mp ha, (network_iff hnetwork).mp hn,
      (paths_iff hpaths).mp hps, hnonempty, (warm_iff hwarm).mp hw⟩
  · intro h
    exact ⟨⟨_, (isText_iff hpurgeType).mp h.purgeType, _, (action_iff haction).mpr h.action, _,
      (network_iff hnetwork).mpr h.network, _, (paths_iff hpaths).mpr h.paths, _,
      (warm_iff hwarm).mpr h.warm, rfl⟩, h.nonempty⟩

/-! ### Records -/

theorem object_iff {r : Request} (hall : List.Forall₂ MemberStandsFor members ms) :
    Request.ofJson? (Json.object ms).collapse = some r ∧ r.paths ≠ [] ↔
      Describes (.object members) r := by
  rw [Json.collapse, Request.ofJson?]
  simp only [Option.bind_eq_bind, Option.bind_eq_some_iff]
  constructor
  · rintro ⟨⟨jPurgeType, h₁, jAction, h₂, jNetwork, h₃, jPaths, h₄, hparts⟩, hnonempty⟩
    obtain ⟨_, _, hpurgeType, hs₁, rfl⟩ := exists_lastUnder_collapse hall h₁
    obtain ⟨_, _, haction, hs₂, rfl⟩ := exists_lastUnder_collapse hall h₂
    obtain ⟨_, _, hnetwork, hs₃, rfl⟩ := exists_lastUnder_collapse hall h₃
    obtain ⟨_, _, hpaths, hs₄, rfl⟩ := exists_lastUnder_collapse hall h₄
    obtain ⟨_, _, hwarm, hs₅, heq⟩ := exists_lastIfAny_collapse hall "postPurgeRequest"
    rw [heq] at hparts
    exact .object hpurgeType haction hnetwork hpaths hwarm
      ((ofParts?_iff hs₁ hs₂ hs₃ hs₄ hs₅).mp ⟨hparts, hnonempty⟩)
  · rintro ⟨hpurgeType, haction, hnetwork, hpaths, hwarm, h⟩
    obtain ⟨_, hs₁, h₁⟩ := lastMember?_collapse_of_lastUnder hall hpurgeType
    obtain ⟨_, hs₂, h₂⟩ := lastMember?_collapse_of_lastUnder hall haction
    obtain ⟨_, hs₃, h₃⟩ := lastMember?_collapse_of_lastUnder hall hnetwork
    obtain ⟨_, hs₄, h₄⟩ := lastMember?_collapse_of_lastUnder hall hpaths
    obtain ⟨_, hs₅, h₅⟩ := lastMember?_collapse_of_lastIfAny hall hwarm
    obtain ⟨hparts, hnonempty⟩ := (ofParts?_iff hs₁ hs₂ hs₃ hs₄ hs₅).mpr h
    rw [← h₅] at hparts
    exact ⟨⟨_, h₁, _, h₂, _, h₃, _, h₄, hparts⟩, hnonempty⟩

theorem array_iff {r : Request} {items : List Tree} {js : List Json}
    (hall : List.Forall₂ StandsFor items js) :
    Request.ofJson? (Json.array js).collapse = some r ∧ r.paths ≠ [] ↔
      Describes (.array items) r := by
  rw [Json.collapse, collapseItems_eq]
  match hall with
  | .cons h₁ (.cons h₂ (.cons h₃ (.cons h₄ .nil))) =>
    have hparts := ofParts?_iff h₁ h₂ h₃ h₄ .none (r := r)
    constructor
    · exact fun h => .four (hparts.mp h)
    · rintro (_ | h)
      exact hparts.mpr h
  | .cons h₁ (.cons h₂ (.cons h₃ (.cons h₄ (.cons h₅ .nil)))) =>
    have hparts := ofParts?_iff h₁ h₂ h₃ h₄ (.some h₅) (r := r)
    constructor
    · exact fun h => .five (hparts.mp h)
    · rintro (_ | _ | h)
      exact hparts.mpr h
  | .nil | .cons _ .nil | .cons _ (.cons _ .nil) | .cons _ (.cons _ (.cons _ .nil))
  | .cons _ (.cons _ (.cons _ (.cons _ (.cons _ (.cons _ _))))) =>
    constructor
    · rintro ⟨h, -⟩
      cases h
    · rintro ⟨⟩

/-- **The values that describe a request are those that are read as one.** -/
theorem ofJson?_iff {r : Request} (h : StandsFor tree j) :
    Request.ofJson? j.collapse = some r ∧ r.paths ≠ [] ↔ Describes tree r := by
  cases tree with
  | object members =>
    obtain ⟨ms, hms, rfl⟩ := Option.map_eq_some_iff.mp h
    exact object_iff (Json.memberValues?_eq_some_iff.mp hms)
  | array items =>
    obtain ⟨js, hjs, rfl⟩ := Option.map_eq_some_iff.mp h
    exact array_iff (Json.itemValues?_eq_some_iff.mp hjs)
  | null | bool _ =>
    cases h
    constructor
    · rintro ⟨h, -⟩
      cases h
    · rintro ⟨⟩
  | number _ | text _ =>
    obtain ⟨_, _, rfl⟩ := Option.map_eq_some_iff.mp h
    constructor
    · rintro ⟨h, -⟩
      cases h
    · rintro ⟨⟩

/-! ### Bodies -/

/-- The body has the format, and all that it holds can be held. -/
def Asks (body : List UInt8) (r : Request) : Prop :=
  ∃ tree, WritesText Json.maxDepth body tree ∧ tree.Representable ∧ Describes tree r

/-- A request is read from a value that has paths. -/
theorem Request.ofBytes_eq_ok_iff_read {body : List UInt8} {r : Request} :
    Request.ofBytes body = .ok r ↔ ∃ j, Json.read? body = some j ∧
      Request.ofJson? j.collapse = some r ∧ r.paths ≠ [] := by
  rw [Request.ofBytes, Json.parse?]
  cases Json.read? body with
  | none => simp
  | some j =>
    simp only [Option.map_some, Option.some.injEq, exists_eq_left']
    cases Request.ofJson? j.collapse with
    | none => simp
    | some q =>
      simp only [List.isEmpty_iff, Option.some.injEq]
      constructor
      · intro h
        split at h
        · cases h
        · next hpaths =>
          cases h
          exact ⟨rfl, hpaths⟩
      · rintro ⟨rfl, hpaths⟩
        exact if_neg hpaths

/-- The bodies that are read. -/
theorem Request.ofBytes_eq_ok_iff {body : List UInt8} {r : Request} :
    Request.ofBytes body = .ok r ↔ Asks body r := by
  rw [Request.ofBytes_eq_ok_iff_read]
  constructor
  · rintro ⟨j, hj, h⟩
    obtain ⟨tree, htext, hstands⟩ := Json.read?_eq_some_iff.mp hj
    exact ⟨tree, htext, Json.representable_iff.mpr ⟨j, hstands⟩, (ofJson?_iff hstands).mp h⟩
  · rintro ⟨tree, htext, hrepresentable, h⟩
    obtain ⟨j, hstands⟩ := Json.representable_iff.mp hrepresentable
    exact ⟨j, Json.read?_eq_some_iff.mpr ⟨tree, htext, hstands⟩, (ofJson?_iff hstands).mpr h⟩

theorem routed_ne_invalidPayload (api : String) (r : Request) :
    (Stage.routed api r).1 ≠ .ended (.error .invalidPayload) := by
  unfold Stage.routed
  split
  · intro h
    cases h
  · split <;> intro h <;> cases h

/-- **The reader takes exactly its format**, and a call with any other body fails for an invalid
payload. -/
theorem accepts_exactly (api : String) (body : List UInt8) :
    (∀ r, Request.ofBytes body = .ok r ↔ Asks body r) ∧
      ∀ headers, acceptsContentType headers = true →
        ((Stage.accept api headers body).1 = .ended (.error .invalidPayload) ↔
          ∀ r, ¬Asks body r) := by
  refine ⟨fun r => Request.ofBytes_eq_ok_iff, fun headers hjson => ?_⟩
  rw [Stage.accept, hjson]
  simp only [Bool.not_true, Bool.false_eq_true, if_false]
  cases hbody : Request.ofBytes body with
  | error fault =>
    refine ⟨fun _ r hr => ?_, fun _ => rfl⟩
    rw [← Request.ofBytes_eq_ok_iff, hbody] at hr
    cases hr
  | ok r =>
    have hr := Request.ofBytes_eq_ok_iff.mp hbody
    exact ⟨fun h => absurd h (routed_ne_invalidPayload api r), fun h => absurd hr (h r)⟩

/-- A record as an array without its last value. The action is an object, null under the name. -/
def terse : List UInt8 :=
  Utf8.bytes "[\"cache-tags\" , \x7b\"delete\":0, \"\\u0064elete\":null\x7d,\"production\",[\"a\"]]"

theorem accepts_exactly_terse :
    acceptsContentType [⟨"content-type", Utf8.bytes "application/json"⟩] = true ∧
      Asks terse ⟨"cache-tags", .delete, .production, ["a"], false⟩ ∧
      (Stage.accept "" [⟨"content-type", Utf8.bytes "application/json"⟩] terse).1
        ≠ .ended (.error .invalidPayload) := by
  have hjson : acceptsContentType [⟨"content-type", Utf8.bytes "application/json"⟩] = true := by
    decide +kernel
  obtain ⟨hformat, hothers⟩ := accepts_exactly "" terse
  have hasks : Asks terse ⟨"cache-tags", .delete, .production, ["a"], false⟩ :=
    (hformat _).mp (by decide +kernel)
  exact ⟨hjson, hasks, fun h => (hothers _ hjson).mp h _ hasks⟩

/-! ### What cannot be held -/

/-- Members under names that are written as they are. -/
def named (ms : List (String × Tree)) : List (List Nat × Tree) :=
  ms.map fun m => (m.1.toList.map Char.toNat, m.2)

theorem lastIfAny_named (ms : List (String × Tree)) (name : String) :
    LastIfAny name (named ms) (lastMember? ms name) := by
  induction ms with
  | nil => exact .absent (List.forall_mem_nil _)
  | cons m ms ih =>
    have hunits := Json.textOfUnits?_map_toNat m.1
    rw [lastMember?_cons]
    cases hlast : lastMember? ms name with
    | some tree =>
      rw [hlast] at ih
      cases ih with
      | present h => exact .present (.later h)
    | none =>
      rw [hlast] at ih
      cases ih with
      | absent h =>
        by_cases hname : m.1 = name
        · rw [Option.none_or, if_pos hname]
          exact .present (.here (by rw [hunits, hname]) h)
        · rw [Option.none_or, if_neg hname]
          exact .absent (List.forall_mem_cons.mpr ⟨by simpa [hunits] using hname, h⟩)

theorem lastUnder_named {ms : List (String × Tree)} (h : lastMember? ms name = some tree) :
    LastUnder name (named ms) tree := by
  have hlast := lastIfAny_named ms name
  rw [h] at hlast
  cases hlast with
  | present h => exact h

/-- A record up to the value of a member that nobody knows. -/
def noteHead : List UInt8 :=
  Utf8.bytes "\x7b\"purgeType\":\"urls\",\"actionType\":\"delete\",\"environment\":\"staging\"," ++
    Utf8.bytes "\"paths\":[\"/a\"],\"note\":"

/-- The record with a value there. -/
def withNote (note : List UInt8) : List UInt8 :=
  noteHead ++ (note ++ [Ascii.byte '\x7d'])

/-- What the record asks for. -/
def noted : Request :=
  ⟨"urls", .delete, .staging, ["/a"], false⟩

/-- A text as a tree. -/
def textTree (s : String) : Tree :=
  .text (s.toList.map Char.toNat)

theorem isText_textTree (s : String) : IsText (textTree s) s :=
  ⟨_, rfl, Json.textOfUnits?_map_toNat s⟩

/-- The members of the record. -/
def notedMembers (note : Tree) : List (String × Tree) :=
  [("purgeType", textTree "urls"), ("actionType", textTree "delete"),
    ("environment", textTree "staging"), ("paths", .array [textTree "/a"]), ("note", note)]

theorem writes_withNote {note : List UInt8} (h : Json.Writes 126 note tree) :
    WritesText Json.maxDepth (withNote note) (.object (named (notedMembers tree))) := by
  have hpaths : Json.Writes 126 (Utf8.bytes "[\"/a\"]") (.array [textTree "/a"]) :=
    .inr (.items (.last (.solid (Json.writes_renderText "/a")) Json.isBlank_nil))
  have hmembers := Json.WritesList.cons
    (Json.writesMember_render "purgeType" (Json.writes_renderText "urls")) Json.isBlank_nil
    (.cons (Json.writesMember_render "actionType" (Json.writes_renderText "delete"))
      Json.isBlank_nil
    (.cons (Json.writesMember_render "environment" (Json.writes_renderText "staging"))
      Json.isBlank_nil
    (.cons (Json.writesMember_render "paths" hpaths) Json.isBlank_nil
    (.last (Json.writesMember_render "note" h) Json.isBlank_nil))))
  have hwhole : Json.Writes Json.maxDepth _ (.object (named (notedMembers tree))) :=
    .inr (.members hmembers)
  have htext := WritesText.mk (.solid hwhole) Json.isBlank_nil
  have hhead : noteHead = Ascii.byte '\x7b' ::
      (Utf8.encode (Json.renderText "purgeType") ++ Ascii.byte ':' ::
        (Utf8.encode (Json.renderText "urls") ++ Ascii.byte ',' ::
      (Utf8.encode (Json.renderText "actionType") ++ Ascii.byte ':' ::
        (Utf8.encode (Json.renderText "delete") ++ Ascii.byte ',' ::
      (Utf8.encode (Json.renderText "environment") ++ Ascii.byte ':' ::
        (Utf8.encode (Json.renderText "staging") ++ Ascii.byte ',' ::
      (Utf8.encode (Json.renderText "paths") ++ Ascii.byte ':' ::
        (Utf8.bytes "[\"/a\"]" ++ Ascii.byte ',' ::
      (Utf8.encode (Json.renderText "note") ++ [Ascii.byte ':'])))))))))  := by
    decide +kernel
  rw [withNote, hhead]
  simpa only [List.append_nil, List.nil_append, List.append_assoc, List.cons_append] using htext

/-- Whatever is in the unknown member, the record describes the same request. -/
theorem describes_withNote (note : Tree) :
    Describes (.object (named (notedMembers note))) noted := by
  refine .object (lastUnder_named rfl) (lastUnder_named rfl) (lastUnder_named rfl)
    (lastUnder_named rfl) (lastIfAny_named (notedMembers note) "postPurgeRequest") ?_
  exact {
    purgeType := isText_textTree "urls"
    action := .text (isText_textTree "delete")
    network := .text (isText_textTree "staging")
    paths := ⟨_, rfl, .cons (isText_textTree "/a") .nil⟩
    nonempty := List.cons_ne_nil _ _
    warm := .inl ⟨rfl, rfl⟩ }

/-- A number past the largest double is a number of the grammar. -/
theorem writes_endless : Json.Writes 126 (Utf8.bytes "1e999")
    (.number ⟨false, word "1", none, some (false, word "999")⟩) := by
  have hwhole : Json.Number.IsWhole (word "1") :=
    { nonempty := by decide +kernel, digits := by decide +kernel, leading := by decide +kernel }
  have hpower : Json.Number.IsDigits (word "999") := ⟨by decide +kernel, by decide +kernel⟩
  have hspells : Json.Number.Spells ⟨false, word "1", none, some (false, word "999")⟩ _ :=
    .mk hwhole .absent (.bare (.inl rfl) hpower)
  have hbytes : Utf8.bytes "1e999" = Json.Number.signText false ++
      (word "1" ++ ([] ++ Ascii.byte 'e' :: word "999")) := by
    decide +kernel
  rw [hbytes]
  exact .scalar (.number hspells)

/-- Half of a surrogate pair is a unit of the grammar. -/
theorem writes_half : Json.Writes 126 (Utf8.bytes "\"\\ud800\"") (.text [0xd800]) := by
  have hhalf : Json.hexFour? (Ascii.byte 'd') (Ascii.byte '8') (Ascii.byte '0') (Ascii.byte '0')
      = some 0xd800 := by
    decide +kernel
  have hbytes : Utf8.bytes "\"\\ud800\"" = Ascii.byte '"' :: (Ascii.byte '\\' :: Ascii.byte 'u' ::
      Ascii.byte 'd' :: Ascii.byte '8' :: Ascii.byte '0' :: Ascii.byte '0' :: [] ++
        [Ascii.byte '"']) := by
    decide +kernel
  rw [hbytes]
  exact .scalar (.text (.code hhalf .nil))

/-- **The format alone is not enough.** With a number past the largest double in a member that
nobody knows, or half of a surrogate pair, a body describes a request and is refused. -/
theorem described_and_refused :
    ((∃ tree, WritesText Json.maxDepth (withNote (Utf8.bytes "1e999")) tree ∧
      Describes tree noted) ∧
      Request.ofBytes (withNote (Utf8.bytes "1e999")) = .error .notJson) ∧
    ((∃ tree, WritesText Json.maxDepth (withNote (Utf8.bytes "\"\\ud800\"")) tree ∧
      Describes tree noted) ∧
      Request.ofBytes (withNote (Utf8.bytes "\"\\ud800\"")) = .error .notJson) := by
  refine ⟨⟨⟨_, writes_withNote writes_endless, describes_withNote _⟩, ?_⟩,
    ⟨⟨_, writes_withNote writes_half, describes_withNote _⟩, ?_⟩⟩
  · decide +kernel
  · decide +kernel

end Purge

end PurgeGateway
