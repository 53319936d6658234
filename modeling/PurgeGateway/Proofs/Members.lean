import PurgeGateway.AccessLog.Record
import Mathlib.Data.List.Induction
import Mathlib.Data.List.Nodup

/-!
# Members under names

A list of members is read by name: the first one under a name counts. Putting a member in the place
of another, putting it at the end unless its name is there, and going over to each name once are
told by what is read afterwards.

## Main results

* `lookup_upsert_self`, `lookup_upsert_of_ne`: a member that is put in its place.
* `lookup_collapseMembers`, `nodup_collapseMembers`, `names_collapseMembers`: each name once, where
  it came first, with its last value.
* `collapseMembers_eq_singleton_iff`: when one name is left.
* `AccessLog.lookup_foldl_addAbsent`, `AccessLog.nodup_foldl_addAbsent`,
  `AccessLog.foldl_addAbsent_eq_append`: members that are put at the end unless their names are
  there.
* `mem_iff_lookup`, `lookup_eq_of_perm`: where each name stands once, reading by name finds what is
  there, in whatever order.
-/

namespace PurgeGateway

variable {α : Type} {members : List (String × α)} {name : String} {value : α}

/-! ### Reading by name -/

theorem lookup_cons_eq_ite (m : String × α) (members : List (String × α)) (name : String) :
    (m :: members).lookup name = if m.1 = name then some m.2 else members.lookup name := by
  obtain ⟨n, v⟩ := m
  rw [List.lookup_cons]
  by_cases h : n = name
  · simp [h]
  · rw [beq_false_of_ne (Ne.symm h), if_neg h]

theorem lookup_eq_none_iff_notMem :
    members.lookup name = none ↔ name ∉ members.map (·.1) := by
  induction members with
  | nil => simp
  | cons m members ih =>
    rw [lookup_cons_eq_ite, List.map_cons, List.mem_cons]
    by_cases h : m.1 = name
    · simp [h]
    · rw [if_neg h, ih]
      simp [Ne.symm h]

/-- Where each name stands once, reading by name finds what is there. -/
theorem mem_iff_lookup (h : (members.map (·.1)).Nodup) :
    (name, value) ∈ members ↔ members.lookup name = some value := by
  induction members with
  | nil => simp
  | cons m members ih =>
    obtain ⟨hm, hrest⟩ := List.nodup_cons.mp h
    rw [List.mem_cons, lookup_cons_eq_ite, ih hrest]
    by_cases hname : m.1 = name
    · have hother : members.lookup name = none := by
        rw [lookup_eq_none_iff_notMem, ← hname]
        exact hm
      rw [if_pos hname, hother]
      obtain ⟨n, v⟩ := m
      subst hname
      simp [eq_comm]
    · rw [if_neg hname]
      have hne : (name, value) ≠ m := fun heq => hname (by rw [← heq])
      simp [hne]

/-- Where each name stands once, reading by name does not depend on the order. -/
theorem lookup_eq_of_perm {others : List (String × α)} (h : members.Perm others)
    (hnodup : (members.map (·.1)).Nodup) : members.lookup name = others.lookup name := by
  have hothers : (others.map (·.1)).Nodup := (h.map _).nodup_iff.mp hnodup
  refine Option.ext fun value => ?_
  rw [← mem_iff_lookup hnodup, ← mem_iff_lookup hothers, h.mem_iff]

/-! ### One member put in its place -/

theorem lookup_upsert_self (members : List (String × α)) (name : String) (value : α) :
    (upsert members name value).lookup name = some value := by
  induction members with
  | nil => simp [upsert]
  | cons m members ih =>
    obtain ⟨n, v⟩ := m
    rw [upsert]
    by_cases h : n = name
    · simp [h]
    · rw [if_neg h, lookup_cons_eq_ite, if_neg h, ih]

theorem lookup_upsert_of_ne {other : String} (h : other ≠ name) :
    (upsert members name value).lookup other = members.lookup other := by
  induction members with
  | nil => simp [upsert, lookup_cons_eq_ite, Ne.symm h]
  | cons m members ih =>
    obtain ⟨n, v⟩ := m
    rw [upsert]
    by_cases hn : n = name
    · rw [if_pos hn, lookup_cons_eq_ite, lookup_cons_eq_ite, if_neg (Ne.symm h), hn,
        if_neg (Ne.symm h)]
    · rw [if_neg hn, lookup_cons_eq_ite, lookup_cons_eq_ite, ih]

/-- A member that is put in its place adds its name at the end, or no name. -/
theorem names_upsert (members : List (String × α)) (name : String) (value : α) :
    (upsert members name value).map (·.1)
      = if name ∈ members.map (·.1) then members.map (·.1) else members.map (·.1) ++ [name] := by
  induction members with
  | nil => rfl
  | cons m members ih =>
    obtain ⟨n, v⟩ := m
    rw [upsert]
    by_cases h : n = name
    · simp [h]
    · rw [if_neg h, List.map_cons, ih]
      by_cases hmem : name ∈ members.map (·.1)
      · simp [hmem]
      · simp [hmem, Ne.symm h]

/-- A name that is put at the end unless it is there stands once. -/
theorem nodup_append_unless_mem {names : List String} (h : names.Nodup) (name : String) :
    (if name ∈ names then names else names ++ [name]).Nodup := by
  split
  · exact h
  · next hmem =>
    rw [← List.concat_eq_append]
    exact h.concat hmem

theorem nodup_upsert (h : (members.map (·.1)).Nodup) (name : String) (value : α) :
    ((upsert members name value).map (·.1)).Nodup := by
  rw [names_upsert]
  exact nodup_append_unless_mem h name

/-! ### Each name once -/

theorem lastMember?_cons (m : String × α) (members : List (String × α)) (name : String) :
    lastMember? (m :: members) name
      = (lastMember? members name).or (if m.1 = name then some m.2 else none) := by
  rw [lastMember?, lastMember?, List.reverse_cons, List.find?_append]
  cases members.reverse.find? (·.1 == name) with
  | some found => rfl
  | none =>
    by_cases h : m.1 = name <;> simp [h]

theorem lastMember?_append (members others : List (String × α)) (name : String) :
    lastMember? (members ++ others) name
      = (lastMember? others name).or (lastMember? members name) := by
  rw [lastMember?, List.reverse_append, List.find?_append, Option.map_or]
  rfl

theorem mem_of_lastMember? (h : lastMember? members name = some value) :
    (name, value) ∈ members := by
  obtain ⟨found, hfound, rfl⟩ := Option.map_eq_some_iff.mp h
  have hname : found.1 = name := by simpa using List.find?_some hfound
  rw [← hname]
  exact List.mem_reverse.mp (List.mem_of_find?_eq_some hfound)

/-- A name that is there has a last value. -/
theorem exists_lastMember? {m : String × α} (hm : m ∈ members) :
    ∃ last, lastMember? members m.1 = some last ∧ (m.1, last) ∈ members := by
  have hsome : (members.reverse.find? (·.1 == m.1)).isSome = true := by
    rw [List.find?_isSome]
    exact ⟨m, List.mem_reverse.mpr hm, by simp⟩
  obtain ⟨found, hfound⟩ := Option.isSome_iff_exists.mp hsome
  have hlast : lastMember? members m.1 = some found.2 := by rw [lastMember?, hfound]; rfl
  exact ⟨found.2, hlast, mem_of_lastMember? hlast⟩

/-- Where each name stands once, the last value under it is the only one. -/
theorem lastMember?_eq_lookup (h : (members.map (·.1)).Nodup) (name : String) :
    lastMember? members name = members.lookup name := by
  induction members with
  | nil => rfl
  | cons m members ih =>
    obtain ⟨hm, hrest⟩ := List.nodup_cons.mp h
    rw [lastMember?_cons, lookup_cons_eq_ite, ih hrest]
    by_cases hname : m.1 = name
    · have hother : members.lookup name = none := by
        rw [lookup_eq_none_iff_notMem, ← hname]
        exact hm
      rw [hother, Option.none_or, if_pos hname]
    · rw [if_neg hname, if_neg hname, Option.or_none]

private theorem lookup_foldl_upsert (members : List (String × α)) (name : String) :
    ∀ done : List (String × α),
      (members.foldl (fun done m => upsert done m.1 m.2) done).lookup name
        = (lastMember? members name).or (done.lookup name) := by
  induction members with
  | nil => intro done; rfl
  | cons m members ih =>
    intro done
    rw [List.foldl_cons, ih, lastMember?_cons]
    by_cases h : m.1 = name
    · rw [← h, lookup_upsert_self]
      cases lastMember? members m.1 <;> simp
    · rw [lookup_upsert_of_ne (Ne.symm h), if_neg h, Option.or_none]

/-- **Under each name stands its last value.** -/
theorem lookup_collapseMembers (members : List (String × α)) (name : String) :
    (collapseMembers members).lookup name = lastMember? members name := by
  rw [collapseMembers, lookup_foldl_upsert]
  exact Option.or_none

/-- **Each name stands once.** -/
theorem nodup_collapseMembers (members : List (String × α)) :
    ((collapseMembers members).map (·.1)).Nodup := by
  suffices h : ∀ done : List (String × α), (done.map (·.1)).Nodup →
      ((members.foldl (fun done m => upsert done m.1 m.2) done).map (·.1)).Nodup from
    h [] List.nodup_nil
  induction members with
  | nil => intro done h; exact h
  | cons m members ih => intro done h; exact ih _ (nodup_upsert h m.1 m.2)

/-- Each name stands where it came first. -/
theorem names_collapseMembers (members : List (String × α)) :
    (collapseMembers members).map (·.1) = (members.map (·.1)).eraseDups := by
  induction members using List.reverseRecOn with
  | nil => rfl
  | append_singleton members m ih =>
    have hstep : collapseMembers (members ++ [m])
        = upsert (collapseMembers members) m.1 m.2 := by
      rw [collapseMembers, List.foldl_append]
      rfl
    rw [hstep, names_upsert, ih, List.map_append, List.eraseDups_append]
    by_cases h : m.1 ∈ members.map (·.1)
    · rw [if_pos (List.mem_eraseDups.mpr h)]
      simp [List.removeAll, h]
    · rw [if_neg (mt List.mem_eraseDups.mp h)]
      simp [List.removeAll, h, List.eraseDups_cons]

/-- One member is left if there is no name but one. -/
theorem collapseMembers_eq_singleton_iff : collapseMembers members = [(name, value)] ↔
    (∀ m ∈ members, m.1 = name) ∧ lastMember? members name = some value := by
  have hlookup := lookup_collapseMembers members
  constructor
  · intro h
    refine ⟨fun m hm => ?_, by rw [← hlookup, h, lookup_cons_eq_ite, if_pos rfl]⟩
    obtain ⟨last, hlast, -⟩ := exists_lastMember? hm
    rw [← hlookup, h, lookup_cons_eq_ite] at hlast
    by_contra hne
    rw [if_neg (Ne.symm hne)] at hlast
    cases hlast
  · rintro ⟨hnames, hlast⟩
    have hnodup := nodup_collapseMembers members
    have hmem : (name, value) ∈ collapseMembers members :=
      (mem_iff_lookup hnodup).mpr (by rw [hlookup, hlast])
    have hall : ∀ m ∈ collapseMembers members, m = (name, value) := by
      rintro ⟨n, v⟩ hm
      have hv : lastMember? members n = some v := by rw [← hlookup, (mem_iff_lookup hnodup).mp hm]
      obtain rfl : n = name := hnames _ (mem_of_lastMember? hv)
      rw [Option.some.inj (hv.symm.trans hlast)]
    match hleft : collapseMembers members with
    | [] => rw [hleft] at hmem; cases hmem
    | [m] => rw [hall m (by rw [hleft]; exact List.mem_cons_self)]
    | m :: k :: rest =>
      rw [hleft] at hall hnodup
      have hm := hall m List.mem_cons_self
      have hk := hall k (List.mem_cons_of_mem m List.mem_cons_self)
      rw [hm, hk] at hnodup
      simp at hnodup

theorem lastMember?_map {β : Type} (f : α → β) (members : List (String × α)) (name : String) :
    lastMember? (members.map fun m => (m.1, f m.2)) name = (lastMember? members name).map f := by
  rw [lastMember?, lastMember?, ← List.map_reverse, List.find?_map, Option.map_map, Option.map_map]
  rfl

/-! ### Members put at the end -/

namespace AccessLog

variable {r : Record}

theorem any_iff_mem_names {name : String} : r.any (·.1 == name) = true ↔ name ∈ r.map (·.1) := by
  simp only [List.any_eq_true, beq_iff_eq, List.mem_map]

theorem names_addAbsent (r : Record) (m : String × Json) : (addAbsent r m).map (·.1)
    = if m.1 ∈ r.map (·.1) then r.map (·.1) else r.map (·.1) ++ [m.1] := by
  rw [addAbsent]
  by_cases h : m.1 ∈ r.map (·.1)
  · rw [if_pos (any_iff_mem_names.mpr h), if_pos h]
  · rw [if_neg (mt any_iff_mem_names.mp h), if_neg h, List.map_append]
    rfl

theorem lookup_addAbsent (r : Record) (m : String × Json) (name : String) :
    (addAbsent r m).lookup name
      = (r.lookup name).or (if m.1 = name then some m.2 else none) := by
  rw [addAbsent]
  split
  · next h =>
    by_cases hname : m.1 = name
    · obtain ⟨v, hv⟩ : ∃ v, r.lookup name = some v := by
        rw [← Option.ne_none_iff_exists', Ne, lookup_eq_none_iff_notMem, not_not, ← hname]
        exact any_iff_mem_names.mp h
      rw [hv, Option.some_or]
    · rw [if_neg hname, Option.or_none]
  · rw [List.lookup_append, lookup_cons_eq_ite, List.lookup_nil]

/-- **What is there stays**, and under every other name comes the first member of that name. -/
theorem lookup_foldl_addAbsent (members : List (String × Json)) (name : String) : ∀ r : Record,
    (members.foldl addAbsent r).lookup name = (r.lookup name).or (members.lookup name) := by
  induction members with
  | nil => intro r; rw [List.foldl_nil, List.lookup_nil, Option.or_none]
  | cons m members ih =>
    intro r
    rw [List.foldl_cons, ih, lookup_addAbsent, lookup_cons_eq_ite, Option.or_assoc]
    by_cases h : m.1 = name <;> simp [h]

theorem nodup_foldl_addAbsent (members : List (String × Json)) : ∀ {r : Record},
    (r.map (·.1)).Nodup → ((members.foldl addAbsent r).map (·.1)).Nodup := by
  induction members with
  | nil => intro r h; exact h
  | cons m members ih =>
    intro r h
    refine ih ?_
    rw [names_addAbsent]
    exact nodup_append_unless_mem h m.1

/-- Members that have names of their own come last in their order, but for those whose names are
there already. -/
theorem foldl_addAbsent_eq_append {members : List (String × Json)} :
    (members.map (·.1)).Nodup → ∀ r : Record,
      members.foldl addAbsent r = r ++ members.filter fun m => m.1 ∉ r.map (·.1) := by
  induction members with
  | nil => intro _ r; rw [List.foldl_nil, List.filter_nil, List.append_nil]
  | cons m members ih =>
    intro hnodup r
    obtain ⟨hm, hrest⟩ := List.nodup_cons.mp hnodup
    rw [List.foldl_cons, ih hrest, names_addAbsent, List.filter_cons, addAbsent]
    by_cases h : m.1 ∈ r.map (·.1)
    · rw [if_pos (any_iff_mem_names.mpr h), if_pos h, if_neg (by simpa using h)]
    · have hother : ∀ k ∈ members, (k.1 ∉ r.map (·.1) ++ [m.1] ↔ k.1 ∉ r.map (·.1)) := by
        intro k hk
        have hne : k.1 ≠ m.1 := fun heq => hm (List.mem_map.mpr ⟨k, hk, heq⟩)
        rw [List.mem_append, List.mem_singleton, or_iff_left hne]
      rw [if_neg (mt any_iff_mem_names.mp h), if_neg h, if_pos (by simpa using h),
        List.append_assoc, List.singleton_append]
      congr 2
      refine List.filter_congr fun k hk => ?_
      rw [decide_eq_decide]
      exact hother k hk

end AccessLog

end PurgeGateway
