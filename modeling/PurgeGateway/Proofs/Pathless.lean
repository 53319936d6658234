import PurgeGateway.Credentials.Edgerc
import PurgeGateway.Proofs.Members
import Mathlib.Data.List.InsertIdx
import Mathlib.Data.List.Perm.Basic

/-!
# Settings without paths

The entries of a text of settings are put down in an order that nobody chose. Where the ways of two
names part at the top that makes no difference, and where they do not it may. So under a name from
which no way leads down stands what its own entry says, and it is the same in every order.

For credentials this is the name `default`. A text without paths, that is without ways that start
with this name and lead on, holds credentials if it has a section of the name, and they are what the
last one says.

## Main definitions

* `Nested.Pathless`: no way leads down from a name.
* `Ini.lastSection?`: the last section of a name.
* `Credentials.ofTexts`: the credentials that settings write.

## Main results

* `Nested.perm_arrange`, `exists_arrange`: orders are permutations, and all of them.
* `Nested.lookup_build`: what stands under a name from which no way leads down.
* `Ini.named_of_sections?`: settings without a section stand in front of all sections.
* `Credentials.ofEdgerc?_of_pathless`: the credentials of a text without paths.
-/

namespace PurgeGateway

namespace Nested

variable {α : Type} {sections : List Ini.Section} {top name : String} {v : Value}

/-! ### Orders -/

/-- **An order is a permutation.** -/
theorem perm_arrange (order : Order) (xs : List α) : (arrange order xs).Perm xs := by
  induction xs generalizing order with
  | nil => exact .nil
  | cons x xs ih =>
    have hrest := ih order.tail
    have hlt : order.headD 0 % (xs.length + 1) < xs.length + 1 :=
      Nat.mod_lt _ (Nat.succ_pos xs.length)
    rw [arrange]
    exact (List.perm_insertIdx x _ (by rw [hrest.length_eq]; omega)).trans (hrest.cons x)

/-- **Every permutation is that of an order.** -/
theorem exists_arrange {xs ys : List α} (h : ys.Perm xs) : ∃ order, arrange order xs = ys := by
  induction xs generalizing ys with
  | nil => exact ⟨[], h.eq_nil.symm⟩
  | cons x xs ih =>
    obtain ⟨n, hn, hx⟩ := List.mem_iff_getElem.mp (h.mem_iff.mpr List.mem_cons_self)
    -- Without its head the list is that of an order, and the head goes back to its place.
    have hinsert : (ys.eraseIdx n).insertIdx n x = ys := by
      rw [← hx]
      exact List.insertIdx_eraseIdx_getElem hn
    have hle : n ≤ (ys.eraseIdx n).length := by
      rw [List.length_eraseIdx_of_lt hn]
      omega
    have hperm : ys.Perm (x :: ys.eraseIdx n) := by
      conv_lhs => rw [← hinsert]
      exact List.perm_insertIdx x _ hle
    obtain ⟨order, horder⟩ := ih (hperm.symm.trans h).cons_inv
    refine ⟨n :: order, ?_⟩
    have hmod : n % (xs.length + 1) = n := by
      rw [← List.length_cons (a := x), ← h.length_eq]
      exact Nat.mod_eq_of_lt hn
    rw [arrange, List.tail_cons, List.headD_cons, hmod, horder, hinsert]

/-! ### What stands under a name -/

/-- No way leads down from a name at the top. -/
def Pathless (sections : List Ini.Section) (top : String) : Prop :=
  ∀ entry ∈ sections.flatMap ofSection,
    (Way.ofName entry.1).top = top → (Way.ofName entry.1).steps = []

theorem eq_nil_of_stepsFrom? {fuel : Nat} {cs : List Char} (h : stepsFrom? fuel cs = some []) :
    cs = [] := by
  unfold stepsFrom? at h
  split at h
  · rfl
  · simp [Option.bind_eq_some_iff] at h
  · simp [Option.bind_eq_some_iff] at h
  · cases h

/-- A name from which no way leads on is a name at the top. -/
theorem top_ofName (h : (Way.ofName name).steps = []) : (Way.ofName name).top = name := by
  rw [Way.ofName] at h ⊢
  cases hway : Way.ofText? name with
  | none => rfl
  | some way =>
    rw [hway] at h
    obtain ⟨⟨top, rest⟩, hname, hsteps⟩ := Option.bind_eq_some_iff.mp hway
    obtain ⟨steps, hwritten, rfl⟩ := Option.map_eq_some_iff.mp hsteps
    obtain rfl : steps = [] := h
    have hrest := eq_nil_of_stepsFrom? hwritten
    rw [name?] at hname
    split_ifs at hname
    obtain ⟨rfl, rfl⟩ := Prod.mk.inj (Option.some.inj hname)
    have hwhole := List.takeWhile_append_dropWhile (p := inName) (l := name.toList)
    rw [hrest, List.append_nil] at hwhole
    exact (congrArg String.ofList hwhole).trans String.ofList_toList

theorem lookup_put_self {entry : String × Entry} (h : (Way.ofName entry.1).steps = []) (v : Value) :
    (v.put entry).members.lookup entry.1 =
      some (entry.2.onto ((v.members.lookup entry.1).getD .nothing)) := by
  rw [Value.put, h, top_ofName h, Value.alter, Value.alter, Value.members, lookup_upsert_self]

theorem lookup_put_of_ne {entry : String × Entry} (h : (Way.ofName entry.1).top ≠ top)
    (v : Value) : (v.put entry).members.lookup top = v.members.lookup top := by
  rw [Value.put, Value.alter, Value.members, lookup_upsert_of_ne (Ne.symm h)]

/-- Where no way leads down from a name, an entry of another name leaves it alone. -/
theorem top_ne_of_ne (h : (Way.ofName name).top = top → (Way.ofName name).steps = [])
    (hne : name ≠ top) : (Way.ofName name).top ≠ top :=
  fun htop => hne ((top_ofName (h htop)).symm.trans htop)

/-- Of entries with distinct names one is put under a name from which no way leads down, or none. -/
theorem lookup_foldl_put {entries : List (String × Entry)} (hnodup : (entries.map (·.1)).Nodup)
    (htop : (Way.ofName top).steps = [])
    (h : ∀ entry ∈ entries, (Way.ofName entry.1).top = top → (Way.ofName entry.1).steps = [])
    (v : Value) : (entries.foldl Value.put v).members.lookup top =
      match entries.lookup top with
      | none => v.members.lookup top
      | some entry => some (entry.onto ((v.members.lookup top).getD .nothing)) := by
  induction entries generalizing v with
  | nil => rfl
  | cons entry entries ih =>
    obtain ⟨hnew, hnodup⟩ := List.nodup_cons.mp hnodup
    obtain ⟨hentry, h⟩ := List.forall_mem_cons.mp h
    rw [List.foldl_cons, ih hnodup h, lookup_cons_eq_ite]
    by_cases hname : entry.1 = top
    · subst hname
      rw [lookup_eq_none_iff_notMem.mpr hnew, if_pos rfl, lookup_put_self htop]
    · rw [if_neg hname, lookup_put_of_ne (top_ne_of_ne hentry hname)]

/-- **Under a name from which no way leads down stands what its last entry says.** -/
theorem lookup_build (h : Pathless sections top) (htop : (Way.ofName top).steps = [])
    (order : Order) : (build order sections).members.lookup top =
      (lastMember? (sections.flatMap ofSection) top).map (Entry.onto .nothing) := by
  have hperm := perm_arrange order (entries sections)
  have hnodup : ((arrange order (entries sections)).map (·.1)).Nodup :=
    (hperm.map _).nodup_iff.mpr (nodup_collapseMembers _)
  have hpathless : ∀ entry ∈ arrange order (entries sections),
      (Way.ofName entry.1).top = top → (Way.ofName entry.1).steps = [] := by
    intro entry hentry
    have hmem : entry.1 ∈ (entries sections).map (·.1) :=
      List.mem_map_of_mem (hperm.mem_iff.mp hentry)
    rw [entries, names_collapseMembers, List.mem_eraseDups] at hmem
    obtain ⟨other, hother, hsame⟩ := List.mem_map.mp hmem
    rw [← hsame]
    exact h other hother
  rw [build, lookup_foldl_put hnodup htop hpathless, lookup_eq_of_perm hperm hnodup, entries,
    lookup_collapseMembers]
  cases lastMember? (sections.flatMap ofSection) top <;> rfl

end Nested

/-! ### Sections of a name -/

namespace Ini

variable {sections : List Section} {name : String}

/-- The last section of a name. -/
def lastSection? (sections : List Section) (name : String) : Option Section :=
  sections.reverse.find? (·.name == some name)

theorem lastSection?_cons (s : Section) (sections : List Section) (name : String) :
    lastSection? (s :: sections) name =
      (lastSection? sections name).or (if s.name = some name then some s else none) := by
  rw [lastSection?, List.reverse_cons, List.find?_append, List.find?_singleton]
  simp only [beq_iff_eq, lastSection?]

theorem lastSection?_isSome_iff :
    (lastSection? sections name).isSome = true ↔ ∃ s ∈ sections, s.name = some name := by
  simp [lastSection?]

/-- Of sections that all have names, the last one of a name is what is put down under it. -/
theorem lastMember?_of_named (h : ∀ s ∈ sections, s.name ≠ none) (name : String) :
    lastMember? (sections.flatMap Nested.ofSection) name =
      (lastSection? sections name).map fun s => .texts s.settings := by
  induction sections with
  | nil => rfl
  | cons s sections ih =>
    obtain ⟨hs, h⟩ := List.forall_mem_cons.mp h
    obtain ⟨own, hown⟩ := Option.ne_none_iff_exists'.mp hs
    rw [List.flatMap_cons, Nested.ofSection, hown, List.singleton_append, lastMember?_cons, ih h,
      lastSection?_cons, hown]
    cases lastSection? sections name with
    | some last => rfl
    | none => by_cases hname : own = name <;> simp [hname]

/-- All sections have names, but the first one perhaps. -/
def Sofar.FrontOnly (s : Sofar) : Prop :=
  ∀ x ∈ s.dropLast, x.name ≠ none

theorem Sofar.FrontOnly.open {s : Sofar} (h : s.FrontOnly) (name : String) :
    (Sofar.open s name).FrontOnly := by
  cases s with
  | nil => exact fun _ hx => (List.not_mem_nil hx).elim
  | cons last rest =>
    rw [Sofar.open, FrontOnly, List.dropLast_cons_cons, List.forall_mem_cons]
    exact ⟨Option.some_ne_none name, h⟩

theorem Sofar.FrontOnly.add {s : Sofar} (h : s.FrontOnly) (name value : String) :
    (Sofar.add s name value).FrontOnly := by
  cases s with
  | nil => exact fun _ hx => (List.not_mem_nil hx).elim
  | cons last rest =>
    cases rest with
    | nil => exact fun _ hx => (List.not_mem_nil hx).elim
    | cons next rest =>
      rw [FrontOnly, List.dropLast_cons_cons, List.forall_mem_cons] at h
      rw [Sofar.add, FrontOnly, List.dropLast_cons_cons, List.forall_mem_cons]
      exact h

/-- What is read goes into named sections, once there is one. -/
theorem frontOnly_sectionsFrom? {fuel : Nat} {s after : Sofar} {start : Bool} {cs : List Char}
    (h : sectionsFrom? fuel s start cs = some after) (hs : s.FrontOnly) : after.FrontOnly := by
  induction fuel generalizing s start cs with
  | zero => cases h
  | succ fuel ih =>
    rw [sectionsFrom?] at h
    split at h
    · cases h
      exact hs
    · split_ifs at h
      · exact ih h hs
      · split at h
        · exact ih h (hs.open _)
        · cases h
      · split at h
        · obtain ⟨⟨value, rest⟩, -, h⟩ := Option.bind_eq_some_iff.mp h
          dsimp only at h
          split_ifs at h
          exact ih h (hs.add _ _)
        · cases h

/-- **Settings without a section stand in front of all sections.** -/
theorem named_of_sections? {text : String} (h : sections? text = some sections) :
    ∀ s ∈ sections.tail, s.name ≠ none := by
  obtain ⟨after, hafter, rfl⟩ := Option.map_eq_some_iff.mp h
  have hfront := frontOnly_sectionsFrom? hafter fun _ hx => (List.not_mem_nil hx).elim
  intro s hs
  rw [List.tail_reverse, List.mem_reverse] at hs
  exact hfront s hs

end Ini

/-! ### Credentials without paths -/

namespace Credentials

variable {sections : List Ini.Section} {text : String}

/-- The last value of a setting, empty if there is none. -/
def lastText (settings : List (String × String)) (name : String) : String :=
  (lastMember? settings name).getD ""

/-- The credentials that settings write. -/
def ofTexts (settings : List (String × String)) : Credentials where
  host := lastText settings "host"
  clientSecret := lastText settings "client_secret"
  clientToken := lastText settings "client_token"
  accessToken := lastText settings "access_token"

/-- Settings that are put down alone are read as the credentials that they write. -/
theorem ofValue?_texts (settings : List (String × String)) :
    ofValue? ((Nested.Entry.texts settings).onto .nothing) = some (ofTexts settings) := by
  have hfound : ∀ name, textOf? ((settings.foldl (fun members s =>
      upsert members s.1 (Nested.Value.text s.2)) []).lookup name)
        = some (lastText settings name) := by
    intro name
    have hcollapsed := lookup_collapseMembers
      (settings.map fun s => (s.1, Nested.Value.text s.2)) name
    rw [collapseMembers, List.foldl_map, lastMember?_map] at hcollapsed
    rw [hcollapsed, lastText]
    cases lastMember? settings name <;> rfl
  simp only [Nested.Entry.onto, ofValue?, ofSettings?, Nested.Value.members, hfound,
    Option.bind_eq_bind, Option.bind_some, ofTexts]

/-- **A text without paths holds what its last section `default` says**, in every order. -/
theorem ofEdgerc?_of_pathless (hsections : Ini.sections? text = some sections)
    (h : Nested.Pathless sections sectionName) (order : Nested.Order) :
    ofEdgerc? text order =
      (Ini.lastSection? sections sectionName).map fun s => ofTexts s.settings := by
  have hnamed := Ini.named_of_sections? hsections
  have hofEdgerc : ofEdgerc? text order =
      (lastMember? (sections.flatMap Nested.ofSection) sectionName).bind fun entry =>
        ofValue? (entry.onto .nothing) := by
    rw [ofEdgerc?, hsections, Option.bind_eq_bind, Option.bind_some, Option.bind_eq_bind,
      Nested.lookup_build h (by decide) order, Option.bind_map]
    rfl
  rw [hofEdgerc]
  cases sections with
  | nil => rfl
  | cons s rest =>
    rw [List.tail_cons] at hnamed
    cases hname : s.name with
    | some own =>
      have hall : ∀ s' ∈ s :: rest, s'.name ≠ none :=
        List.forall_mem_cons.mpr ⟨by simp [hname], hnamed⟩
      rw [Ini.lastMember?_of_named hall]
      cases Ini.lastSection? (s :: rest) sectionName with
      | some last => exact ofValue?_texts last.settings
      | none => rfl
    | none =>
      rw [List.flatMap_cons, lastMember?_append, Ini.lastMember?_of_named hnamed,
        Ini.lastSection?_cons, hname, if_neg (by simp), Option.or_none]
      cases Ini.lastSection? rest sectionName with
      | some last => exact ofValue?_texts last.settings
      | none =>
        -- What is left is a text under the name of the section.
        rw [Nested.ofSection, hname, lastMember?_map]
        cases lastMember? s.settings sectionName <;> rfl

end Credentials

end PurgeGateway
