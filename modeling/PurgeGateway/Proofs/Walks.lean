import PurgeGateway.Credentials.FileTree
import Mathlib.Data.List.Induction

/-!
# Where paths lead

A path leads along links and up again by `..`, so that one place has many paths. How it leads from
one place to another is told by a derivation, one step after another, which a walk follows. What
stands on the way are directories and links, and at the end no link.

What a change of a tree does to its paths is told from where it was made: as long as directories
stay directories and no link comes or goes, a path that leads somewhere leads there still.

## Main definitions

* `FileTree.Leads`: how a path leads from one place to another.
* `FileTree.IsName`: the name of an entry.
* `FileTree.Rooted`: what stands anywhere stands in a directory.
* `FileTree.KeepsWays`: a change of a tree after which all paths lead where they led.

## Main results

* `walk_eq_ok_iff`: what a walk comes to is where the path leads.
* `Leads.append`, `Leads.of_append`: walks in two parts.
* `find_of_lead`: on the way that a path leads there are directories.
* `Leads.mono`: walks after a change.
-/

namespace PurgeGateway.FileTree

variable {t after : FileTree} {p x y : FilePath} {q r next : Place} {e : FileEntry} {n : Nat}
  {name : String}

/-! ### What stands at a place -/

@[simp] theorem entry?_nil (t : FileTree) : t.entry? [] = some .directory := rfl

@[simp] theorem closed_put (t : FileTree) (q : Place) (e : FileEntry) :
    (t.put q e).closed = t.closed := rfl

theorem entry?_put_self (t : FileTree) (hq : q ≠ []) (e : FileEntry) :
    entry? (t.put q e) q = some e := by
  rw [FileTree.entry?, if_neg (by simpa using hq), put, List.lookup_cons, beq_self_eq_true]

theorem lookup_filter_of_ne (h : r ≠ q) (entries : List (Place × FileEntry)) :
    (entries.filter (·.1 != q)).lookup r = entries.lookup r := by
  induction entries with
  | nil => rfl
  | cons entry entries ih =>
    rw [List.filter_cons, List.lookup_cons]
    split
    · rw [List.lookup_cons, ih]
    · next hkept =>
      have heq : entry.1 = q := by simpa using hkept
      rw [ih, heq, beq_false_of_ne h]

theorem entry?_put_of_ne (t : FileTree) (h : r ≠ q) (e : FileEntry) :
    entry? (t.put q e) r = t.entry? r := by
  rw [FileTree.entry?, FileTree.entry?, put, List.lookup_cons, beq_false_of_ne h,
    lookup_filter_of_ne h]

/-! ### Walks -/

/-- A link stands at the place. -/
def IsLink (t : FileTree) (q : Place) : Prop :=
  ∃ fromTop target, t.entry? q = some (.link fromTop target)

/-- A path leads from one place to another, along so many links at most. -/
inductive Leads (t : FileTree) : Nat → Place → FilePath → Place → Prop
  | here {n : Nat} {q : Place} : Leads t n q [] q
  | step {n : Nat} {q next r : Place} {name : String} {p : FilePath}
      (hstep : t.stepTo q name = .ok next) (hnext : ¬t.IsLink next) (hrest : Leads t n next p r) :
    Leads t n q (name :: p) r
  | link {n : Nat} {q next r : Place} {name : String} {fromTop : Bool} {target p : FilePath}
      (hstep : t.stepTo q name = .ok next) (hnext : t.entry? next = some (.link fromTop target))
      (hrest : Leads t n (if fromTop then [] else q) (target ++ p) r) :
    Leads t (n + 1) q (name :: p) r

theorem walk_nil (n : Nat) (q : Place) : t.walk n q [] = .ok q := by
  cases n <;> rfl

theorem walk_of_error {error : FileError} (h : t.stepTo q name = .error error) (n : Nat)
    (p : FilePath) : t.walk n q (name :: p) = .error error := by
  cases n <;> rw [walk, walkBy, h]

theorem walk_of_step (h : t.stepTo q name = .ok next) (hnext : ¬t.IsLink next) (n : Nat)
    (p : FilePath) : t.walk n q (name :: p) = t.walk n next p := by
  cases n <;>
  · rw [walk, walkBy, h]
    dsimp only
    split
    · next fromTop target hlink => exact absurd ⟨fromTop, target, hlink⟩ hnext
    · rfl

theorem walk_of_link {fromTop : Bool} {target : FilePath} (h : t.stepTo q name = .ok next)
    (hnext : t.entry? next = some (.link fromTop target)) (n : Nat) (p : FilePath) :
    t.walk (n + 1) q (name :: p) =
      t.walk n (if fromTop then [] else q) (target ++ p) := by
  rw [walk, walkBy, h]
  dsimp only
  rw [hnext]

theorem walk_zero_of_link (h : t.stepTo q name = .ok next) (hnext : t.IsLink next)
    (p : FilePath) : t.walk 0 q (name :: p) = .error .filesystemLoop := by
  obtain ⟨fromTop, target, hlink⟩ := hnext
  rw [walk, walkBy, h]
  dsimp only
  rw [hlink]

/-- **What a walk comes to** is where the path leads. -/
theorem walk_eq_ok_iff : t.walk n q p = .ok r ↔ t.Leads n q p r := by
  constructor
  · intro h
    induction n generalizing q p with
    | zero =>
      induction p generalizing q with
      | nil => cases (walk_nil 0 q).symm.trans h; exact .here
      | cons name p ih =>
        cases hstep : t.stepTo q name with
        | error error => cases (walk_of_error hstep 0 p).symm.trans h
        | ok next =>
          by_cases hnext : t.IsLink next
          · cases (walk_zero_of_link hstep hnext p).symm.trans h
          · exact .step hstep hnext (ih ((walk_of_step hstep hnext 0 p).symm.trans h))
    | succ n ihn =>
      induction p generalizing q with
      | nil => cases (walk_nil (n + 1) q).symm.trans h; exact .here
      | cons name p ih =>
        cases hstep : t.stepTo q name with
        | error error => cases (walk_of_error hstep (n + 1) p).symm.trans h
        | ok next =>
          by_cases hnext : t.IsLink next
          · obtain ⟨fromTop, target, hlink⟩ := hnext
            exact .link hstep hlink (ihn ((walk_of_link hstep hlink n p).symm.trans h))
          · exact .step hstep hnext (ih ((walk_of_step hstep hnext (n + 1) p).symm.trans h))
  · intro h
    induction h with
    | here => exact walk_nil _ _
    | step hstep hnext _ ih => rw [walk_of_step hstep hnext, ih]
    | link hstep hnext _ ih => rw [walk_of_link hstep hnext, ih]

/-- A walk goes on from where its first part leads. -/
theorem Leads.append (h : t.Leads n q x r) :
    ∃ m, ∀ y, t.walk n q (x ++ y) = t.walk m r y := by
  induction h with
  | here => exact ⟨_, fun _ => rfl⟩
  | step hstep hnext _ ih =>
    obtain ⟨m, hm⟩ := ih
    exact ⟨m, fun y => (walk_of_step hstep hnext _ _).trans (hm y)⟩
  | link hstep hnext _ ih =>
    obtain ⟨m, hm⟩ := ih
    refine ⟨m, fun y => ?_⟩
    rw [List.cons_append, walk_of_link hstep hnext, ← List.append_assoc, hm]

/-- The first part of a path that leads somewhere leads somewhere. -/
theorem Leads.of_append (h : t.Leads n q (x ++ y) r) : ∃ s, t.Leads n q x s := by
  generalize hp : x ++ y = p at h
  induction h generalizing x with
  | here =>
    obtain ⟨rfl, -⟩ := List.append_eq_nil_iff.mp hp
    exact ⟨_, .here⟩
  | step hstep hnext _ ih =>
    cases x with
    | nil => exact ⟨_, .here⟩
    | cons _ x =>
      obtain ⟨rfl, rfl⟩ := List.cons.inj hp
      obtain ⟨s, hs⟩ := ih rfl
      exact ⟨s, .step hstep hnext hs⟩
  | link hstep hnext _ ih =>
    cases x with
    | nil => exact ⟨_, .here⟩
    | cons _ x =>
      obtain ⟨rfl, rfl⟩ := List.cons.inj hp
      obtain ⟨s, hs⟩ := ih (List.append_assoc _ _ _)
      exact ⟨s, .link hstep hnext hs⟩

/-! ### Single steps -/

/-- The name of an entry: none that stays, and none that leads up. -/
structure IsName (name : String) : Prop where
  stays : stays name = false
  down : name ≠ ".."

instance (name : String) : Decidable (IsName name) :=
  decidable_of_iff (stays name = false ∧ name ≠ "..") ⟨fun h => ⟨h.1, h.2⟩, fun h => ⟨h.1, h.2⟩⟩

theorem entry?_of_stepTo (h : t.stepTo q name = .ok next) : t.entry? q = some .directory := by
  rw [stepTo] at h
  split at h
  · cases h
  · assumption
  · cases h

/-- A step stays, leads up, or leads down by a name. -/
theorem stepTo_cases (h : t.stepTo q name = .ok next) :
    next = q ∨ next = q.dropLast ∨ next = q ++ [name] ∧ IsName name := by
  rw [stepTo, entry?_of_stepTo h] at h
  dsimp only at h
  split_ifs at h with hempty hclosed hdot hup
  · exact .inl (Except.ok.inj h).symm
  · exact .inl (Except.ok.inj h).symm
  · exact .inr (.inl (Except.ok.inj h).symm)
  · exact .inr (.inr ⟨(Except.ok.inj h).symm, by simp [FileTree.stays, hempty, hdot], hup⟩)

theorem IsName.stepTo (hname : IsName name) (h : t.stepTo q name = .ok next) :
    next = q ++ [name] := by
  obtain ⟨hstays, hdown⟩ := hname
  simp only [FileTree.stays, Bool.or_eq_false_iff, beq_eq_false_iff_ne] at hstays
  rw [FileTree.stepTo, entry?_of_stepTo h] at h
  dsimp only at h
  rw [if_neg hstays.1, if_neg hstays.2, if_neg hdown] at h
  split at h
  · cases h
  · exact (Except.ok.inj h).symm

theorem not_isLink_of_directory (h : t.entry? q = some .directory) : ¬t.IsLink q := by
  rintro ⟨_, _, hlink⟩
  cases h.symm.trans hlink

theorem not_isLink_of_missing (h : t.entry? q = none) : ¬t.IsLink q := by
  rintro ⟨_, _, hlink⟩
  cases h.symm.trans hlink

/-- No path ends at a link. -/
theorem Leads.not_isLink (h : t.Leads n q p r) (hq : ¬t.IsLink q) : ¬t.IsLink r := by
  induction h with
  | here => exact hq
  | step _ hnext _ ih => exact ih hnext
  | link hstep _ _ ih =>
    refine ih (not_isLink_of_directory ?_)
    split
    · rfl
    · exact entry?_of_stepTo hstep

theorem stepTo_of_missing (h : t.entry? q = none) (name : String) :
    t.stepTo q name = .error .notFound := by
  rw [stepTo, h]

/-! ### What is found -/

theorem lead_eq_ok_iff : t.lead p = .ok q ↔ p ≠ [] ∧ t.Leads maxLinks [] p q := by
  rw [lead, ← walk_eq_ok_iff]
  cases p <;> simp

theorem leadLast_eq_ok_iff : t.leadLast p = .ok r ↔ ∃ x name q,
    p = x ++ [name] ∧ t.Leads maxLinks [] x q ∧ t.stepTo q name = .ok r := by
  simp only [leadLast, ← walk_eq_ok_iff]
  cases p using List.reverseRecOn with
  | nil => simp
  | append_singleton x name =>
    rw [List.getLast?_concat, List.dropLast_concat]
    cases h : t.walk maxLinks [] x <;> simp [h]

theorem find_eq_ok_iff : t.find p = .ok e ↔ ∃ q, t.lead p = .ok q ∧ t.entry? q = some e := by
  rw [find]
  cases t.lead p with
  | error error => simp
  | ok q => cases h : t.entry? q <;> simp [h]

theorem read_of_find {content : List UInt8} (h : t.find p = .ok (.file content)) :
    t.read p = .ok content := by
  rw [read, h]

theorem contains_iff : t.contains p = true ↔ ∃ e, t.find p = .ok e := by
  rw [contains]
  cases t.find p <;> simp

theorem isDirectory_iff : t.isDirectory p = true ↔ t.find p = .ok .directory := by
  rw [isDirectory]
  split <;> simp_all

/-- Behind a place where nothing stands nothing is found. -/
theorem find_of_missing (hlead : t.lead x = .ok q) (hq : t.entry? q = none) (hy : y ≠ []) :
    t.find (x ++ y) = .error .notFound := by
  obtain ⟨name, rest, rfl⟩ := List.exists_cons_of_ne_nil hy
  obtain ⟨m, hm⟩ := (lead_eq_ok_iff.mp hlead).2.append
  have hwalk : t.lead (x ++ name :: rest) = .error .notFound := by
    rw [lead, if_neg (by simp), hm, walk_of_error (stepTo_of_missing hq name)]
  rw [find, hwalk]

/-- On the way that a path leads there are directories. -/
theorem find_of_lead (h : t.lead p = .ok r) (hstarts : x <+: p) (hx : x ≠ []) (hne : x ≠ p) :
    t.find x = .ok .directory := by
  obtain ⟨y, rfl⟩ := hstarts
  cases y with
  | nil => exact absurd (List.append_nil x).symm hne
  | cons name y =>
    have hleads := (lead_eq_ok_iff.mp h).2
    obtain ⟨s, hs⟩ := hleads.of_append
    obtain ⟨m, hm⟩ := hs.append
    have hrest := walk_eq_ok_iff.mp ((hm _).symm.trans (walk_eq_ok_iff.mpr hleads))
    refine find_eq_ok_iff.mpr ⟨s, lead_eq_ok_iff.mpr ⟨hx, hs⟩, ?_⟩
    cases hrest with
    | step hstep => exact entry?_of_stepTo hstep
    | link hstep => exact entry?_of_stepTo hstep

/-! ### Rooted trees -/

/-- What stands anywhere stands in a directory. -/
def Rooted (t : FileTree) : Prop :=
  ∀ q e, t.entry? q = some e → t.entry? q.dropLast = some .directory

/-- A tree is rooted if every entry of it stands in a directory. -/
theorem rooted_iff :
    t.Rooted ↔ ∀ entry ∈ t.entries, t.entry? entry.1.dropLast = some .directory := by
  constructor
  · intro ht entry hentry
    by_cases hroot : entry.1 = []
    · rw [hroot]
      rfl
    · obtain ⟨e, he⟩ : ∃ e, t.entries.lookup entry.1 = some e := by
        rw [← Option.isSome_iff_exists, List.lookup_isSome_iff]
        exact ⟨entry, hentry, beq_self_eq_true _⟩
      refine ht entry.1 e ?_
      rwa [FileTree.entry?, if_neg (by simpa using hroot)]
  · intro h q e he
    rw [FileTree.entry?] at he
    split at he
    · next hroot =>
      rw [List.isEmpty_iff.mp hroot]
      rfl
    · obtain ⟨before, behind, heq, -⟩ := List.lookup_eq_some_iff.mp he
      exact h (q, e) (by rw [heq]; simp)

instance (t : FileTree) : Decidable t.Rooted :=
  decidable_of_iff _ rooted_iff.symm

theorem rooted_empty : Rooted {} := by
  decide

/-- Where nothing stands, nothing stands below. -/
theorem Rooted.entry?_append (ht : t.Rooted) (h : t.entry? q = none) (below : Place) :
    t.entry? (q ++ below) = none := by
  induction below using List.reverseRecOn with
  | nil => rwa [List.append_nil]
  | append_singleton below name ih =>
    refine Option.eq_none_iff_forall_ne_some.mpr fun e he => ?_
    have habove := ht _ e he
    rw [← List.append_assoc, List.dropLast_concat, ih] at habove
    cases habove

/-- A tree stays rooted if nothing but what stands at one place changes, and that is no directory.
What stands there then must stand in a directory. -/
theorem Rooted.of_entries (ht : t.Rooted) (hq : t.entry? q ≠ some .directory)
    (hsame : ∀ r, r ≠ q → after.entry? r = t.entry? r)
    (habove : ∀ e, after.entry? q = some e → t.entry? q.dropLast = some .directory) :
    after.Rooted := by
  intro r e hr
  have hdirectory : t.entry? r.dropLast = some .directory := by
    by_cases heq : r = q
    · subst heq
      exact habove e hr
    · exact ht r e (hsame r heq ▸ hr)
  rw [hsame _ (by rintro rfl; exact hq hdirectory), hdirectory]

theorem Rooted.put (ht : t.Rooted) (hq : t.entry? q ≠ some .directory)
    (habove : t.entry? q.dropLast = some .directory) (e : FileEntry) : (t.put q e).Rooted :=
  ht.of_entries hq (fun _ hne => entry?_put_of_ne t hne e) fun _ _ => habove

/-- A path that starts in a directory ends in one. -/
theorem Leads.above (ht : t.Rooted) (h : t.Leads n q p r)
    (habove : t.entry? q.dropLast = some .directory) : t.entry? r.dropLast = some .directory := by
  induction h with
  | here => exact habove
  | step hstep _ _ ih =>
    refine ih ?_
    rcases stepTo_cases hstep with rfl | rfl | ⟨rfl, -⟩
    · exact habove
    · exact ht _ _ habove
    · rw [List.dropLast_concat]
      exact entry?_of_stepTo hstep
  | link hstep _ _ ih =>
    refine ih ?_
    split
    · rfl
    · exact habove

/-! ### Changes that keep all ways -/

/-- Directories stay what they are, and no link comes or goes. -/
structure KeepsWays (t after : FileTree) : Prop where
  directory : ∀ q, t.entry? q = some .directory → after.entry? q = some .directory
  link : ∀ q fromTop target, after.entry? q = some (.link fromTop target) ↔
    t.entry? q = some (.link fromTop target)
  closed : after.closed = t.closed

theorem KeepsWays.refl (t : FileTree) : t.KeepsWays t :=
  ⟨fun _ h => h, fun _ _ _ => Iff.rfl, rfl⟩

theorem KeepsWays.trans {between : FileTree} (h : t.KeepsWays between)
    (h' : between.KeepsWays after) : t.KeepsWays after where
  directory q hq := h'.directory q (h.directory q hq)
  link q fromTop target := (h'.link q fromTop target).trans (h.link q fromTop target)
  closed := h'.closed.trans h.closed

theorem KeepsWays.isLink_iff (h : t.KeepsWays after) : after.IsLink q ↔ t.IsLink q :=
  exists_congr fun fromTop => exists_congr fun target => h.link q fromTop target

theorem KeepsWays.stepTo (h : t.KeepsWays after) (hstep : t.stepTo q name = .ok next) :
    after.stepTo q name = .ok next := by
  have hdirectory := entry?_of_stepTo hstep
  rw [FileTree.stepTo, hdirectory] at hstep
  rw [FileTree.stepTo, h.directory q hdirectory, h.closed]
  exact hstep

/-- **A path that leads somewhere leads there still.** -/
theorem Leads.mono (h : t.KeepsWays after) (hleads : t.Leads n q p r) : after.Leads n q p r := by
  induction hleads with
  | here => exact .here
  | step hstep hnext _ ih => exact .step (h.stepTo hstep) (mt h.isLink_iff.mp hnext) ih
  | link hstep hnext _ ih => exact .link (h.stepTo hstep) ((h.link _ _ _).mpr hnext) ih

theorem KeepsWays.lead (h : t.KeepsWays after) (hlead : t.lead p = .ok q) :
    after.lead p = .ok q := by
  obtain ⟨hp, hleads⟩ := lead_eq_ok_iff.mp hlead
  exact lead_eq_ok_iff.mpr ⟨hp, hleads.mono h⟩

/-- What is found is found still, if what stands anywhere is kept. -/
theorem KeepsWays.find (h : t.KeepsWays after)
    (hkept : ∀ q e, t.entry? q = some e → after.entry? q = some e) (hfind : t.find p = .ok e) :
    after.find p = .ok e := by
  obtain ⟨q, hlead, hentry⟩ := find_eq_ok_iff.mp hfind
  exact find_eq_ok_iff.mpr ⟨q, h.lead hlead, hkept q e hentry⟩

theorem KeepsWays.put (hq : t.entry? q ≠ some .directory) (hlink : ¬t.IsLink q)
    (he : ∀ fromTop target, e ≠ .link fromTop target) : t.KeepsWays (t.put q e) := by
  have hne : q ≠ [] := by
    rintro rfl
    exact hq rfl
  refine ⟨fun r hr => ?_, fun r fromTop target => ?_, rfl⟩
  · rw [entry?_put_of_ne t (by rintro rfl; exact hq hr), hr]
  · by_cases heq : r = q
    · subst heq
      rw [entry?_put_self t hne, Option.some.injEq]
      exact ⟨fun h => absurd h (he fromTop target), fun h => absurd ⟨fromTop, target, h⟩ hlink⟩
    · rw [entry?_put_of_ne t heq]

end PurgeGateway.FileTree
