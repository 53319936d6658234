import PurgeGateway.Proofs.Walks

/-!
# Directories on the way to a file

Directories are made on the way to a place. Any of them may be refused, and then those above it are
there already. All that is new are directories where nothing stood, and they are empty. That is what
makes a path without `..` safe: if something had to be made on its way, it ends in an empty place.

A file is written at the place to which its path leads then. What stood there was a file, if
anything, and no other path leads elsewhere for it.

## Main definitions

* `FileTree.GrowsTo`: a tree has grown by directories on a way.
* `FileTree.Made`: a directory was made.
* `FileTree.EndsIn`: a way was made that ends in an empty directory.
* `FileTree.Leaves`: what is left in a file that was opened.
* `FileTree.Reachable`: trees that operations come to.

## Main results

* `growsTo_makeDirs`: making directories only adds directories.
* `endsIn_makeDirs`: what is made without `..` ends in an empty directory.
* `find_of_opening`: a path that was written to leads to what was written.
* `Reachable.rooted`: all trees that operations come to are rooted.
-/

namespace PurgeGateway.FileTree

variable {t after : FileTree} {p x y : FilePath} {q r : Place} {e : FileEntry} {name : String}

/-! ### Growth -/

/-- A tree has grown by directories to which a path leads on its way, its end included. -/
structure GrowsTo (t after : FileTree) (p : FilePath) : Prop where
  kept : ∀ q e, t.entry? q = some e → after.entry? q = some e
  new : ∀ q e, after.entry? q = some e → t.entry? q = some e ∨
    e = .directory ∧ ∃ x, x <+: p ∧ x ≠ [] ∧ after.lead x = .ok q
  closed : after.closed = t.closed
  rooted : after.Rooted

theorem GrowsTo.keepsWays (h : t.GrowsTo after p) : t.KeepsWays after where
  directory q := h.kept q .directory
  link q fromTop target := by
    refine ⟨fun hq => ?_, h.kept q _⟩
    rcases h.new q _ hq with hold | ⟨hdirectory, -⟩
    · exact hold
    · cases hdirectory
  closed := h.closed

theorem GrowsTo.refl (ht : t.Rooted) (p : FilePath) : t.GrowsTo t p :=
  ⟨fun _ _ h => h, fun _ _ h => .inl h, rfl, ht⟩

theorem GrowsTo.trans {between : FileTree} (h : t.GrowsTo between x) (h' : between.GrowsTo after p)
    (hstarts : x <+: p) : t.GrowsTo after p where
  kept q e hq := h'.kept q e (h.kept q e hq)
  new q e hq := by
    rcases h'.new q e hq with hbetween | hdirectory
    · refine (h.new q e hbetween).imp_right ?_
      rintro ⟨hdirectory, y, hy, hne, hlead⟩
      exact ⟨hdirectory, y, hy.trans hstarts, hne, h'.keepsWays.lead hlead⟩
    · exact .inr hdirectory
  closed := h'.closed.trans h.closed
  rooted := h'.rooted

/-! ### Directories made one at a time -/

/-- A directory was made where a path led to nothing. -/
structure Made (t after : FileTree) (p : FilePath) (q : Place) : Prop where
  nonempty : p ≠ []
  leads : t.Leads maxLinks [] p q
  missing : t.entry? q = none
  tree : t.put q .directory = after

variable {refused : Refusals}

theorem made_of_makeDir (h : t.makeDir refused p = .ok after) : ∃ q, t.Made after p q := by
  rw [makeDir] at h
  cases hlead : t.leadLast p with
  | error error => rw [hlead] at h; cases h
  | ok q =>
    rw [hlead] at h
    dsimp only at h
    split_ifs at h with hentry
    have hmissing : t.entry? q = none := by simpa using hentry
    split at h
    · cases h
    · obtain ⟨x, name, s, rfl, hx, hstep⟩ := leadLast_eq_ok_iff.mp hlead
      obtain ⟨m, hm⟩ := hx.append
      refine ⟨q, by simp, walk_eq_ok_iff.mp ?_, hmissing, Except.ok.inj h⟩
      rw [hm, walk_of_step hstep (not_isLink_of_missing hmissing), walk_nil]

theorem Made.keepsWays (h : t.Made after p q) : t.KeepsWays after := by
  obtain ⟨-, -, hmissing, rfl⟩ := h
  exact .put (by simp [hmissing]) (not_isLink_of_missing hmissing) (by simp)

theorem Made.lead (h : t.Made after p q) : after.lead p = .ok q :=
  lead_eq_ok_iff.mpr ⟨h.nonempty, h.leads.mono h.keepsWays⟩

theorem Made.ne_nil (h : t.Made after p q) : q ≠ [] := by
  rintro rfl
  cases h.missing

theorem Made.directory (h : t.Made after p q) : after.entry? q = some .directory := by
  rw [← h.tree, entry?_put_self t h.ne_nil]

theorem Made.growsTo (ht : t.Rooted) (h : t.Made after p q) : t.GrowsTo after p where
  kept r e hr := by
    rw [← h.tree, entry?_put_of_ne t _ _, hr]
    rintro rfl
    cases h.missing.symm.trans hr
  new r e hr := by
    by_cases heq : r = q
    · subst heq
      exact .inr ⟨Option.some.inj (hr.symm.trans h.directory), p, List.prefix_rfl, h.nonempty,
        h.lead⟩
    · rw [← h.tree, entry?_put_of_ne t heq] at hr
      exact .inl hr
  closed := by rw [← h.tree, closed_put]
  rooted := by
    rw [← h.tree]
    exact ht.put (by simp [h.missing]) (h.leads.above ht rfl) _

/-- One directory is made, or none is and it may be there already. -/
theorem orThere_makeDir (t : FileTree) (refused : Refusals) (p : FilePath) :
    (∃ q, t.Made (t.orThere p (t.makeDir refused p)).1 p q) ∨
      (t.orThere p (t.makeDir refused p)).1 = t ∧
        ((t.orThere p (t.makeDir refused p)).2 = .ok () → t.find p = .ok .directory) := by
  cases h : t.makeDir refused p with
  | ok after => exact .inl (made_of_makeDir h)
  | error error =>
    refine .inr ⟨rfl, fun hok => ?_⟩
    rw [orThere] at hok
    split at hok
    · next hthere => exact isDirectory_iff.mp hthere
    · cases hok

theorem growsTo_orThere (ht : t.Rooted) (refused : Refusals) (p : FilePath) :
    t.GrowsTo (t.orThere p (t.makeDir refused p)).1 p := by
  rcases orThere_makeDir t refused p with ⟨q, hmade⟩ | ⟨hsame, -⟩
  · exact hmade.growsTo ht
  · rw [hsame]
    exact .refl ht p

theorem prefix_reverse_cons (name : String) (above : List String) :
    above.reverse <+: (name :: above).reverse := by
  rw [List.reverse_cons]
  exact List.prefix_append above.reverse [name]

/-- **Making directories only adds directories**, on the way to the place that was wanted. -/
theorem growsTo_makeDirs (ht : t.Rooted) (refused : Refusals) (up : List String) :
    t.GrowsTo (t.makeDirs refused up).1 up.reverse := by
  induction up with
  | nil => exact .refl ht []
  | cons name above ih =>
    have hstarts := prefix_reverse_cons name above
    rw [makeDirs]
    split
    · -- there was nothing to put the last directory in
      split
      · next between hbetween =>
        rw [hbetween] at ih
        exact ih.trans (growsTo_orThere ih.rooted refused _) hstarts
      · exact ih.trans (.refl ih.rooted _) hstarts
    · exact growsTo_orThere ht refused _

theorem GrowsTo.of_makeDirs (ht : t.Rooted) {outcome : Except FileError Unit}
    (h : t.makeDirs refused p.reverse = (after, outcome)) : t.GrowsTo after p := by
  have hgrown := growsTo_makeDirs ht refused p.reverse
  rwa [h, List.reverse_reverse] at hgrown

/-! ### Ways without `..` -/

/-- A way was made, from a place on where nothing stood, and it ends in an empty directory. -/
structure EndsIn (t after : FileTree) (p : FilePath) (q : Place) : Prop where
  leads : after.Leads maxLinks [] p q
  missing : t.entry? q = none
  empty : ∀ name, after.entry? (q ++ [name]) = none
  start : ∃ x s, x <+: p ∧ x ≠ [] ∧ t.lead x = .ok s ∧ t.entry? s = none

theorem Made.endsIn (ht : t.Rooted) (h : t.Made after p q) : t.EndsIn after p q where
  leads := h.leads.mono h.keepsWays
  missing := h.missing
  empty name := by
    rw [← h.tree, entry?_put_of_ne t (by simp), ht.entry?_append h.missing]
  start := ⟨p, q, List.prefix_rfl, h.nonempty, lead_eq_ok_iff.mpr ⟨h.nonempty, h.leads⟩, h.missing⟩

/-- From an empty directory a path leads one name down, and not further. -/
theorem EndsIn.of_leads (h : t.EndsIn after x q) (hname : IsName name)
    (hleads : after.Leads maxLinks [] (x ++ name :: y) r) : y = [] ∧ r = q ++ [name] := by
  obtain ⟨m, hm⟩ := h.leads.append
  have hrest := walk_eq_ok_iff.mp ((hm _).symm.trans (walk_eq_ok_iff.mpr hleads))
  have hmissing := h.empty name
  cases hrest with
  | link hstep hlink =>
    rw [hname.stepTo hstep, hmissing] at hlink
    cases hlink
  | step hstep _ hdown =>
    rw [hname.stepTo hstep] at hdown
    cases hdown with
    | here => exact ⟨rfl, rfl⟩
    | step hbelow => cases hmissing.symm.trans (entry?_of_stepTo hbelow)
    | link hbelow => cases hmissing.symm.trans (entry?_of_stepTo hbelow)

/-- Nothing is found below an empty directory. -/
theorem EndsIn.find_ne (h : t.EndsIn after x q) (hname : IsName name) (y : FilePath)
    (e : FileEntry) : after.find (x ++ name :: y) ≠ .ok e := by
  intro hfind
  obtain ⟨r, hlead, hentry⟩ := find_eq_ok_iff.mp hfind
  obtain ⟨-, rfl⟩ := h.of_leads hname (lead_eq_ok_iff.mp hlead).2
  cases (h.empty name).symm.trans hentry

/-- What was made is the last directory of a way that was made. -/
theorem EndsIn.trans {between : FileTree} (ht : t.Rooted) (h : t.EndsIn between x q)
    (hname : IsName name) (hmade : between.Made after (x ++ [name]) r)
    (hbetween : between.Rooted) : t.EndsIn after (x ++ [name]) r := by
  obtain ⟨-, rfl⟩ := h.of_leads hname hmade.leads
  obtain ⟨y, s, hy, hne, hlead, hmissing⟩ := h.start
  exact {
    leads := hmade.leads.mono hmade.keepsWays
    missing := ht.entry?_append h.missing [name]
    empty := (hmade.endsIn hbetween).empty
    start := ⟨y, s, hy.trans (List.prefix_append x [name]), hne, hlead, hmissing⟩ }

/-- **A way that is made without `..` ends in an empty directory**, unless none had to be made. -/
theorem endsIn_makeDirs (ht : t.Rooted) (refused : Refusals) {up : List String}
    (hup : ∀ name ∈ up, IsName name) : (t.makeDirs refused up).1 = t ∨
      ∃ x q, x <+: up.reverse ∧ t.EndsIn (t.makeDirs refused up).1 x q ∧
        ((t.makeDirs refused up).2 = .ok () → x = up.reverse) := by
  induction up with
  | nil => exact .inl rfl
  | cons name above ih =>
    have hstarts := prefix_reverse_cons name above
    have hname : IsName name := hup name List.mem_cons_self
    have hgrown := growsTo_makeDirs ht refused above
    specialize ih fun other hother => hup other (List.mem_cons_of_mem name hother)
    rw [makeDirs]
    split
    · next hnothing =>
      split
      · next between hbetween =>
        rw [hbetween] at ih hgrown
        rcases ih with rfl | ⟨x, q, -, hends, hall⟩
        · -- the directories above are there, and so the last one is tried again in vain
          dsimp only
          rw [hnothing]
          exact .inl rfl
        · obtain rfl := hall rfl
          have hlast := orThere_makeDir between refused (name :: above).reverse
          rcases hlast with ⟨r, hmade⟩ | ⟨hsame, hfound⟩
          · refine .inr ⟨_, r, List.prefix_rfl, ?_, fun _ => rfl⟩
            rw [List.reverse_cons] at hmade ⊢
            exact hends.trans ht hname hmade hgrown.rooted
          · refine .inr ⟨above.reverse, q, hstarts, by rwa [hsame], fun hok => ?_⟩
            have hdirectory := hfound hok
            rw [List.reverse_cons] at hdirectory
            exact absurd hdirectory (hends.find_ne hname [] _)
      · next hfailed =>
        refine ih.imp_right ?_
        rintro ⟨x, q, hx, hends, -⟩
        exact ⟨x, q, hx.trans hstarts, hends, fun hok => (hfailed _ (Prod.ext rfl hok)).elim⟩
    · rcases orThere_makeDir t refused (name :: above).reverse with ⟨q, hmade⟩ | ⟨hsame, -⟩
      · exact .inr ⟨_, q, List.prefix_rfl, hmade.endsIn ht, fun _ => rfl⟩
      · exact .inl hsame

/-! ### Writing -/

theorem opening_eq_ok_iff : t.opening p = .ok q ↔
    p.getLast? ≠ some "" ∧ t.lead p = .ok q ∧ t.entry? q ≠ some .directory := by
  rw [opening]
  split
  · next hslash =>
    cases t.leadLast p.dropLast <;> simp [hslash]
  · next hslash =>
    cases t.lead p with
    | error error => simp
    | ok r =>
      dsimp only
      split_ifs with hr
      · refine ⟨nofun, ?_⟩
        rintro ⟨-, h, hnot⟩
        obtain rfl := Except.ok.inj h
        exact absurd hr hnot
      · refine ⟨fun h => ?_, fun h => h.2.1⟩
        obtain rfl := Except.ok.inj h
        exact ⟨hslash, rfl, hr⟩

/-- What is left in a file that was opened, and what came of the writing. -/
inductive Leaves (refused : Refusals) (content : List UInt8) :
    List UInt8 → Except FileError Unit → Prop
  | whole : Leaves refused content content (.ok ())
  | part {n : Nat} {error : FileError} (hbeyond : refused.beyond = some (n, error))
      (hlength : n < content.length) : Leaves refused content (content.take n) (.error error)

/-- A writing does not begin, or else a file was opened. -/
theorem writing_cases (t : FileTree) (refused : Refusals) (p : FilePath) (content : List UInt8) :
    (∃ error, t.writing refused p content = (t, .error error)) ∨
      ∃ q left result, t.opening p = .ok q ∧ Leaves refused content left result ∧
        t.writing refused p content = (t.put q (.file left), result) := by
  rw [writing]
  split
  · exact .inl ⟨_, rfl⟩
  · next q hopening =>
    split
    · exact .inl ⟨_, rfl⟩
    · split
      · next n error hbeyond =>
        obtain ⟨hbeyond, hlength⟩ := Option.filter_eq_some_iff.mp hbeyond
        exact .inr ⟨q, _, _, hopening, .part hbeyond (by simpa using hlength), rfl⟩
      · exact .inr ⟨q, _, _, hopening, .whole, rfl⟩

/-- What is put into a file that was opened changes no way. -/
theorem keepsWays_of_opening (h : t.opening p = .ok q) (content : List UInt8) :
    t.KeepsWays (t.put q (.file content)) := by
  obtain ⟨-, hlead, hnot⟩ := opening_eq_ok_iff.mp h
  exact .put hnot ((lead_eq_ok_iff.mp hlead).2.not_isLink (not_isLink_of_directory rfl)) (by simp)

/-- **A path that was written to leads to what was written.** -/
theorem find_of_opening (h : t.opening p = .ok q) (content : List UInt8) :
    find (t.put q (.file content)) p = .ok (.file content) := by
  obtain ⟨-, hlead, hnot⟩ := opening_eq_ok_iff.mp h
  have hne : q ≠ [] := by
    rintro rfl
    exact hnot rfl
  exact find_eq_ok_iff.mpr ⟨q, (keepsWays_of_opening h content).lead hlead, entry?_put_self t hne _⟩

theorem Rooted.of_opening (ht : t.Rooted) (h : t.opening p = .ok q) (content : List UInt8) :
    (t.put q (.file content)).Rooted := by
  obtain ⟨-, hlead, hnot⟩ := opening_eq_ok_iff.mp h
  exact ht.put hnot ((lead_eq_ok_iff.mp hlead).2.above ht rfl) _

theorem settled_eq_ok_iff {α : Type} {done : FileTree × Except FileError α} {result : α} :
    settled done = .ok (after, result) ↔ done = (after, .ok result) := by
  obtain ⟨tree, outcome⟩ := done
  cases outcome <;> simp [settled, Except.map]

/-! ### Trees that operations come to -/

theorem Rooted.writing (ht : t.Rooted) (refused : Refusals) (p : FilePath)
    (content : List UInt8) : (t.writing refused p content).1.Rooted := by
  rcases writing_cases t refused p content with ⟨error, h⟩ | ⟨q, left, result, hopening, -, h⟩
  · rwa [h]
  · rw [h]
    exact ht.of_opening hopening left

theorem Rooted.remove (ht : t.Rooted) (h : t.remove p = .ok after) : after.Rooted := by
  rw [FileTree.remove] at h
  split at h
  · cases h
  · next q _ =>
    split at h
    · cases h
    · cases h
    · next e hnot hentry =>
      obtain rfl := Except.ok.inj h
      have hq : t.entry? q ≠ some .directory := by simpa [hentry] using hnot
      refine ht.of_entries hq (fun r hne => ?_) fun _ _ => ht q e hentry
      rw [FileTree.entry?, FileTree.entry?, lookup_filter_of_ne hne]

/-- A tree that operations have come to, whether they failed or not, from an empty one. -/
inductive Reachable : FileTree → Prop
  | empty : Reachable {}
  | makeDirs {t : FileTree} (refused : Refusals) (up : List String) :
    Reachable t → Reachable (t.makeDirs refused up).1
  | writing {t : FileTree} (refused : Refusals) (p : FilePath) (content : List UInt8) :
    Reachable t → Reachable (t.writing refused p content).1
  | remove {t after : FileTree} {p : FilePath} :
    Reachable t → t.remove p = .ok after → Reachable after

/-- **Every tree that operations come to is rooted.** -/
theorem Reachable.rooted (h : t.Reachable) : t.Rooted := by
  induction h with
  | empty => exact rooted_empty
  | makeDirs refused up _ ih => exact (growsTo_makeDirs ih refused up).rooted
  | writing refused p content _ ih => exact ih.writing refused p content
  | remove _ hremoved ih => exact ih.remove hremoved

end PurgeGateway.FileTree
