import PurgeGateway.Proofs.Provisioned

/-!
# A credentials file that is written once

Provisioning looks, makes directories and writes. The look comes first, and that is where it can go
wrong: a path that leads up again from a directory that is missing leads nowhere when it is looked
at, and to a file that stands elsewhere as soon as the directory is made. That file is written over.

Along a path without `..` this cannot happen. Whatever stops a provisioning there, something in the
way or a refusal that no tree shows, what stood anywhere stands there still, and a file is written
only where nothing stood. A look that finds nothing need not mean that nothing is there: behind a
closed directory there may be a file. Then nothing is written either.

So a file at such a path has one author. Of all that is done with the path, be it written, read or
signed with, only the first writing that opens the file changes anything there; what follows finds
what it left, the whole content or the part up to where it broke off.

## Main definitions

* `Credentials.Settles`: what is left after provisioning at any path.
* `Credentials.Harmless`: what is left after it at a path without `..`.
* `Credentials.Use`, `useAll`: what is done with a path, one thing after another.
* `Credentials.WrittenBy`: a run with one writing in it.

## Main results

* `Credentials.settles_provisioning`: at most one file is written over, the one at the path.
* `Credentials.harmless_provisioning`: without `..` none is.
* `Credentials.useAll_standing`, `useAll_missing`: what a run leaves and answers.
* `Credentials.written_once`: all of this, for every tree and path.
* `Credentials.written_over`: with `..` a file may be written over.
-/

namespace PurgeGateway

/-! ### Paths without `..` -/

namespace FileTree

variable {t between after : FileTree} {p x : FilePath} {q : Place} {refused : Refusals}

/-- The path leads down by names; what stays stands at its end. -/
structure IsDownward (p : FilePath) : Prop where
  down : ".." ∉ p
  shape : ∃ last, p = names p ++ last

/-- A path that is written without `..` leads down. -/
theorem isDownward_pathOf {path : String} (h : ".." ∉ pathOf path) : IsDownward (pathOf path) := by
  refine ⟨h, ?_⟩
  rw [pathOf]
  split
  · exact ⟨[], rfl⟩
  · generalize (path.toList.splitOn '/').map String.ofList = all
    have hlast : (all.getLast?.filter stays).toList.filter (!stays ·) = [] := by
      refine List.filter_eq_nil_iff.mpr fun name hname => ?_
      have hstays := (Option.filter_eq_some_iff.mp (Option.mem_toList.mp hname)).2
      simpa using hstays
    refine ⟨_, congrArg (· ++ _) ?_⟩
    rw [names, List.filter_append, hlast, List.append_nil, List.filter_filter]
    simp

theorem IsDownward.isName (hp : IsDownward p) {name : String} (h : name ∈ names p) :
    IsName name := by
  obtain ⟨hmem, hstays⟩ := List.mem_filter.mp h
  exact ⟨by simpa using hstays, fun hup => hp.down (hup ▸ hmem)⟩

theorem IsDownward.isName_of_parent (hp : IsDownward p) :
    ∀ name ∈ (parent p).reverse, IsName name :=
  fun _ hname => hp.isName (List.mem_of_mem_dropLast (List.mem_reverse.mp hname))

/-- A path leads by a name out of each directory above its end. -/
theorem IsDownward.below (hp : IsDownward p) (hx : x <+: parent p) (hne : names p ≠ []) :
    ∃ name y, p = x ++ name :: y ∧ IsName name := by
  obtain ⟨last, hlast⟩ := hp.shape
  obtain ⟨y, hy⟩ : x <+: names p := hx.trans (List.dropLast_prefix _)
  cases y with
  | nil =>
    have hlength := hx.length_le
    have hpos := List.length_pos_of_ne_nil hne
    rw [parent, List.length_dropLast, ← hy, List.append_nil] at hlength
    rw [← hy, List.append_nil] at hpos
    omega
  | cons name y =>
    refine ⟨name, y ++ last, ?_, hp.isName (by simp [← hy])⟩
    rw [← List.cons_append, ← List.append_assoc, hy, ← hlast]

/-- Nothing had to be made above a path, or else it leads out of an empty directory. -/
theorem IsDownward.endsIn (hp : IsDownward p) (ht : t.Rooted) {outcome : Except FileError Unit}
    (hmade : t.makeDirs refused (parent p).reverse = (between, outcome)) :
    between = t ∨ ∃ x q name y, p = x ++ name :: y ∧ IsName name ∧ t.EndsIn between x q := by
  by_cases hnone : names p = []
  · rw [parent, hnone] at hmade
    exact .inl (Prod.mk.inj hmade).1.symm
  · have hends := endsIn_makeDirs ht refused hp.isName_of_parent
    rw [hmade, List.reverse_reverse] at hends
    refine hends.imp_right ?_
    rintro ⟨x, q, hx, hends, -⟩
    obtain ⟨name, y, hname, hisName⟩ := hp.below hx hnone
    exact ⟨x, q, name, y, hname, hisName, hends⟩

/-- Where nothing is found, nothing is found after the directories above were made. -/
theorem IsDownward.find_ne (hp : IsDownward p) (ht : t.Rooted) {outcome : Except FileError Unit}
    (hmade : t.makeDirs refused (parent p).reverse = (between, outcome))
    (hnot : ∀ e, t.find p ≠ .ok e) : ∀ e, between.find p ≠ .ok e := by
  rcases hp.endsIn ht hmade with rfl | ⟨x, q, name, y, rfl, hname, hends⟩
  · exact hnot
  · exact hends.find_ne hname y

/-- **Where a path without `..` is opened, nothing stood**, if nothing was found there. -/
theorem IsDownward.missing_of_opening (hp : IsDownward p) (ht : t.Rooted)
    {outcome : Except FileError Unit}
    (hmade : t.makeDirs refused (parent p).reverse = (between, outcome))
    (hnot : ∀ e, t.find p ≠ .ok e) (hopening : between.opening p = .ok q) :
    t.entry? q = none := by
  have hlead := (opening_eq_ok_iff.mp hopening).2.1
  rcases hp.endsIn ht hmade with rfl | ⟨x, q', name, y, rfl, hname, hends⟩
  · refine Option.eq_none_iff_forall_ne_some.mpr fun e he => ?_
    exact hnot e (find_eq_ok_iff.mpr ⟨q, hlead, he⟩)
  · obtain ⟨-, rfl⟩ := hends.of_leads hname (lead_eq_ok_iff.mp hlead).2
    exact ht.entry?_append hends.missing [name]

/-- Where a look fails and not for want of an entry, no directory is made. -/
theorem IsDownward.eq_of_find_error (hp : IsDownward p) (ht : t.Rooted)
    {outcome : Except FileError Unit}
    (hmade : t.makeDirs refused (parent p).reverse = (between, outcome)) {error : FileError}
    (hfind : t.find p = .error error) (hne : error ≠ .notFound) : between = t := by
  refine (hp.endsIn ht hmade).resolve_right ?_
  rintro ⟨x, q, name, y, rfl, -, hends⟩
  obtain ⟨x', s, ⟨z, rfl⟩, -, hlead, hmissing⟩ := hends.start
  rw [List.append_assoc, find_of_missing hlead hmissing (by simp)] at hfind
  exact hne (Except.error.inj hfind).symm

end FileTree

namespace Credentials

open FileTree

variable {t : FileTree} {p : FilePath} {c : Credentials} {refused : Refusals}

/-! ### One writing -/

/-- The ways in which provisioning ends. -/
inductive Ends (t : FileTree) (p : FilePath) (c : Credentials) (refused : Refusals) :
    FileTree × Except FileError Bool → Prop
  /-- Something is found there. -/
  | there {e : FileEntry} (standing : t.find p = .ok e) : Ends t p c refused (t, .ok false)
  /-- Nothing is found there, and no file is opened; directories may have been made. -/
  | failed {between : FileTree} {outcome : Except FileError Unit} (missing : ∀ e, t.find p ≠ .ok e)
      (made : t.makeDirs refused (parent p).reverse = (between, outcome)) (error : FileError) :
    Ends t p c refused (between, .error error)
  /-- Nothing was found there, and a file was opened in its directory. -/
  | opened {between : FileTree} {q : Place} {left : List UInt8} {result : Except FileError Unit}
      (missing : ∀ e, t.find p ≠ .ok e)
      (made : t.makeDirs refused (parent p).reverse = (between, .ok ()))
      (opening : between.opening p = .ok q)
      (leaves : Leaves refused (Utf8.bytes c.edgerc) left result) :
    Ends t p c refused (between.put q (.file left), result.map fun () => true)

theorem ends_provisioning (t : FileTree) (refused : Refusals) (p : FilePath) (c : Credentials) :
    Ends t p c refused (provisioning refused t p c) := by
  rw [provisioning]
  split
  · next hthere =>
    obtain ⟨e, he⟩ := contains_iff.mp hthere
    exact .there he
  · next hnot =>
    have hmissing : ∀ e, t.find p ≠ .ok e := fun e he => hnot (contains_iff.mpr ⟨e, he⟩)
    split
    · next between error hmade => exact .failed hmissing hmade error
    · next between hmade =>
      rcases between.writing_cases refused p (Utf8.bytes c.edgerc)
        with ⟨error, hwriting⟩ | ⟨q, left, result, hopening, hleaves, hwriting⟩
      · rw [hwriting]
        exact .failed hmissing hmade error
      · rw [hwriting]
        exact .opened hmissing hmade hopening hleaves

/-- What is left after provisioning at any path.

The answer tells whether something was found there, which then is as it was, and whether the file
was written: it is found there then, whole and in its directories. All that stood anywhere stands
there unchanged, but for one file perhaps, the one to which the path leads now and did not before.
What is new is a directory above the path, or the file. -/
structure Settles (t : FileTree) (p : FilePath) (c : Credentials)
    (done : FileTree × Except FileError Bool) : Prop where
  there_iff : done.2 = .ok false ↔ ∃ e, t.find p = .ok e
  unchanged : done.2 = .ok false → done.1 = t
  written : done.2 = .ok true → done.1.find p = .ok (.file (Utf8.bytes c.edgerc))
  directories : done.2 = .ok true → ∀ x, x <+: p → x ≠ [] → x ≠ p →
    done.1.find x = .ok .directory
  kept : ∀ q e, t.entry? q = some e → entry? done.1 q = some e ∨
    (∃ content, e = .file content) ∧ done.1.lead p = .ok q ∧ ∀ e, t.find p ≠ .ok e
  new : ∀ q e, entry? done.1 q = some e → t.entry? q = some e ∨
    e = .directory ∧ (∃ x, x <+: parent p ∧ x ≠ [] ∧ done.1.lead x = .ok q) ∨
    (∃ content, e = .file content) ∧ done.1.lead p = .ok q
  ways : t.KeepsWays done.1
  rooted : done.1.Rooted

/-- Nothing was damaged at a path without `..`.

All that stood anywhere stands there unchanged, and all that was found anywhere is found there. If
provisioning fails, no file is found at the path, or it broke off and what was written so far is. If
a look at the path fails, and not because nothing is there, nothing at all is changed. -/
structure Harmless (t : FileTree) (p : FilePath) (c : Credentials) (refused : Refusals)
    (done : FileTree × Except FileError Bool) : Prop where
  kept : ∀ q e, t.entry? q = some e → entry? done.1 q = some e
  found : ∀ x e, t.find x = .ok e → done.1.find x = .ok e
  failed : ∀ error, done.2 = .error error → (∀ e, done.1.find p ≠ .ok e) ∨
    ∃ n, refused.beyond = some (n, error) ∧ n < (Utf8.bytes c.edgerc).length ∧
      done.1.find p = .ok (.file ((Utf8.bytes c.edgerc).take n))
  unseen : ∀ error, t.find p = .error error → error ≠ .notFound →
    done.1 = t ∧ ∃ error', done.2 = .error error'

theorem settles_of_there (ht : t.Rooted) {e : FileEntry} (standing : t.find p = .ok e) :
    Settles t p c (t, .ok false) where
  there_iff := ⟨fun _ => ⟨e, standing⟩, fun _ => rfl⟩
  unchanged _ := rfl
  written := nofun
  directories := nofun
  kept _ _ h := .inl h
  new _ _ h := .inl h
  ways := .refl t
  rooted := ht

theorem settles_of_failed {between : FileTree} (missing : ∀ e, t.find p ≠ .ok e)
    (grown : t.GrowsTo between (parent p)) (error : FileError) :
    Settles t p c (between, .error error) where
  there_iff := ⟨nofun, fun ⟨e, he⟩ => absurd he (missing e)⟩
  unchanged := nofun
  written := nofun
  directories := nofun
  kept q e hq := .inl (grown.kept q e hq)
  new q e hq := (grown.new q e hq).imp_right .inl
  ways := grown.keepsWays
  rooted := grown.rooted

/-- What stands where a path is opened is a file. -/
theorem exists_file_of_opening {between : FileTree} {q : Place}
    (opening : between.opening p = .ok q) {e : FileEntry} (he : between.entry? q = some e) :
    ∃ content, e = .file content := by
  obtain ⟨-, hlead, hnot⟩ := opening_eq_ok_iff.mp opening
  have hlink := (lead_eq_ok_iff.mp hlead).2.not_isLink (not_isLink_of_directory rfl)
  cases e with
  | file content => exact ⟨content, rfl⟩
  | directory => exact absurd he hnot
  | link fromTop target => exact absurd ⟨fromTop, target, he⟩ hlink

theorem settles_of_opened {between : FileTree} {q : Place} {left : List UInt8}
    {result : Except FileError Unit} (missing : ∀ e, t.find p ≠ .ok e)
    (grown : t.GrowsTo between (parent p)) (opening : between.opening p = .ok q)
    (leaves : Leaves refused (Utf8.bytes c.edgerc) left result) :
    Settles t p c (between.put q (.file left), result.map fun () => true) := by
  have hways := keepsWays_of_opening opening left
  have hopened := opening_eq_ok_iff.mp opening
  have hlead := hways.lead hopened.2.1
  have hne : q ≠ [] := by
    rintro rfl
    exact hopened.2.2 rfl
  have hanswer : (result.map fun () => true) ≠ .ok false := by
    cases leaves <;> nofun
  exact {
    there_iff := ⟨fun h => absurd h hanswer, fun ⟨e, he⟩ => absurd he (missing e)⟩
    unchanged := fun h => absurd h hanswer
    written := by
      intro h
      cases leaves with
      | whole => exact find_of_opening opening _
      | part => cases h
    directories := fun _ x => find_of_lead hlead
    kept := by
      intro r e hr
      by_cases heq : r = q
      · subst heq
        exact .inr ⟨exists_file_of_opening opening (grown.kept r e hr), hlead, missing⟩
      · exact .inl ((entry?_put_of_ne between heq _).trans (grown.kept r e hr))
    new := by
      intro r e hr
      by_cases heq : r = q
      · subst heq
        rw [entry?_put_self between hne] at hr
        exact .inr (.inr ⟨⟨left, (Option.some.inj hr).symm⟩, hlead⟩)
      · rw [entry?_put_of_ne between heq] at hr
        refine (grown.new r e hr).imp_right fun ⟨hdirectory, x, hx, hxne, hway⟩ => .inl ?_
        exact ⟨hdirectory, x, hx, hxne, hways.lead hway⟩
    ways := grown.keepsWays.trans hways
    rooted := grown.rooted.of_opening opening left }

/-- **At any path at most one file is written over.** -/
theorem settles_provisioning (ht : t.Rooted) (refused : Refusals) (p : FilePath)
    (c : Credentials) : Settles t p c (provisioning refused t p c) := by
  have hends := ends_provisioning t refused p c
  generalize provisioning refused t p c = done at hends
  cases hends with
  | there standing => exact settles_of_there ht standing
  | failed missing made error => exact settles_of_failed missing (.of_makeDirs ht made) error
  | opened missing made opening leaves =>
    exact settles_of_opened missing (.of_makeDirs ht made) opening leaves

theorem harmless_of_there {e : FileEntry} (standing : t.find p = .ok e) :
    Harmless t p c refused (t, .ok false) where
  kept _ _ h := h
  found _ _ h := h
  failed := nofun
  unseen _ h := by cases standing.symm.trans h

theorem harmless_of_failed (ht : t.Rooted) (hp : IsDownward p) {between : FileTree}
    {outcome : Except FileError Unit} (missing : ∀ e, t.find p ≠ .ok e)
    (made : t.makeDirs refused (parent p).reverse = (between, outcome)) (error : FileError) :
    Harmless t p c refused (between, .error error) := by
  have hgrown := GrowsTo.of_makeDirs ht made
  exact {
    kept := hgrown.kept
    found := fun _ _ => hgrown.keepsWays.find hgrown.kept
    failed := fun _ _ => .inl (hp.find_ne ht made missing)
    unseen := fun _ hfind hne => ⟨hp.eq_of_find_error ht made hfind hne, error, rfl⟩ }

theorem harmless_of_opened (ht : t.Rooted) (hp : IsDownward p) {between : FileTree} {q : Place}
    {left : List UInt8} {result : Except FileError Unit} (missing : ∀ e, t.find p ≠ .ok e)
    (made : t.makeDirs refused (parent p).reverse = (between, .ok ()))
    (opening : between.opening p = .ok q)
    (leaves : Leaves refused (Utf8.bytes c.edgerc) left result) :
    Harmless t p c refused (between.put q (.file left), result.map fun () => true) := by
  have hgrown := GrowsTo.of_makeDirs ht made
  have hnew : t.entry? q = none := hp.missing_of_opening ht made missing opening
  have hkept : ∀ r e, t.entry? r = some e → entry? (between.put q (.file left)) r = some e := by
    intro r e hr
    have hne : r ≠ q := by
      rintro rfl
      cases hnew.symm.trans hr
    exact (entry?_put_of_ne between hne _).trans (hgrown.kept r e hr)
  exact {
    kept := hkept
    found := fun _ _ => (hgrown.keepsWays.trans (keepsWays_of_opening opening left)).find hkept
    failed := by
      intro error herror
      cases leaves with
      | whole => cases herror
      | part hbeyond hlength =>
        cases herror
        exact .inr ⟨_, hbeyond, hlength, find_of_opening opening _⟩
    unseen := by
      intro error hfind hne
      obtain rfl := hp.eq_of_find_error ht made hfind hne
      rw [find, (opening_eq_ok_iff.mp opening).2.1] at hfind
      dsimp only at hfind
      rw [hnew] at hfind
      exact absurd (Except.error.inj hfind).symm hne }

/-- **Without `..` nothing is damaged**, however provisioning ends. -/
theorem harmless_provisioning (ht : t.Rooted) (hp : IsDownward p) (refused : Refusals)
    (c : Credentials) : Harmless t p c refused (provisioning refused t p c) := by
  have hends := ends_provisioning t refused p c
  generalize provisioning refused t p c = done at hends
  cases hends with
  | there standing => exact harmless_of_there standing
  | failed missing made error => exact harmless_of_failed ht hp missing made error
  | opened missing made opening leaves => exact harmless_of_opened ht hp missing made opening leaves

/-! ### A run -/

/-- The content of the file at a path, if it can be read. -/
def content? (t : FileTree) (p : FilePath) : Option (List UInt8) :=
  (t.read p).toOption

/-- What is done with the file at a path. -/
inductive Use
  | provision (refused : Refusals) (c : Credentials)
  | load (order : Nested.Order)
  | sign (stamp : Signing.Stamp) (order : Nested.Order) (r : Outbound)

/-- What comes of it. -/
inductive Answer
  | provisioned (answer : Except FileError Bool)
  | loaded (answer : Except LoadError Credentials)
  | signed (answer : Except Signing.Error Outbound)

/-- One use of the file at a path. -/
def use (t : FileTree) (p : FilePath) : Use → FileTree × Answer
  | .provision refused c =>
    let (after, answer) := provisioning refused t p c
    (after, .provisioned answer)
  | .load order => (t, .loaded (load (content? t p) order))
  | .sign stamp order r => (t, .signed (Signer.ofFile stamp order (content? t p) r))

theorem use_provision (t : FileTree) (p : FilePath) (refused : Refusals) (c : Credentials) :
    use t p (.provision refused c) =
      ((provisioning refused t p c).1, .provisioned (provisioning refused t p c).2) := rfl

theorem use_load (t : FileTree) (p : FilePath) (order : Nested.Order) :
    use t p (.load order) = (t, .loaded (load (content? t p) order)) := rfl

/-- Uses of the file at a path, one after another, with what comes of each. -/
def useAll (t : FileTree) (p : FilePath) : List Use → FileTree × List Answer
  | [] => (t, [])
  | u :: us =>
    let (between, answer) := use t p u
    let (after, answers) := useAll between p us
    (after, answer :: answers)

/-- What comes of a use of something that is found: it is not written, and if it is a file it is
read as it is. -/
def Use.answer (content : Option (List UInt8)) : Use → Answer
  | .provision _ _ => .provisioned (.ok false)
  | .load order => .loaded (Credentials.load content order)
  | .sign stamp order r => .signed (Signer.ofFile stamp order content r)

/-- What comes of a use that finds nothing and leaves nothing: an error. -/
inductive Unwritten : Use → Answer → Prop
  | provision (refused c e) : Unwritten (.provision refused c) (.provisioned (.error e))
  | load (order) : Unwritten (.load order) (.loaded (.error .unreadable))
  | sign (stamp order r) : Unwritten (.sign stamp order r) (.signed (.error .credentials))

theorem content?_of_find {content : List UInt8} (h : t.find p = .ok (.file content)) :
    content? t p = some content := by
  rw [content?, read_of_find h]
  rfl

theorem content?_of_missing (h : ∀ e, t.find p ≠ .ok e) : content? t p = none := by
  rw [content?, FileTree.read]
  split
  · next content hfind => exact absurd hfind (h _)
  · rfl
  · rfl

/-- What is found is left as it is. -/
theorem use_standing {e : FileEntry} (h : t.find p = .ok e) (u : Use) :
    use t p u = (t, u.answer (content? t p)) := by
  cases u with
  | provision refused c => rw [use, provisioning, if_pos (contains_iff.mpr ⟨e, h⟩)]; rfl
  | load order => rfl
  | sign stamp order r => rfl

/-- A provisioning that opened the file, and what it left there. -/
structure Opens (t : FileTree) (p : FilePath) (refused : Refusals) (c : Credentials)
    (left : List UInt8) (result : Except FileError Unit) : Prop where
  leaves : Leaves refused (Utf8.bytes c.edgerc) left result
  answer : (provisioning refused t p c).2 = result.map fun () => true
  found : (provisioning refused t p c).1.find p = .ok (.file left)

/-- Where nothing is found, only an opening makes a difference. -/
theorem use_missing (ht : t.Rooted) (hp : IsDownward p) (h : ∀ e, t.find p ≠ .ok e) (u : Use) :
    Unwritten u (use t p u).2 ∧ (∀ e, (use t p u).1.find p ≠ .ok e) ∨
      ∃ refused c left result, u = .provision refused c ∧ Opens t p refused c left result := by
  cases u with
  | provision refused c =>
    have hends := ends_provisioning t refused p c
    rw [use_provision]
    generalize hdone : provisioning refused t p c = done at hends
    cases hends with
    | there standing => exact absurd standing (h _)
    | failed missing made error => exact .inl ⟨.provision refused c error, hp.find_ne ht made h⟩
    | @opened between q left result missing made opening leaves =>
      exact .inr ⟨refused, c, left, result, rfl, leaves, by rw [hdone],
        by rw [hdone]; exact find_of_opening opening left⟩
  | load order =>
    rw [use, content?_of_missing h]
    exact .inl ⟨.load order, h⟩
  | sign stamp order r =>
    rw [use, content?_of_missing h]
    exact .inl ⟨.sign stamp order r, h⟩

/-- All that stands anywhere is kept, and so is all that is found. -/
structure Kept (t after : FileTree) : Prop where
  entries : ∀ q e, t.entry? q = some e → after.entry? q = some e
  found : ∀ x e, t.find x = .ok e → after.find x = .ok e
  rooted : after.Rooted

theorem Kept.refl (ht : t.Rooted) : Kept t t :=
  ⟨fun _ _ h => h, fun _ _ h => h, ht⟩

theorem Kept.trans {between after : FileTree} (h : Kept t between) (h' : Kept between after) :
    Kept t after where
  entries q e hq := h'.entries q e (h.entries q e hq)
  found x e hx := h'.found x e (h.found x e hx)
  rooted := h'.rooted

theorem use_kept (ht : t.Rooted) (hp : IsDownward p) (u : Use) : Kept t (use t p u).1 := by
  cases u with
  | provision refused c =>
    have hharmless := harmless_provisioning ht hp refused c
    exact ⟨hharmless.kept, hharmless.found, (settles_provisioning ht refused p c).rooted⟩
  | load order => exact .refl ht
  | sign stamp order r => exact .refl ht

theorem useAll_cons (t : FileTree) (p : FilePath) (u : Use) (us : List Use) :
    useAll t p (u :: us) =
      ((useAll (use t p u).1 p us).1, (use t p u).2 :: (useAll (use t p u).1 p us).2) := rfl

/-- **Nothing that stands anywhere is lost** in a run. -/
theorem useAll_kept (ht : t.Rooted) (hp : IsDownward p) (us : List Use) :
    Kept t (useAll t p us).1 := by
  induction us generalizing t with
  | nil => exact .refl ht
  | cons u us ih =>
    have hkept := use_kept ht hp u
    exact hkept.trans (ih hkept.rooted)

/-- **What is found is what every use finds**: a run changes nothing. -/
theorem useAll_standing {e : FileEntry} (h : t.find p = .ok e) (us : List Use) :
    useAll t p us = (t, us.map (Use.answer (content? t p))) := by
  induction us with
  | nil => rfl
  | cons u us ih => rw [useAll_cons, use_standing h, ih, List.map_cons]

/-- A run with a writing in it that opened the file: the first one. Before it there was no file, and
it leaves the tree that the run leaves; all that is done behind it finds what it left. -/
structure WrittenBy (t : FileTree) (p : FilePath) (us before : List Use) (refused : Refusals)
    (c : Credentials) (left : List UInt8) (result : Except FileError Unit)
    (behind : List Use) : Prop where
  uses : us = before ++ .provision refused c :: behind
  unwritten : List.Forall₂ Unwritten before (useAll t p before).2
  leaves : Leaves refused (Utf8.bytes c.edgerc) left result
  tree : (useAll t p us).1 = (provisioning refused (useAll t p before).1 p c).1
  content : (useAll t p us).1.find p = .ok (.file left)
  answers : (useAll t p us).2 = (useAll t p before).2 ++
    .provisioned (result.map fun () => true) :: behind.map (Use.answer (some left))

/-- The first writing that opens the file is the first thing done. -/
theorem Opens.writtenBy {left : List UInt8} {result : Except FileError Unit}
    (h : Opens t p refused c left result) (us : List Use) :
    WrittenBy t p (.provision refused c :: us) [] refused c left result us := by
  have hrest := useAll_standing h.found us
  rw [content?_of_find h.found] at hrest
  have hall : useAll t p (.provision refused c :: us) = ((provisioning refused t p c).1,
      .provisioned (result.map fun () => true) :: us.map (Use.answer (some left))) := by
    rw [useAll_cons, use_provision, h.answer, hrest]
  exact ⟨rfl, .nil, h.leaves, by rw [hall]; rfl, by rw [hall]; exact h.found, by rw [hall]; rfl⟩

/-- Something that leaves no file may be done before. -/
theorem WrittenBy.cons {u : Use} {us before behind : List Use} {left : List UInt8}
    {result : Except FileError Unit} (hu : Unwritten u (use t p u).2)
    (h : WrittenBy (use t p u).1 p us before refused c left result behind) :
    WrittenBy t p (u :: us) (u :: before) refused c left result behind where
  uses := congrArg (u :: ·) h.uses
  unwritten := .cons hu h.unwritten
  leaves := h.leaves
  tree := h.tree
  content := h.content
  answers := congrArg ((use t p u).2 :: ·) h.answers

/-- **Where nothing is found, the first writing that opens the file decides**, if there is one. -/
theorem useAll_missing (ht : t.Rooted) (hp : IsDownward p) (h : ∀ e, t.find p ≠ .ok e)
    (us : List Use) :
    List.Forall₂ Unwritten us (useAll t p us).2 ∧ (∀ e, (useAll t p us).1.find p ≠ .ok e) ∨
      ∃ before refused c left result behind,
        WrittenBy t p us before refused c left result behind := by
  induction us generalizing t with
  | nil => exact .inl ⟨.nil, h⟩
  | cons u us ih =>
    rcases use_missing ht hp h u with ⟨hunwritten, hmissing⟩ | ⟨_, _, _, _, rfl, hopens⟩
    · rcases ih (use_kept ht hp u).rooted hmissing with ⟨hall, hnone⟩ | ⟨_, _, _, _, _, _, hrest⟩
      · exact .inl ⟨.cons hunwritten hall, hnone⟩
      · exact .inr ⟨_, _, _, _, _, _, hrest.cons hunwritten⟩
    · exact .inr ⟨_, _, _, _, _, _, hopens.writtenBy us⟩

/-- **A credentials file is written once**, at a path without `..`. In a tree that is rooted,
provisioning then damages nothing, whichever of its steps are refused; at any path it writes over
one file at most. In a run nothing that stands anywhere is lost. If something is found at the path,
a run leaves the tree as it is, and every use finds that; if not, the first writing that opens the
file decides what all that follow find. -/
theorem written_once (ht : t.Rooted) (path : String) :
    (∀ refused c, Settles t (pathOf path) c (provisioning refused t (pathOf path) c)) ∧
    (".." ∉ pathOf path →
      (∀ refused c, Harmless t (pathOf path) c refused
        (provisioning refused t (pathOf path) c)) ∧
      ∀ us, Kept t (useAll t (pathOf path) us).1 ∧
        ((∃ e, t.find (pathOf path) = .ok e) →
          useAll t (pathOf path) us = (t, us.map (Use.answer (content? t (pathOf path))))) ∧
        ((∀ e, t.find (pathOf path) ≠ .ok e) →
          List.Forall₂ Unwritten us (useAll t (pathOf path) us).2 ∧
              (∀ e, (useAll t (pathOf path) us).1.find (pathOf path) ≠ .ok e) ∨
            ∃ before refused c left result behind,
              WrittenBy t (pathOf path) us before refused c left result behind)) := by
  refine ⟨fun refused c => settles_provisioning ht refused _ c, fun hdown => ?_⟩
  have hp := isDownward_pathOf hdown
  refine ⟨fun refused c => harmless_provisioning ht hp refused c,
    fun us => ⟨useAll_kept ht hp us, ?_, fun h => useAll_missing ht hp h us⟩⟩
  rintro ⟨e, he⟩
  exact useAll_standing he us

/-- A tree with a directory in which there are no keys yet. -/
def keyless : FileTree where
  entries := [(["etc"], .directory), (["etc", "other"], .file [1]),
    (["keys"], .link false ["etc", "keys"])]

/-- Credentials are looked for, written, written with others in their place, and signed with. -/
def eagerUses : List Use :=
  [.load [], .provision {} .awkward, .provision {} {}, .sign default [] default]

/-- The file beside the directory of the keys is kept, and one of the credentials are written. -/
theorem written_once_keyless :
    keyless.Rooted ∧ ".." ∉ pathOf "etc/keys/client" ∧
      (∀ e, keyless.find (pathOf "etc/keys/client") ≠ .ok e) ∧
      (useAll keyless (pathOf "etc/keys/client") eagerUses).1.find ["etc", "other"]
        = .ok (.file [1]) ∧
      ∃ before refused c left result behind, WrittenBy keyless (pathOf "etc/keys/client") eagerUses
        before refused c left result behind := by
  have hrooted : keyless.Rooted := by decide
  have hdown : ".." ∉ pathOf "etc/keys/client" := by decide +kernel
  have hfind : keyless.find (pathOf "etc/keys/client") = .error .notFound := by decide +kernel
  have hmissing : ∀ e, keyless.find (pathOf "etc/keys/client") ≠ .ok e := by
    rw [hfind]
    exact nofun
  have hanswer : (provisioning {} keyless (pathOf "etc/keys/client") .awkward).2 = .ok true := by
    decide +kernel
  obtain ⟨hkept, -, hdecides⟩ :=
    ((written_once hrooted "etc/keys/client").2 hdown).2 eagerUses
  refine ⟨hrooted, hdown, hmissing, hkept.found _ _ (by decide +kernel), ?_⟩
  rcases hdecides hmissing with ⟨hunwritten, -⟩ | hwritten
  · -- The first writing is not refused.
    rw [eagerUses, useAll_cons, useAll_cons, List.forall₂_cons, List.forall₂_cons, use_load,
      use_provision, hanswer] at hunwritten
    cases hunwritten.2.1
  · exact hwritten

/-- A tree with one file in it. -/
def victim : FileTree where
  entries := [(["victim"], .file [0x78])]

/-- **With `..` a file may be written over.** At a path that leads up from a directory that is
missing nothing is found; the directory is made, and then the path leads to a file that stood there
all along. -/
theorem written_over :
    victim.Rooted ∧ victim.find (pathOf "victim") = .ok (.file [0x78]) ∧
      victim.find (pathOf "missing/../victim") = .error .notFound ∧
      (provisioning {} victim (pathOf "missing/../victim") .awkward).2 = .ok true ∧
      (provisioning {} victim (pathOf "missing/../victim") .awkward).1.find (pathOf "victim")
        ≠ .ok (.file [0x78]) := by
  refine ⟨by decide, by decide +kernel, by decide +kernel, by decide +kernel, by decide +kernel⟩

end Credentials

end PurgeGateway
