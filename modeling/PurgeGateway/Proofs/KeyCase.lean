import PurgeGateway.Proofs.Encoding
import PurgeGateway.Proofs.Extraction
import Mathlib.Data.List.Forall2

/-!
# Keys in any case

A key is looked up with small letters, so it may be written with any. What has to be shown is that
the letters of keys decide nothing else: where tags start and end, and so which characters are of a
key at all, is the same when some of them are written in the other case.

Only the first of two texts is taken apart to say that they differ in keys alone; that the second
falls into the same tags is what is proved. A tag ends at a brace, which is no letter. It starts at
a kind, and a kind ends at its only colon. So a kind that starts in a literal and goes on into a tag
behind it ends with the kind of that tag at the latest, and no letter of a key is part of it.

## Main definitions

* `Template.SameButKeys`: a text is another one but for the case of letters in keys.
* `Template.Segment.Alike`: the same literal, or the same tag.
* `Http.Headers.arriving`: header fields whose names arrive as they are spelled.

## Main results

* `Template.tagAt?_ne_none_iff`: where a tag is found, said of the text behind its kind.
* `Template.exists_leftmost_of_fits`: the same tags are found, between the same literals.
* `Http.headerName?_bytes`: a header name is known by its text with small letters.
* `Template.read_in_any_case`: templates and header names in any case, all told.
-/

namespace PurgeGateway

/-! ### The letters of a text -/

namespace Ascii

/-- The brace that ends a tag is the small form of nothing else. -/
theorem eq_brace_of_toLower {c : Char} (h : c.toLower = '}') : c = '}' := by
  have hcapitals : ∀ n < 26, (Char.ofNat (65 + n)).toLower ≠ '}' := by decide
  rcases toLower_cases c with hsame | ⟨n, hn, rfl⟩
  · exact hsame.symm.trans h
  · exact absurd h (hcapitals n hn)

variable {cs ds : List Char}

theorem head?_eq_brace_iff (h : ds.map Char.toLower = cs.map Char.toLower) :
    ds.head? = some '}' ↔ cs.head? = some '}' := by
  have hiff : ∀ cs : List Char, cs.head? = some '}' ↔ (cs.map Char.toLower).head? = some '}' := by
    intro cs
    cases cs with
    | nil => simp
    | cons c cs =>
      simp only [List.head?_cons, List.map_cons, Option.some.injEq]
      exact ⟨fun hc => by rw [hc]; rfl, eq_brace_of_toLower⟩
  rw [hiff ds, h, ← hiff cs]

theorem brace_mem_iff (h : ds.map Char.toLower = cs.map Char.toLower) : '}' ∈ ds ↔ '}' ∈ cs := by
  have hiff : ∀ cs : List Char, '}' ∈ cs ↔ '}' ∈ cs.map Char.toLower := by
    intro cs
    rw [List.mem_map]
    exact ⟨fun hc => ⟨'}', hc, rfl⟩, fun ⟨c, hc, hlower⟩ => eq_brace_of_toLower hlower ▸ hc⟩
  rw [hiff ds, h, ← hiff cs]

end Ascii

namespace Template

variable {tag : Tag} {source text cs ds body rest more key other : List Char} {side : Side}
  {subject : Subject} {segs segs' : List Segment} {s s' : Segment} {delimited : Bool}

/-! ### What is not of a key -/

/-- What stands in front of a key: the kind, and the delimiter if there is one. -/
def front (delimited : Bool) (side : Side) (subject : Subject) : List Char :=
  (if delimited then ['$', '{'] else []) ++ kindText side subject

/-- What stands behind a key. -/
def back (delimited : Bool) : List Char :=
  if delimited then ['}'] else []

/-- The colon of a kind is the last of its characters, and the only one. -/
theorem exists_front_eq (delimited : Bool) (side : Side) (subject : Subject) :
    ∃ before, front delimited side subject = before ++ [':'] ∧ ':' ∉ before := by
  refine ⟨(front delimited side subject).dropLast, ?_⟩
  cases delimited <;> cases side <;> cases subject <;> decide

theorem colon_mem_front (delimited : Bool) (side : Side) (subject : Subject) :
    ':' ∈ front delimited side subject := by
  obtain ⟨before, hfront, -⟩ := exists_front_eq delimited side subject
  simp [hfront]

/-- **How a tag is spelled**: by its kind, its key and what is around them. What ends a key without
delimiters comes behind the tag. -/
theorem spelled_iff : Spelled tag source rest ↔ ∃ delimited key,
    source = front delimited tag.side tag.subject ++ (key ++ back delimited) ∧ IsRun key ∧
      tag.key = Ascii.lowerText (String.ofList key) ∧
      (delimited = false → ∀ c, rest.head? = some c → c = '}') := by
  constructor
  · intro h
    cases h with
    | delimited hrun => exact ⟨true, _, by simp [front, back], hrun, rfl, by simp⟩
    | bare hrun hend => exact ⟨false, _, by simp [front, back], hrun, rfl, fun _ => hend⟩
  · obtain ⟨side, subject, lower⟩ := tag
    rintro ⟨delimited, key, rfl, hrun, rfl, hend⟩
    cases delimited with
    | true =>
      have hspelled : Spelled ⟨side, subject, _⟩ _ rest := .delimited hrun
      simpa [front, back] using hspelled
    | false =>
      have hspelled : Spelled ⟨side, subject, _⟩ _ rest := .bare hrun (hend rfl)
      simpa [front, back] using hspelled

/-- A text can start with a key, closed where it has to be. -/
structure HoldsKey (delimited : Bool) (body : List Char) : Prop where
  nonempty : body ≠ []
  filled : body.head? ≠ some '}'
  closed : delimited = true → '}' ∈ body

theorem HoldsKey.of_run (hrun : IsRun key) (hrest : delimited = true → '}' ∈ rest) :
    HoldsKey delimited (key ++ rest) := by
  obtain ⟨hnonempty, hunclosed⟩ := hrun
  cases key with
  | nil => exact absurd rfl hnonempty
  | cons c key =>
    refine ⟨List.cons_ne_nil c _, ?_, fun h => List.mem_append_right _ (hrest h)⟩
    intro hc
    obtain rfl : c = '}' := Option.some.inj hc
    exact hunclosed List.mem_cons_self

theorem HoldsKey.isRun (h : HoldsKey delimited body) : IsRun (body.takeWhile (· != '}')) := by
  refine ⟨?_, notMem_takeWhile body⟩
  obtain ⟨hnonempty, hfilled, -⟩ := h
  cases body with
  | nil => exact absurd rfl hnonempty
  | cons c body =>
    have hc : (c != '}') = true := by simpa using hfilled
    rw [List.takeWhile_cons, if_pos hc]
    exact List.cons_ne_nil c _

/-- The key is what is in front of the first brace. -/
theorem HoldsKey.exists_run (h : HoldsKey delimited body) : ∃ key rest,
    body = key ++ (back delimited ++ rest) ∧ IsRun key ∧
      (delimited = false → ∀ c, rest.head? = some c → c = '}') := by
  have hsplit := List.takeWhile_append_dropWhile (p := (· != '}')) (l := body)
  cases delimited with
  | false => exact ⟨_, _, hsplit.symm, h.isRun, fun _ => head?_dropWhile body⟩
  | true =>
    cases hdrop : body.dropWhile (· != '}') with
    | nil =>
      have hall := List.dropWhile_eq_nil_iff.mp hdrop '}' (h.closed rfl)
      simp at hall
    | cons c rest =>
      obtain rfl := head?_dropWhile body c (by rw [hdrop]; rfl)
      rw [hdrop] at hsplit
      exact ⟨_, rest, hsplit.symm, h.isRun, by simp⟩

theorem HoldsKey.lowered (h : HoldsKey delimited cs)
    (hlower : ds.map Char.toLower = cs.map Char.toLower) : HoldsKey delimited ds where
  nonempty hnil := by
    rw [hnil, List.map_nil, eq_comm, List.map_eq_nil_iff] at hlower
    exact h.nonempty hlower
  filled hbrace := h.filled ((Ascii.head?_eq_brace_iff hlower).mp hbrace)
  closed hdelimited := (Ascii.brace_mem_iff hlower).mpr (h.closed hdelimited)

/-- **Where a tag is found**: where a kind stands in front of a text that can start with a key. -/
theorem tagAt?_ne_none_iff : tagAt? cs ≠ none ↔
    ∃ delimited side subject body, cs = front delimited side subject ++ body ∧
      HoldsKey delimited body := by
  constructor
  · intro h
    obtain ⟨f, hf⟩ := Option.ne_none_iff_exists'.mp h
    obtain ⟨rfl, hspelled⟩ := tagAt?_eq_some_iff.mp hf
    obtain ⟨delimited, key, hsource, hrun, -⟩ := spelled_iff.mp hspelled
    refine ⟨delimited, f.tag.side, f.tag.subject, key ++ (back delimited ++ f.rest),
      by rw [hsource]; simp, .of_run hrun ?_⟩
    rintro rfl
    simp [back]
  · rintro ⟨delimited, side, subject, body, rfl, hbody⟩ hnone
    obtain ⟨key, rest, rfl, hrun, hend⟩ := hbody.exists_run
    refine tagAt?_eq_none_iff.mp hnone ⟨side, subject, Ascii.lowerText (String.ofList key)⟩ _ rest
      ?_ (spelled_iff.mpr ⟨delimited, key, rfl, hrun, rfl, hend⟩)
    simp

/-! ### Texts that differ in keys -/

/-- How far into the spelling of a tag its key starts. -/
def keyStart (tag : Tag) (source : List Char) : Nat :=
  (front (source.head? = some '$') tag.side tag.subject).length

/-- The characters that a segment stands for, each with whether it is one of a key. -/
def Segment.marked : Segment → List (Char × Bool)
  | .literal text => text.toList.map (·, false)
  | .tag tag source =>
    let behind := source.toList.drop (keyStart tag source.toList)
    (source.toList.take (keyStart tag source.toList)).map (·, false)
      ++ ((behind.take tag.key.length).map (·, true)
        ++ (behind.drop tag.key.length).map (·, false))

/-- A character may stand in the place of a marked one: it is the same, or the same letter if the
place is one of a key. -/
def Fits (marked : Char × Bool) (c : Char) : Prop :=
  marked.1 = c ∨ marked.2 = true ∧ marked.1.toLower = c.toLower

instance (marked : Char × Bool) (c : Char) : Decidable (Fits marked c) :=
  inferInstanceAs (Decidable (_ ∨ _ ∧ _))

/-- The text of one template is that of another, but for the case of letters in keys of the
other. -/
def SameButKeys (a b : Template) : Prop :=
  List.Forall₂ Fits (a.segments.flatMap Segment.marked) b.text.toList

instance (a b : Template) : Decidable (a.SameButKeys b) :=
  List.instDecidableForall₂ _ _

/-- Two segments read the same: the same literal, or the same tag with letters in either case. -/
inductive Segment.Alike : Segment → Segment → Prop
  | literal (text : String) : Alike (.literal text) (.literal text)
  | tag (tag : Tag) {source other : String} (h : Ascii.sameLetters source other = true) :
    Alike (.tag tag source) (.tag tag other)

theorem Fits.toLower_eq {m : Char × Bool} {c : Char} (h : Fits m c) : c.toLower = m.1.toLower := by
  rcases h with rfl | ⟨-, h⟩
  · rfl
  · exact h.symm

theorem map_toLower_of_fits {ms : List (Char × Bool)} (h : List.Forall₂ Fits ms ds) :
    ds.map Char.toLower = (ms.map Prod.fst).map Char.toLower := by
  induction h with
  | nil => rfl
  | cons hfits _ ih => rw [List.map_cons, List.map_cons, List.map_cons, ih, hfits.toLower_eq]

/-- Outside of keys nothing differs. -/
theorem eq_of_fits_outside (h : List.Forall₂ Fits (cs.map (·, false)) ds) : ds = cs := by
  rw [List.forall₂_map_left_iff] at h
  induction h with
  | nil => rfl
  | cons hfits _ ih =>
    rcases hfits with rfl | ⟨hkey, -⟩
    · rw [ih]
    · cases hkey

theorem exists_of_fits_append {ms ns : List (Char × Bool)} (h : List.Forall₂ Fits (ms ++ ns) ds) :
    ∃ first second, ds = first ++ second ∧ List.Forall₂ Fits ms first ∧
      List.Forall₂ Fits ns second := by
  refine ⟨ds.take ms.length, ds.drop ms.length, (List.take_append_drop _ _).symm, ?_, ?_⟩
  · simpa using List.forall₂_take ms.length h
  · simpa using List.forall₂_drop ms.length h

@[simp] theorem Segment.map_fst_marked (s : Segment) : s.marked.map Prod.fst = s.source := by
  cases s with
  | literal text => simp [marked, source, Function.comp_def]
  | tag tag source =>
    simp only [marked, Segment.source, List.map_append, List.map_map, Function.comp_def,
      List.map_id']
    rw [List.take_append_drop, List.take_append_drop]

theorem map_fst_marked (segs : List Segment) :
    (segs.flatMap Segment.marked).map Prod.fst = segs.flatMap Segment.source := by
  rw [List.map_flatMap]
  exact List.flatMap_congr fun s _ => s.map_fst_marked

/-! ### A tag spelled again -/

/-- In the spelling of a tag it is the key that is marked. -/
theorem marked_tag (hkey : tag.key = Ascii.lowerText (String.ofList key)) :
    (Segment.tag tag (String.ofList
        (front delimited tag.side tag.subject ++ (key ++ back delimited)))).marked
      = (front delimited tag.side tag.subject).map (·, false)
        ++ (key.map (·, true) ++ (back delimited).map (·, false)) := by
  have hstart : keyStart tag (front delimited tag.side tag.subject ++ (key ++ back delimited))
      = (front delimited tag.side tag.subject).length := by
    obtain ⟨side, subject, lower⟩ := tag
    rw [keyStart]
    cases delimited <;> cases side <;> cases subject <;> rfl
  have hlength : tag.key.length = key.length := by
    rw [hkey, ← String.length_toList, Ascii.toList_lowerText, List.length_map,
      String.toList_ofList]
  rw [Segment.marked, String.toList_ofList, hstart, hlength]
  simp

/-- **A tag spelled again** in front of a text with the same letters is the same tag. Up to its kind
it is spelled by the same characters. -/
theorem Spelled.of_fits (h : Spelled tag source rest)
    (hfits : List.Forall₂ Fits (Segment.tag tag (String.ofList source)).marked other)
    (hmore : more.map Char.toLower = rest.map Char.toLower) :
    Spelled tag other more ∧
      ∃ kind, ':' ∈ kind ∧ kind <+: source ∧ kind <+: other := by
  obtain ⟨delimited, key, rfl, hrun, hkey, hend⟩ := spelled_iff.mp h
  rw [marked_tag hkey] at hfits
  obtain ⟨first, second, rfl, hfirst, hsecond⟩ := exists_of_fits_append hfits
  obtain ⟨key', last, rfl, hkeys, hlast⟩ := exists_of_fits_append hsecond
  obtain rfl := eq_of_fits_outside hfirst
  obtain rfl := eq_of_fits_outside hlast
  have hlower : key'.map Char.toLower = key.map Char.toLower := by
    rw [map_toLower_of_fits hkeys, List.map_map, List.map_map]
    rfl
  have hrun' : IsRun key' := by
    refine ⟨fun hnil => ?_, fun hmem => hrun.unclosed ((Ascii.brace_mem_iff hlower).mp hmem)⟩
    rw [hnil, List.map_nil, eq_comm, List.map_eq_nil_iff] at hlower
    exact hrun.nonempty hlower
  have hkey' : tag.key = Ascii.lowerText (String.ofList key') := by
    rw [hkey, Ascii.lowerText, Ascii.lowerText, String.toList_ofList, String.toList_ofList, hlower]
  refine ⟨spelled_iff.mpr ⟨delimited, key', rfl, hrun', hkey', fun hbare c hc => ?_⟩, _,
    colon_mem_front delimited _ _, List.prefix_append _ _, List.prefix_append _ _⟩
  -- what ends a bare key is a brace in either text
  have hhead := congrArg List.head? hmore
  rw [List.head?_map, List.head?_map, hc] at hhead
  obtain ⟨d, hd, hdc⟩ := Option.map_eq_some_iff.mp hhead.symm
  obtain rfl := hend hbare d hd
  exact Ascii.eq_brace_of_toLower hdc.symm

/-! ### Literals stay clear -/

/-- A text that ends in its only colon, and starts before a place from which two texts share one,
stands in both or in neither. -/
theorem prefix_of_shared {before kind first : List Char} (hbefore : ':' ∉ before)
    (hkind : ':' ∈ kind) (hcs : kind <+: cs) (hds : kind <+: ds)
    (h : before ++ [':'] <+: first ++ ds) : before ++ [':'] <+: first ++ cs := by
  have hshared : first ++ kind <+: first ++ ds := (List.prefix_append_right_inj first).mpr hds
  have hwithin : before ++ [':'] <+: first ++ kind := by
    rcases List.prefix_or_prefix_of_prefix h hshared with hwithin | hbeyond
    · exact hwithin
    · rcases List.prefix_concat_iff.mp hbeyond with heq | hbeyond
      · exact heq ▸ List.prefix_refl _
      · exact absurd (hbeyond.subset (List.mem_append_right first hkind)) hbefore
  exact hwithin.trans ((List.prefix_append_right_inj first).mpr hcs)

/-- **A literal stays clear** if what is behind it changes in the case of letters alone, and not at
all up to a colon. -/
theorem Clear.of_shared {literal kind : List Char} (h : Clear literal cs) (hkind : ':' ∈ kind)
    (hcs : kind <+: cs) (hds : kind <+: ds)
    (hlower : ds.map Char.toLower = cs.map Char.toLower) : Clear literal ds := by
  intro r hr hsuffix
  by_contra hfound
  obtain ⟨delimited, side, subject, body, hbody, hkey⟩ := tagAt?_ne_none_iff.mp hfound
  obtain ⟨before, hfront, hbefore⟩ := exists_front_eq delimited side subject
  have hstands : front delimited side subject <+: r ++ cs := by
    rw [hfront]
    refine prefix_of_shared hbefore hkind hcs hds ?_
    rw [← hfront, hbody]
    exact List.prefix_append _ _
  obtain ⟨body', hbody'⟩ := hstands
  have hwhole : (front delimited side subject ++ body').map Char.toLower
      = (front delimited side subject ++ body).map Char.toLower := by
    rw [hbody', ← hbody, List.map_append, List.map_append, hlower]
  have hbodies : body'.map Char.toLower = body.map Char.toLower := by
    rw [List.map_append, List.map_append] at hwhole
    exact List.append_cancel_left hwhole
  exact tagAt?_ne_none_iff.mpr ⟨delimited, side, subject, body', hbody'.symm,
    hkey.lowered hbodies⟩ (h r hr hsuffix)

/-- Where a tag comes first, the same tag comes first in the other text. Nothing differs up to the
colon of its kind. -/
theorem Leftmost.tag_of_fits {spelling : String} (h : Leftmost text (.tag tag spelling :: segs))
    (hfits : List.Forall₂ Fits ((Segment.tag tag spelling :: segs).flatMap Segment.marked) ds) :
    ∃ first second, ds = first ++ second ∧ Spelled tag first second ∧
      Ascii.sameLetters spelling (String.ofList first) = true ∧
      Leftmost (segs.flatMap Segment.source) segs ∧
      List.Forall₂ Fits (segs.flatMap Segment.marked) second ∧
      ∃ kind, ':' ∈ kind ∧ kind <+: text ∧ kind <+: ds := by
  obtain ⟨rest, rfl, hspelled, hrest⟩ := leftmost_tag_cons.mp h
  obtain rfl : segs.flatMap Segment.source = rest := hrest.whole
  rw [List.flatMap_cons] at hfits
  obtain ⟨first, second, rfl, hfirst, hsecond⟩ := exists_of_fits_append hfits
  have hlower : second.map Char.toLower = (segs.flatMap Segment.source).map Char.toLower := by
    rw [map_toLower_of_fits hsecond, map_fst_marked]
  have hletters : first.map Char.toLower = spelling.toList.map Char.toLower := by
    rw [map_toLower_of_fits hfirst, Segment.map_fst_marked, Segment.source]
  obtain ⟨hagain, kind, hkind, hcs, hds⟩ := hspelled.of_fits (by simpa using hfirst) hlower
  refine ⟨first, second, rfl, hagain, ?_, hrest, hsecond, kind, hkind,
    hcs.trans (List.prefix_append _ _), hds.trans (List.prefix_append _ _)⟩
  rw [Ascii.sameLetters_iff, String.toList_ofList, hletters]

theorem head_isLiteral_of_alike (h : List.Forall₂ Segment.Alike segs segs')
    (hnext : ∀ next ∈ segs.head?, next.isLiteral = false) :
    ∀ next ∈ segs'.head?, next.isLiteral = false := by
  intro next hmem
  cases h with
  | nil => cases hmem
  | cons hfirst _ =>
    obtain rfl := Option.some.inj hmem
    cases hfirst with
    | literal text => exact hnext _ rfl
    | tag tag _ => rfl

/-! ### The same tags -/

/-- **The same tags are found** between the same literals. -/
theorem exists_leftmost_of_fits (h : Leftmost text segs)
    (hfits : List.Forall₂ Fits (segs.flatMap Segment.marked) ds) :
    ∃ segs', Leftmost ds segs' ∧ List.Forall₂ Segment.Alike segs segs' := by
  induction segs generalizing text ds with
  | nil =>
    obtain rfl := List.forall₂_nil_left_iff.mp hfits
    exact ⟨[], leftmost_nil, .nil⟩
  | cons s segs ih =>
    cases s with
    | tag tag spelling =>
      obtain ⟨first, second, rfl, hspelled, hletters, hrest, hsecond, -⟩ := h.tag_of_fits hfits
      obtain ⟨segs', hsegs', halike⟩ := ih hrest hsecond
      refine ⟨.tag tag (String.ofList first) :: segs', ?_, .cons (.tag tag hletters) halike⟩
      exact leftmost_tag_cons.mpr ⟨second, by simp, by simpa using hspelled, hsegs'⟩
    | literal literal =>
      obtain ⟨rest, rfl, hne, hnext, hclear, hrest⟩ := leftmost_literal_cons.mp h
      obtain rfl : segs.flatMap Segment.source = rest := hrest.whole
      rw [List.flatMap_cons] at hfits
      obtain ⟨first, second, rfl, hfirst, hsecond⟩ := exists_of_fits_append hfits
      obtain rfl := eq_of_fits_outside hfirst
      obtain ⟨segs', hsegs', halike⟩ := ih hrest hsecond
      refine ⟨.literal literal :: segs', ?_, .cons (.literal literal) halike⟩
      refine leftmost_literal_cons.mpr
        ⟨second, rfl, hne, head_isLiteral_of_alike halike hnext, ?_, hsegs'⟩
      -- behind the literal comes the end of both texts, or a tag
      cases segs with
      | nil =>
        obtain rfl := List.forall₂_nil_left_iff.mp hsecond
        exact hclear
      | cons next segs =>
        cases next with
        | literal other => cases hnext _ rfl
        | tag tag spelling =>
          obtain ⟨-, -, -, -, -, -, -, kind, hkind, hcs, hds⟩ := hrest.tag_of_fits hsecond
          refine hclear.of_shared hkind hcs hds ?_
          rw [map_toLower_of_fits hsecond, map_fst_marked]

/-- **The segments are alike.** -/
theorem SameButKeys.segments {a b : Template} (h : a.SameButKeys b) :
    List.Forall₂ Segment.Alike a.segments b.segments := by
  obtain ⟨segs, hsegs, halike⟩ := exists_leftmost_of_fits (leftmost_segments a) h
  obtain rfl : segs = b.segments := eq_cut_of_leftmost hsegs
  exact halike

/-- A segment without a tag of the other half turns into the same. -/
theorem Segment.Alike.render {half : Half} (h : s.Alike s')
    (hown : ∀ tag ∈ s.tag?, tag.side = half.side) : s.render half = s'.render half := by
  cases h with
  | literal text => rfl
  | tag tag _ =>
    have hside : tag.side = half.side := hown tag rfl
    rw [Segment.render, Segment.render, if_pos hside, if_pos hside]

theorem SameButKeys.render {a b : Template} {half : Half} (h : a.SameButKeys b)
    (hown : ∀ tag ∈ a.tags, tag.side = half.side) : a.render half = b.render half := by
  have hall : ∀ s ∈ a.segments, ∀ tag ∈ s.tag?, tag.side = half.side :=
    fun s hs tag htag => hown tag (List.mem_filterMap.mpr ⟨s, hs, htag⟩)
  have hmap : a.segments.map (Segment.render half) = b.segments.map (Segment.render half) := by
    have halike := h.segments
    generalize a.segments = segs, b.segments = segs' at halike hall
    induction halike with
    | nil => rfl
    | cons hfirst _ ih =>
      rw [List.map_cons, List.map_cons, hfirst.render (hall _ List.mem_cons_self),
        ih fun s hs => hall s (List.mem_cons_of_mem _ hs)]
  rw [Template.render, Template.render, hmap]

end Template

/-! ### Header names -/

namespace Http

/-- In either case a character has as many bytes, and these are of names or are not. -/
theorem tokenBytes_toLower (c : Char) :
    (String.utf8EncodeChar c.toLower).length = (String.utf8EncodeChar c).length ∧
      (String.utf8EncodeChar c.toLower).all tokenByte
        = (String.utf8EncodeChar c).all tokenByte := by
  have hcapitals : ∀ n < 26,
      (String.utf8EncodeChar (Char.ofNat (65 + n)).toLower).length
        = (String.utf8EncodeChar (Char.ofNat (65 + n))).length ∧
      (String.utf8EncodeChar (Char.ofNat (65 + n)).toLower).all tokenByte
        = (String.utf8EncodeChar (Char.ofNat (65 + n))).all tokenByte := by
    decide +kernel
  rcases Ascii.toLower_cases c with hsame | ⟨n, hn, rfl⟩
  · rw [hsame]
    exact ⟨rfl, rfl⟩
  · exact hcapitals n hn

theorem tokenBytes_map_toLower (cs : List Char) :
    (Utf8.encode (cs.map Char.toLower)).length = (Utf8.encode cs).length ∧
      (Utf8.encode (cs.map Char.toLower)).all tokenByte = (Utf8.encode cs).all tokenByte := by
  induction cs with
  | nil => exact ⟨rfl, rfl⟩
  | cons c cs ih =>
    obtain ⟨hlength, hall⟩ := tokenBytes_toLower c
    rw [List.map_cons, Utf8.encode_cons, Utf8.encode_cons, List.length_append, List.length_append,
      List.all_append, List.all_append, hlength, hall, ih.1, ih.2]
    exact ⟨rfl, rfl⟩

/-- **A text is a header name in either case**, or in neither. -/
theorem legalName_lowerText (s : String) :
    legalName (Utf8.bytes (Ascii.lowerText s)) = legalName (Utf8.bytes s) := by
  obtain ⟨hlength, hall⟩ := tokenBytes_map_toLower s.toList
  have hempty : (Utf8.bytes (Ascii.lowerText s)).isEmpty = (Utf8.bytes s).isEmpty := by
    rw [Bool.eq_iff_iff, List.isEmpty_iff, List.isEmpty_iff, ← List.length_eq_zero_iff,
      ← List.length_eq_zero_iff, Utf8.bytes, Utf8.bytes, Ascii.toList_lowerText, hlength]
  rw [legalName, legalName, hempty, Utf8.bytes, Utf8.bytes, Ascii.toList_lowerText, hlength, hall]

/-- **A header name is known by its text with small letters.** -/
theorem headerName?_bytes (s : String) :
    headerName? (Utf8.bytes s)
      = if legalName (Utf8.bytes s) then some (Ascii.lowerText s) else none := by
  rw [headerName?, Utf8.textLossy_bytes]

theorem headerName?_congr {name other : String} (h : Ascii.sameLetters name other = true) :
    headerName? (Utf8.bytes name) = headerName? (Utf8.bytes other) := by
  have hlower : Ascii.lowerText name = Ascii.lowerText other := eq_of_beq h
  rw [headerName?_bytes, headerName?_bytes, ← legalName_lowerText name, hlower,
    legalName_lowerText]

namespace Headers

/-- The header fields of a message whose names arrive as they are given. They are kept in their
order, the names with small letters. -/
def arriving (fields : List (String × List UInt8)) : Headers :=
  fields.map fun field => ⟨Ascii.lowerText field.1, field.2⟩

variable {fields before behind : List (String × List UInt8)} {name spelled : String}
  {value : List UInt8}

theorem first?_arriving (fields : List (String × List UInt8)) (name : String) :
    (arriving fields).first? (Ascii.lowerText name)
      = (fields.find? fun field => Ascii.sameLetters field.1 name).map Prod.snd := by
  rw [first?, arriving, List.find?_map, Option.map_map]
  rfl

/-- **What is found under a name**: the first field that has it in any case. -/
theorem lookup_arriving (fields : List (String × List UInt8)) (name : String) :
    (arriving fields).lookup name
      = if legalName (Utf8.bytes name) then
          ((fields.find? fun field => Ascii.sameLetters field.1 name).map
            fun field => Utf8.textLossy field.2).getD ""
        else "" := by
  rw [lookup, headerName?_bytes]
  by_cases hname : legalName (Utf8.bytes name) = true
  · rw [if_pos hname, if_pos hname]
    dsimp only
    rw [first?_arriving, Option.map_map]
    rfl
  · rw [if_neg hname, if_neg hname]

theorem lookup_arriving_of_first (hname : legalName (Utf8.bytes name) = true)
    (hspelled : Ascii.sameLetters spelled name = true)
    (hbefore : ∀ field ∈ before, Ascii.sameLetters field.1 name = false) :
    (arriving (before ++ (spelled, value) :: behind)).lookup name = Utf8.textLossy value := by
  have hnone : before.find? (fun field => Ascii.sameLetters field.1 name) = none := by
    rw [List.find?_eq_none]
    intro field hfield
    simp [hbefore field hfield]
  rw [lookup_arriving, if_pos hname, List.find?_append, hnone, Option.none_or, List.find?_cons,
    hspelled]
  rfl

theorem lookup_arriving_of_none (h : legalName (Utf8.bytes name) = false ∨
      ∀ field ∈ fields, Ascii.sameLetters field.1 name = false) :
    (arriving fields).lookup name = "" := by
  rw [lookup_arriving]
  rcases h with hname | habsent
  · rw [if_neg (by simp [hname])]
  · have hnone : fields.find? (fun field => Ascii.sameLetters field.1 name) = none := by
      rw [List.find?_eq_none]
      intro field hfield
      simp [habsent field hfield]
    rw [hnone]
    split <;> rfl

theorem lookup_congr (hs : Headers) {other : String} (h : Ascii.sameLetters name other = true) :
    hs.lookup name = hs.lookup other := by
  rw [lookup, headerName?_congr h, lookup]

end Headers

end Http

/-! ### All told -/

namespace Template

/-- **Keys are read in any case.** Take two templates whose texts differ in the case of letters in
keys and nowhere else.

* They are cut into the same literals and the same tags.
* Against any half of an exchange, a tag of that half turns into the same value in both.
* If all tags are of that half, both are filled in to the same text.

A header name is looked up in any case too: what is found is the first of the fields that have the
name in some case, and nothing if there is none or if the name is no header name. -/
theorem read_in_any_case {a b : Template} (h : a.SameButKeys b) {name other : String}
    (hname : Ascii.sameLetters name other = true) :
    List.Forall₂ Segment.Alike a.segments b.segments ∧
    (∀ half, List.Forall₂ (fun s s' =>
      (∀ tag ∈ s.tag?, tag.side = half.side) → s.render half = s'.render half)
        a.segments b.segments) ∧
    (∀ half, (∀ tag ∈ a.tags, tag.side = half.side) → a.render half = b.render half) ∧
    (∀ hs : Http.Headers, hs.lookup name = hs.lookup other) ∧
    (∀ before spelled value behind, Http.legalName (Utf8.bytes name) = true →
      Ascii.sameLetters spelled name = true →
      (∀ field ∈ before, Ascii.sameLetters field.1 name = false) →
      (Http.Headers.arriving (before ++ (spelled, value) :: behind)).lookup name
        = Utf8.textLossy value) ∧
    ∀ fields, Http.legalName (Utf8.bytes name) = false ∨
      (∀ field ∈ fields, Ascii.sameLetters field.1 name = false) →
      (Http.Headers.arriving fields).lookup name = "" := by
  refine ⟨h.segments, fun half => h.segments.imp fun s s' halike hown => halike.render hown,
    fun half => h.render, fun hs => hs.lookup_congr hname, ?_, ?_⟩
  · intro before spelled value behind hlegal hspelled hbefore
    exact Http.Headers.lookup_arriving_of_first hlegal hspelled hbefore
  · exact fun fields => Http.Headers.lookup_arriving_of_none

/-- A delimited tag whose key looks like a tag, and a bare one behind a delimiter that nothing
closes. -/
def loudKeys : Template :=
  ⟨"$\x7bREQUEST_HEADER:REQUEST:ID\x7d é $\x7bREQUEST:METHOD"⟩

/-- The same with the other letters in both keys. -/
def quietKeys : Template :=
  ⟨"$\x7bREQUEST_HEADER:request:id\x7d é $\x7bREQUEST:method"⟩

/-- What looks like the kind of a tag is read as the key that it is part of. -/
theorem read_in_any_case_nested :
    loudKeys.SameButKeys quietKeys ∧ Ascii.sameLetters "X-Id" "x-iD" = true ∧
      (∀ r : Http.Request, loudKeys.render (.request r) = quietKeys.render (.request r)) ∧
      (Http.Headers.arriving [("x-ID", [0x61]), ("x-id", [0x62])]).lookup "X-Id" = "a" := by
  have hkeys : loudKeys.SameButKeys quietKeys := by decide +kernel
  have hname : Ascii.sameLetters "X-Id" "x-iD" = true := by decide +kernel
  have hown : ∀ tag ∈ loudKeys.tags, tag.side = .request := by decide +kernel
  obtain ⟨-, -, hrender, -, hfirst, -⟩ := read_in_any_case hkeys hname
  refine ⟨hkeys, hname, fun r => hrender (.request r) hown, ?_⟩
  have hvalue := hfirst [] "x-ID" [0x61] [("x-id", [0x62])] (by decide +kernel) (by decide +kernel)
    (by simp)
  exact hvalue.trans (by decide +kernel)

end Template

end PurgeGateway
