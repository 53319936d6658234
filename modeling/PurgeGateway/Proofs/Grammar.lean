import PurgeGateway.Template
import Mathlib.Data.List.Chain
import Mathlib.Data.List.TakeWhile
import Mathlib.Tactic.ByContra

/-!
# The grammar of templates

What a template is made of, said without a word of how it is scanned. A tag is spelled in one of two
ways, and what follows it has a say: a bare tag goes on to the next closing brace or to the end. A
text falls into literals and tags such that a tag starts wherever one is spelled, unless another tag
covers that place.

## Main definitions

* `Template.Spelled`: the two ways in which a tag is spelled in front of a text.
* `Template.placed`: the tags of segments with the offsets at which they start.
* `Template.Leftmost`: segments that make up a text, with a tag wherever one can start.

## Main results

* `tagAt?_eq_some_iff`: a tag is found at the front of a text if and only if one is spelled there.
* `leftmost_tag_cons`, `leftmost_literal_cons`: what it takes to be leftmost, by the first segment.
* `leftmost_cut`, `eq_cut_of_leftmost`: every text has exactly one leftmost decomposition.
-/

namespace PurgeGateway.Template

/-! ### Tags as they are spelled -/

/-- How the kind of a tag is spelled: the half of the exchange that it reads, what it wants of it,
and a colon. -/
def kindText : Side → Subject → List Char
  | .request, .header => "REQUEST_HEADER:".toList
  | .response, .header => "RESPONSE_HEADER:".toList
  | .request, .part => "REQUEST:".toList
  | .response, .part => "RESPONSE:".toList

/-- The run of a tag: it is not empty, and no brace closes it before its end. -/
structure IsRun (run : List Char) : Prop where
  nonempty : run ≠ []
  unclosed : '}' ∉ run

/-- A tag is spelled by a text in front of another. Its key is the run with small letters. -/
inductive Spelled : Tag → List Char → List Char → Prop
  | delimited {side : Side} {subject : Subject} {run rest : List Char} (hrun : IsRun run) :
    Spelled ⟨side, subject, Ascii.lowerText (String.ofList run)⟩
      ('$' :: '{' :: (kindText side subject ++ (run ++ ['}']))) rest
  | bare {side : Side} {subject : Subject} {run rest : List Char} (hrun : IsRun run)
      (hend : ∀ c, rest.head? = some c → c = '}') :
    Spelled ⟨side, subject, Ascii.lowerText (String.ofList run)⟩ (kindText side subject ++ run) rest

section
variable {cs rest body run source : List Char} {tag : Tag} {side : Side} {subject : Subject}

theorem eq_kindText_of_mem :
    ∀ kind ∈ kinds, kind.1 = kindText kind.2.1 kind.2.2 := by
  decide +kernel

/-- No kind is the start of another, so a kind is found where it stands. -/
theorem kindAt?_append (side : Side) (subject : Subject) (body : List Char) :
    kindAt? (kindText side subject ++ body)
      = some ((kindText side subject, side, subject), body) := by
  cases side <;> cases subject <;> rfl

theorem kindAt?_eq_some_iff :
    kindAt? cs = some ((source, side, subject), body) ↔
      source = kindText side subject ∧ cs = kindText side subject ++ body := by
  constructor
  · intro h
    obtain ⟨hmem, happend⟩ := append_of_kindAt? h
    have hsource : source = kindText side subject := eq_kindText_of_mem _ hmem
    exact ⟨hsource, by rw [← happend, hsource]⟩
  · rintro ⟨rfl, rfl⟩
    exact kindAt?_append side subject body

/-! ### Runs -/

theorem takeWhile_of_run (hrun : IsRun run) (hend : ∀ c, rest.head? = some c → c = '}') :
    (run ++ rest).takeWhile (· != '}') = run ∧ (run ++ rest).dropWhile (· != '}') = rest := by
  have hinside : ∀ c ∈ run, (c != '}') = true := by
    intro c hc
    simpa using fun h : c = '}' => hrun.unclosed (h ▸ hc)
  rw [List.takeWhile_append_of_pos hinside, List.dropWhile_append_of_pos hinside]
  cases rest with
  | nil => simp
  | cons c rest =>
    obtain rfl := hend c rfl
    simp

theorem notMem_takeWhile (body : List Char) : '}' ∉ body.takeWhile (· != '}') := by
  intro hmem
  simpa using List.mem_takeWhile_imp hmem

theorem isRun_takeWhile (h : (body.takeWhile (· != '}')).isEmpty = false) :
    IsRun (body.takeWhile (· != '}')) :=
  ⟨by simpa using h, notMem_takeWhile body⟩

/-- What is left behind a run starts with the brace that ended it. -/
theorem head?_dropWhile (body : List Char) :
    ∀ c, (body.dropWhile (· != '}')).head? = some c → c = '}' := by
  intro c hc
  simpa [hc] using List.head?_dropWhile_not (· != '}') body

/-! ### Finding what is spelled -/

theorem spelled_of_delimited? {inner : List Char} {f : Found} (h : delimited? inner = some f) :
    Spelled f.tag f.source f.rest := by
  unfold delimited? at h
  split at h
  case h_1 spelling side subject body hkind =>
    obtain ⟨rfl, -⟩ := kindAt?_eq_some_iff.mp hkind
    dsimp only at h
    split at h
    case h_1 close rest hbody =>
      split at h
      · cases h
      case isFalse hrun =>
        obtain rfl := Option.some.inj h
        obtain rfl : close = '}' := head?_dropWhile body close (by rw [hbody]; rfl)
        exact .delimited (isRun_takeWhile (by simpa using hrun))
    · cases h
  · cases h

theorem spelled_of_bare? {f : Found} (h : bare? cs = some f) : Spelled f.tag f.source f.rest := by
  unfold bare? at h
  split at h
  case h_1 spelling side subject body hkind =>
    obtain ⟨rfl, -⟩ := kindAt?_eq_some_iff.mp hkind
    dsimp only at h
    split at h
    · cases h
    case isFalse hrun =>
      obtain rfl := Option.some.inj h
      exact .bare (isRun_takeWhile (by simpa using hrun)) (head?_dropWhile body)
  · cases h

theorem delimited?_of_run (hrun : IsRun run) (rest : List Char) :
    delimited? (kindText side subject ++ (run ++ '}' :: rest)) = some
      ⟨⟨side, subject, Ascii.lowerText (String.ofList run)⟩,
        '$' :: '{' :: (kindText side subject ++ (run ++ ['}'])), rest⟩ := by
  obtain ⟨htake, hdrop⟩ : (run ++ '}' :: rest).takeWhile (· != '}') = run ∧
      (run ++ '}' :: rest).dropWhile (· != '}') = '}' :: rest :=
    takeWhile_of_run hrun (by simp)
  have hrun : run.isEmpty = false := by simpa using hrun.nonempty
  simp only [delimited?, kindAt?_append, htake, hdrop, hrun, Bool.false_eq_true, if_false, keyText]

theorem bare?_of_run (hrun : IsRun run) (hend : ∀ c, rest.head? = some c → c = '}') :
    bare? (kindText side subject ++ (run ++ rest))
      = some ⟨⟨side, subject, Ascii.lowerText (String.ofList run)⟩,
          kindText side subject ++ run, rest⟩ := by
  obtain ⟨htake, hdrop⟩ := takeWhile_of_run hrun hend
  have hrun : run.isEmpty = false := by simpa using hrun.nonempty
  simp only [bare?, kindAt?_append, htake, hdrop, hrun, Bool.false_eq_true, if_false, keyText]

/-- No kind starts with the delimiter of a tag. -/
theorem tagAt?_kindText (side : Side) (subject : Subject) (body : List Char) :
    tagAt? (kindText side subject ++ body) = bare? (kindText side subject ++ body) := by
  cases side <;> cases subject <;> rfl

theorem tagAt?_of_spelled (h : Spelled tag source rest) :
    tagAt? (source ++ rest) = some ⟨tag, source, rest⟩ := by
  cases h with
  | delimited hrun =>
    simp only [List.cons_append, List.append_assoc, List.nil_append]
    exact (delimited?_of_run hrun rest).trans (by simp)
  | bare hrun hend =>
    rw [List.append_assoc, tagAt?_kindText]
    exact bare?_of_run hrun hend

/-- **A tag is found where one is spelled**, and nowhere else. -/
theorem tagAt?_eq_some_iff {f : Found} :
    tagAt? cs = some f ↔ f.source ++ f.rest = cs ∧ Spelled f.tag f.source f.rest := by
  constructor
  · intro h
    refine ⟨source_append_of_tagAt? h, ?_⟩
    unfold tagAt? at h
    split at h
    · exact spelled_of_delimited? h
    · exact spelled_of_bare? h
  · rintro ⟨rfl, hspelled⟩
    exact tagAt?_of_spelled hspelled

theorem tagAt?_eq_none_iff :
    tagAt? cs = none ↔ ∀ tag source rest, cs = source ++ rest → ¬Spelled tag source rest := by
  constructor
  · rintro h tag source rest rfl hspelled
    rw [tagAt?_of_spelled hspelled] at h
    cases h
  · intro h
    rw [Option.eq_none_iff_forall_ne_some]
    intro f hf
    obtain ⟨happend, hspelled⟩ := tagAt?_eq_some_iff.mp hf
    exact h f.tag f.source f.rest happend.symm hspelled

theorem Spelled.source_ne_nil (h : Spelled tag source rest) : source ≠ [] :=
  source_ne_nil_of_tagAt? (tagAt?_of_spelled h)

end

/-! ### Decompositions -/

/-- The characters that a segment stands for. -/
def Segment.source : Segment → List Char
  | .literal text => text.toList
  | .tag _ source => source.toList

/-- The segment is text to copy. -/
def Segment.isLiteral : Segment → Bool
  | .literal _ => true
  | .tag _ _ => false

/-- The tags of segments that start at an offset: where each starts, and what it covers. -/
def placed (offset : Nat) : List Segment → List (Nat × Tag × List Char)
  | [] => []
  | .literal text :: rest => placed (offset + text.toList.length) rest
  | .tag tag source :: rest =>
    (offset, tag, source.toList) :: placed (offset + source.toList.length) rest

/-- No tag of the segments starts before an offset and ends behind it. -/
def Uncovered (segs : List Segment) (p : Nat) : Prop :=
  ∀ start tag source, (start, tag, source) ∈ placed 0 segs →
    p ≤ start ∨ start + source.length ≤ p

/-- The leftmost decomposition of a text. Its segments make up the text; no literal is empty, and no
two are neighbours; and wherever no tag covers it, a tag starts if and only if one is spelled
there. -/
structure Leftmost (text : List Char) (segs : List Segment) : Prop where
  whole : segs.flatMap Segment.source = text
  filled : .literal "" ∉ segs
  apart : segs.IsChain fun a b => ¬(a.isLiteral = true ∧ b.isLiteral = true)
  starts_iff : ∀ p, Uncovered segs p → ∀ tag source,
    (p, tag, source) ∈ placed 0 segs ↔
      ∃ rest, text.drop p = source ++ rest ∧ Spelled tag source rest

variable {seg : Segment} {segs : List Segment} {tag : Tag} {source : List Char}

/-! ### Offsets behind the first segment -/

theorem placed_add (offset n : Nat) (segs : List Segment) :
    placed (offset + n) segs = (placed n segs).map fun e => (offset + e.1, e.2) := by
  induction segs generalizing n with
  | nil => rfl
  | cons seg segs ih =>
    cases seg with
    | literal text => rw [placed, placed, Nat.add_assoc, ih]
    | tag tag source => rw [placed, placed, Nat.add_assoc, ih, List.map_cons]

theorem placed_cons (seg : Segment) (segs : List Segment) :
    placed 0 (seg :: segs) = (match seg with
      | .literal _ => []
      | .tag tag source => [(0, tag, source.toList)])
        ++ (placed 0 segs).map fun e => (seg.source.length + e.1, e.2) := by
  have hmove := placed_add seg.source.length 0 segs
  cases seg with
  | literal text => simpa [placed, Segment.source] using hmove
  | tag tag source => simpa [placed, Segment.source] using hmove

theorem mem_placed_cons_add (hseg : seg.source ≠ []) {p : Nat} :
    (seg.source.length + p, tag, source) ∈ placed 0 (seg :: segs) ↔
      (p, tag, source) ∈ placed 0 segs := by
  have hlength := List.length_pos_iff.mpr hseg
  rw [placed_cons, List.mem_append, List.mem_map]
  constructor
  · rintro (h | ⟨⟨q, entry⟩, hmem, heq⟩)
    · cases seg with
      | literal text => cases h
      | tag t s =>
        have hzero := congrArg Prod.fst (List.mem_singleton.mp h)
        dsimp only at hzero
        omega
    · obtain ⟨hp, rfl⟩ := Prod.mk.inj heq
      obtain rfl : q = p := by omega
      exact hmem
  · intro h
    exact .inr ⟨_, h, rfl⟩

theorem mem_placed_cons_of_lt {p : Nat} (hp : p < seg.source.length) :
    (p, tag, source) ∈ placed 0 (seg :: segs) ↔
      p = 0 ∧ seg = .tag tag (String.ofList source) := by
  rw [placed_cons, List.mem_append, List.mem_map]
  constructor
  · rintro (h | ⟨⟨q, entry⟩, -, heq⟩)
    · cases seg with
      | literal text => cases h
      | tag t s =>
        obtain ⟨rfl, rfl, rfl⟩ : p = 0 ∧ tag = t ∧ source = s.toList := by simpa using h
        exact ⟨rfl, by simp⟩
    · have hle := congrArg Prod.fst heq
      dsimp only at hle
      omega
  · rintro ⟨rfl, rfl⟩
    exact .inl (by simp)

/-- Behind the first segment an offset is covered by what covers it among the others. -/
theorem uncovered_cons_add (hseg : seg.source ≠ []) {p : Nat} :
    Uncovered (seg :: segs) (seg.source.length + p) ↔ Uncovered segs p := by
  constructor
  · intro h start tag source hmem
    have := h _ tag source ((mem_placed_cons_add hseg).mpr hmem)
    omega
  · intro h start tag source hmem
    rcases Nat.lt_or_ge start seg.source.length with hlt | hge
    · obtain ⟨rfl, rfl⟩ := (mem_placed_cons_of_lt hlt).mp hmem
      right
      simp [Segment.source]
    · obtain ⟨q, rfl⟩ := Nat.exists_eq_add_of_le hge
      have := h q tag source ((mem_placed_cons_add hseg).mp hmem)
      omega

/-- Within a literal that stands first, and in front of every segment, no tag covers an offset. -/
theorem uncovered_of_le {p : Nat} (h : p = 0 ∨ seg.isLiteral = true ∧ p ≤ seg.source.length) :
    Uncovered (seg :: segs) p := by
  intro start tag source hmem
  rcases h with rfl | ⟨hliteral, hle⟩
  · exact .inl (Nat.zero_le start)
  · rcases Nat.lt_or_ge start seg.source.length with hlt | hge
    · obtain ⟨-, rfl⟩ := (mem_placed_cons_of_lt hlt).mp hmem
      cases hliteral
    · exact .inl (Nat.le_trans hle hge)

/-! ### By the first segment -/

theorem leftmost_nil : Leftmost [] [] := by
  refine ⟨rfl, by simp, .nil, ?_⟩
  intro p _ tag source
  simp only [placed, List.not_mem_nil, List.drop_nil, false_iff]
  rintro ⟨rest, hdrop, hspelled⟩
  exact hspelled.source_ne_nil (List.append_eq_nil_iff.mp hdrop.symm).1

/-- What is behind the first segment of a leftmost decomposition is decomposed leftmost. -/
theorem Leftmost.tail {text : List Char} (h : Leftmost text (seg :: segs))
    (hseg : seg.source ≠ []) : Leftmost (segs.flatMap Segment.source) segs := by
  refine ⟨rfl, fun hmem => h.filled (List.mem_cons_of_mem _ hmem), h.apart.tail, ?_⟩
  intro p hp tag source
  rw [← mem_placed_cons_add hseg, h.starts_iff _ ((uncovered_cons_add hseg).mpr hp), ← h.whole,
    List.flatMap_cons, List.drop_length_add_append]

/-- A segment in front of a leftmost decomposition, if it is right about the offsets that it
takes up. -/
theorem Leftmost.cons {rest : List Char} (h : Leftmost rest segs) (hseg : seg.source ≠ [])
    (hapart : ∀ next ∈ segs.head?, ¬(seg.isLiteral = true ∧ next.isLiteral = true))
    (hhere : ∀ p < seg.source.length, Uncovered (seg :: segs) p → ∀ tag source,
      (p = 0 ∧ seg = .tag tag (String.ofList source)) ↔
        ∃ r, (seg.source ++ rest).drop p = source ++ r ∧ Spelled tag source r) :
    Leftmost (seg.source ++ rest) (seg :: segs) := by
  refine ⟨by rw [List.flatMap_cons, h.whole], ?_, List.isChain_cons.mpr ⟨hapart, h.apart⟩, ?_⟩
  · intro hmem
    rcases List.mem_cons.mp hmem with rfl | hmem
    · exact hseg rfl
    · exact h.filled hmem
  · intro p hp tag source
    rcases Nat.lt_or_ge p seg.source.length with hlt | hge
    · rw [mem_placed_cons_of_lt hlt]
      exact hhere p hlt hp tag source
    · obtain ⟨q, rfl⟩ := Nat.exists_eq_add_of_le hge
      rw [mem_placed_cons_add hseg, h.starts_iff q ((uncovered_cons_add hseg).mp hp),
        List.drop_length_add_append]

/-- **A tag first.** -/
theorem leftmost_tag_cons {spelling : String} {text : List Char} :
    Leftmost text (.tag tag spelling :: segs) ↔
      ∃ rest, text = spelling.toList ++ rest ∧ Spelled tag spelling.toList rest ∧
        Leftmost rest segs := by
  constructor
  · intro h
    have hwhole : spelling.toList ++ segs.flatMap Segment.source = text := h.whole
    have hfirst : (0, tag, spelling.toList) ∈ placed 0 (.tag tag spelling :: segs) :=
      List.mem_cons_self
    obtain ⟨rest, hrest, hspelled⟩ := (h.starts_iff 0 (uncovered_of_le (.inl rfl)) _ _).mp hfirst
    rw [List.drop_zero, ← hwhole] at hrest
    obtain rfl := List.append_cancel_left hrest
    exact ⟨_, hwhole.symm, hspelled, h.tail hspelled.source_ne_nil⟩
  · rintro ⟨rest, rfl, hspelled, h⟩
    have hseg : (Segment.tag tag spelling).source ≠ [] := hspelled.source_ne_nil
    refine h.cons hseg (by simp [Segment.isLiteral]) ?_
    intro p hp huncovered other source
    have hmem : (0, tag, spelling.toList) ∈ placed 0 (.tag tag spelling :: segs) :=
      List.mem_cons_self
    -- the tag covers all of its offsets but the first
    obtain rfl : p = 0 := by
      have hp : p < spelling.toList.length := hp
      have := huncovered 0 tag spelling.toList hmem
      omega
    constructor
    · rintro ⟨-, heq⟩
      obtain ⟨rfl, rfl⟩ := Segment.tag.inj heq
      exact ⟨rest, by simp [Segment.source], by simpa using hspelled⟩
    · rintro ⟨r, hr, hother⟩
      have hsame := tagAt?_of_spelled hother
      rw [← hr, List.drop_zero] at hsame
      have hfound := Option.some.inj (hsame.symm.trans (tagAt?_of_spelled hspelled))
      obtain ⟨rfl, rfl, -⟩ := Found.mk.inj hfound
      exact ⟨rfl, by simp [Segment.source]⟩

/-- No tag starts within a text in front of another. -/
def Clear (text rest : List Char) : Prop :=
  ∀ r, r ≠ [] → r <:+ text → tagAt? (r ++ rest) = none

theorem clear_nil (rest : List Char) : Clear [] rest :=
  fun _ hr hsuffix => absurd (List.suffix_nil.mp hsuffix) hr

theorem clear_cons {c : Char} {text rest : List Char} :
    Clear (c :: text) rest ↔ tagAt? (c :: (text ++ rest)) = none ∧ Clear text rest := by
  constructor
  · intro h
    exact ⟨h (c :: text) (List.cons_ne_nil c text) (List.suffix_refl _),
      fun r hr hsuffix => h r hr (hsuffix.trans (List.suffix_cons c text))⟩
  · rintro ⟨hfirst, h⟩ r hr hsuffix
    rcases List.suffix_cons_iff.mp hsuffix with rfl | hsuffix
    · exact hfirst
    · exact h r hr hsuffix

theorem clear_concat {c : Char} {text rest : List Char} (hlast : tagAt? (c :: rest) = none)
    (h : Clear text (c :: rest)) : Clear (text ++ [c]) rest := by
  rintro r hr hsuffix
  rcases List.suffix_concat_iff.mp hsuffix with rfl | ⟨front, rfl, hfront⟩
  · exact absurd rfl hr
  · rcases eq_or_ne front [] with rfl | hne
    · exact hlast
    · simpa using h front hne hfront

/-- A literal is no tag. -/
theorem not_tag_of_literal (literal : String) (p : Nat) (tag : Tag) (source : List Char) :
    ¬(p = 0 ∧ Segment.literal literal = .tag tag (String.ofList source)) := by
  rintro ⟨-, heq⟩
  cases heq

/-- No tag starts inside a literal at the front. -/
theorem Leftmost.clear {literal : String} {text : List Char}
    (h : Leftmost text (.literal literal :: segs)) :
    Clear literal.toList (segs.flatMap Segment.source) := by
  rintro r hr ⟨q, hq⟩
  have hlt : q.length < (Segment.literal literal).source.length := by
    have hsome := List.length_pos_iff.mpr hr
    rw [Segment.source, ← hq, List.length_append]
    omega
  have hdrop : text.drop q.length = r ++ segs.flatMap Segment.source := by
    rw [← h.whole, List.flatMap_cons, Segment.source, ← hq, List.append_assoc]
    exact List.drop_left
  rw [tagAt?_eq_none_iff]
  intro tag source rest hrest hspelled
  have hstart := (h.starts_iff q.length
    (uncovered_of_le (.inr ⟨rfl, Nat.le_of_lt hlt⟩)) tag source).mpr
    ⟨rest, hdrop.trans hrest, hspelled⟩
  exact not_tag_of_literal _ _ _ _ ((mem_placed_cons_of_lt hlt).mp hstart)

/-- **A literal first.** -/
theorem leftmost_literal_cons {literal : String} {text : List Char} :
    Leftmost text (.literal literal :: segs) ↔
      ∃ rest, text = literal.toList ++ rest ∧ literal ≠ "" ∧
        (∀ next ∈ segs.head?, next.isLiteral = false) ∧ Clear literal.toList rest ∧
          Leftmost rest segs := by
  constructor
  · intro h
    have hne : literal ≠ "" := by
      rintro rfl
      exact h.filled List.mem_cons_self
    have hseg : (Segment.literal literal).source ≠ [] := by simpa [Segment.source] using hne
    refine ⟨segs.flatMap Segment.source, h.whole.symm, hne, ?_, h.clear, h.tail hseg⟩
    intro next hnext
    simpa [Segment.isLiteral] using (List.isChain_cons.mp h.apart).1 next hnext
  · rintro ⟨rest, rfl, hne, hnext, hclear, h⟩
    have hseg : (Segment.literal literal).source ≠ [] := by simpa [Segment.source] using hne
    refine h.cons hseg (fun next hmem => by simp [hnext next hmem]) ?_
    intro p hp _ tag source
    refine iff_of_false (not_tag_of_literal literal p tag source) ?_
    rintro ⟨r, hr, hspelled⟩
    have hp : p < literal.toList.length := hp
    have hempty : tagAt? (literal.toList.drop p ++ rest) = none := by
      refine hclear _ ?_ (List.drop_suffix p _)
      rw [ne_eq, List.drop_eq_nil_iff]
      omega
    have hsplit : (literal.toList ++ rest).drop p = literal.toList.drop p ++ rest :=
      List.drop_append_of_le_length (Nat.le_of_lt hp)
    rw [← hsplit, show literal.toList = (Segment.literal literal).source from rfl, hr,
      tagAt?_of_spelled hspelled] at hempty
    cases hempty

/-! ### The one decomposition -/

theorem cut_nil (literal : List Char) : cut literal [] = literalOf literal := by
  rw [cut]

theorem cut_of_none {literal rest : List Char} {c : Char} (h : tagAt? (c :: rest) = none) :
    cut literal (c :: rest) = cut (c :: literal) rest := by
  rw [cut]
  split
  · next f hf =>
    rw [h] at hf
    cases hf
  · rfl

theorem cut_of_spelled {literal rest : List Char} (h : Spelled tag source rest) :
    cut literal (source ++ rest)
      = literalOf literal ++ .tag tag (String.ofList source) :: cut [] rest := by
  have hfound := tagAt?_of_spelled h
  cases hsource : source with
  | nil => exact absurd hsource h.source_ne_nil
  | cons c more =>
    rw [hsource, List.cons_append] at hfound
    rw [List.cons_append, cut]
    split
    · next f hf =>
      rw [hfound] at hf
      obtain rfl := Option.some.inj hf
      rfl
    · next hf =>
      rw [hfound] at hf
      cases hf

/-- Within a clear text the scan only gathers. -/
theorem cut_of_clear {text : List Char} : ∀ {literal rest : List Char}, Clear text rest →
    cut literal (text ++ rest) = cut (text.reverse ++ literal) rest := by
  induction text with
  | nil => intro literal rest _; rfl
  | cons c text ih =>
    intro literal rest h
    obtain ⟨hfirst, hclear⟩ := clear_cons.mp h
    rw [List.cons_append, cut_of_none hfirst, ih hclear]
    simp

/-- A clear literal in front of a decomposition that does not start with one. -/
theorem leftmost_literalOf {literal rest : List Char} (hclear : Clear literal.reverse rest)
    (hnext : ∀ next ∈ segs.head?, next.isLiteral = false) (h : Leftmost rest segs) :
    Leftmost (literal.reverse ++ rest) (literalOf literal ++ segs) := by
  rw [literalOf]
  split
  · next hempty =>
    obtain rfl := List.isEmpty_iff.mp hempty
    exact h
  · next hne =>
    refine leftmost_literal_cons.mpr ⟨rest, by simp, ?_, hnext, by simpa using hclear, h⟩
    simpa [String.ext_iff] using hne

/-- **There is a leftmost decomposition**: the one that the scan makes. -/
theorem leftmost_cut (literal cs : List Char) (h : Clear literal.reverse cs) :
    Leftmost (literal.reverse ++ cs) (cut literal cs) := by
  induction literal, cs using cut.induct with
  | case1 literal =>
    rw [cut_nil]
    simpa using leftmost_literalOf h (by simp) leftmost_nil
  | case2 literal c rest f hf ih =>
    obtain ⟨hwhole, hspelled⟩ := tagAt?_eq_some_iff.mp hf
    rw [← hwhole, cut_of_spelled hspelled]
    refine leftmost_literalOf (by rw [hwhole]; exact h) (by simp [Segment.isLiteral]) ?_
    refine leftmost_tag_cons.mpr ⟨f.rest, by simp, by simpa using hspelled, ?_⟩
    exact ih (clear_nil _)
  | case3 literal c rest hnone ih =>
    rw [cut_of_none hnone]
    have := ih (by simpa using clear_concat hnone h)
    simpa using this

/-- **There is no other.** -/
theorem eq_cut_of_leftmost {text : List Char} (h : Leftmost text segs) : segs = cut [] text := by
  induction segs generalizing text with
  | nil =>
    obtain rfl : [] = text := h.whole
    exact (cut_nil []).symm
  | cons seg segs ih =>
    cases seg with
    | tag tag spelling =>
      obtain ⟨rest, rfl, hspelled, hrest⟩ := leftmost_tag_cons.mp h
      rw [cut_of_spelled hspelled, ← ih hrest]
      simp [literalOf]
    | literal literal =>
      obtain ⟨rest, rfl, hne, hnext, hclear, hrest⟩ := leftmost_literal_cons.mp h
      have hliteral : literalOf (literal.toList.reverse ++ []) = [.literal literal] := by
        simp [literalOf, hne]
      rw [cut_of_clear hclear]
      -- behind the literal comes the end of the text, or a tag
      cases segs with
      | nil =>
        obtain rfl : [] = rest := hrest.whole
        rw [cut_nil, hliteral]
      | cons next segs =>
        cases next with
        | literal other => cases hnext _ rfl
        | tag tag spelling =>
          have hcut := ih hrest
          obtain ⟨behind, rfl, hspelled, -⟩ := leftmost_tag_cons.mp hrest
          rw [cut_of_spelled hspelled] at hcut ⊢
          rw [hliteral, hcut]
          rfl

theorem leftmost_segments (t : Template) : Leftmost t.text.toList t.segments :=
  leftmost_cut [] t.text.toList (clear_nil _)

end PurgeGateway.Template
