import PurgeGateway.Config.Environment
import PurgeGateway.Proofs.Grammar
import Mathlib.Data.List.Infix

/-!
# References, replaced

Which references a text holds is said here without a word of how it is scanned. A reference is
spelled in one of two ways, and what follows it has a say: a name without braces goes on as long as
it can. A text falls into references and the stretches between them, in which no reference starts.
Expansion copies the stretches and puts the values of the variables in the place of the references;
what a value holds is no part of the text, so it is not looked at.

Tags of templates start with the same two characters as references in braces. A colon ends the word
behind them, where a reference would need a brace, so no tag is taken for a reference.

## Main definitions

* `Environment.Refers`: the two ways in which a reference is spelled in front of a text.
* `Environment.Divided`: a text as references with stretches between them.
* `Environment.Tagged`: a tag is spelled wherever a dollar sign stands.

## Main results

* `referenceAt?_eq_some_iff`: a reference is found behind a dollar sign if one is spelled there.
* `exists_divided`, `Divided.unique`: every text is divided in exactly one way.
* `expand_of_divided`: what becomes of a text that is divided.
* `expanded_exactly`: all of it, and what is left of a template.
-/

namespace PurgeGateway.Environment

/-! ### References as they are spelled -/

/-- The characters name a variable: ASCII letters, digits and underscores, with no digit first. -/
structure IsName (run : List Char) : Prop where
  first : ∃ c more, run = c :: more ∧ startsName c = true
  all : ∀ c ∈ run, inName c = true

/-- A reference to a variable is spelled by a text in front of another. -/
inductive Refers : String → List Char → List Char → Prop
  | braced {run rest : List Char} (hrun : IsName run) :
    Refers (String.ofList run) ('$' :: '{' :: (run ++ ['}'])) rest
  | plain {run rest : List Char} (hrun : IsName run) (hend : ∀ c ∈ rest.head?, inName c = false) :
    Refers (String.ofList run) ('$' :: run) rest

section
variable {cs run rest source source' rest' : List Char} {name name' : String}

theorem nameAt?_append (hrun : IsName run) (hend : ∀ c ∈ rest.head?, inName c = false) :
    nameAt? (run ++ rest) = some (String.ofList run, rest) := by
  obtain ⟨⟨c, more, rfl, hc⟩, hall⟩ := hrun
  have hmore : ∀ d ∈ more, inName d = true := fun d hd => hall d (List.mem_cons_of_mem c hd)
  have hstop : rest.takeWhile inName = [] ∧ rest.dropWhile inName = rest := by
    cases rest with
    | nil => exact ⟨rfl, rfl⟩
    | cons d rest => simp [hend d rfl]
  rw [List.cons_append, nameAt?, if_pos hc, List.takeWhile_append_of_pos hmore,
    List.dropWhile_append_of_pos hmore, hstop.1, hstop.2, List.append_nil]

theorem nameAt?_eq_some_iff : nameAt? cs = some (name, rest) ↔
    ∃ run, IsName run ∧ name = String.ofList run ∧ cs = run ++ rest ∧
      ∀ c ∈ rest.head?, inName c = false := by
  constructor
  · intro h
    unfold nameAt? at h
    split at h
    · next c more =>
      split at h
      · next hc =>
        obtain ⟨rfl, rfl⟩ := Prod.mk.inj (Option.some.inj h)
        refine ⟨c :: more.takeWhile inName, ⟨⟨c, _, rfl, hc⟩, ?_⟩, rfl, ?_, ?_⟩
        · exact List.forall_mem_cons.mpr ⟨by simp [inName, hc], fun d => List.mem_takeWhile_imp⟩
        · rw [List.cons_append, List.takeWhile_append_dropWhile]
        · intro d hd
          have hstop := List.head?_dropWhile_not inName more
          rw [hd] at hstop
          simpa using hstop
      · cases h
    · cases h
  · rintro ⟨run, hrun, rfl, rfl, hend⟩
    exact nameAt?_append hrun hend

/-- A name that starts with a brace is none. -/
theorem referenceAt?_of_isName (hrun : IsName run) (rest : List Char) :
    referenceAt? (run ++ rest) = nameAt? (run ++ rest) := by
  obtain ⟨⟨c, more, rfl, hc⟩, -⟩ := hrun
  have hbrace : c ≠ '{' := by
    rintro rfl
    exact absurd hc (by decide)
  rw [List.cons_append, referenceAt?]
  rintro _ ⟨⟩
  exact hbrace rfl

/-- **A reference is found behind a dollar sign if one is spelled there**, and in no other case. -/
theorem referenceAt?_eq_some_iff : referenceAt? cs = some (name, rest) ↔
    ∃ source, '$' :: cs = source ++ rest ∧ Refers name source rest := by
  constructor
  · intro h
    unfold referenceAt? at h
    split at h
    · next inner =>
      unfold bracedAt? at h
      split at h
      · next found hfound =>
        obtain ⟨rfl, rfl⟩ := Prod.mk.inj (Option.some.inj h)
        obtain ⟨run, hrun, rfl, rfl, -⟩ := nameAt?_eq_some_iff.mp hfound
        exact ⟨_, by simp, .braced hrun⟩
      · cases h
    · obtain ⟨run, hrun, rfl, rfl, hend⟩ := nameAt?_eq_some_iff.mp h
      exact ⟨_, rfl, .plain hrun hend⟩
  · rintro ⟨source, heq, h⟩
    cases h with
    | braced hrun =>
      have hclose : ∀ c ∈ ('}' :: rest).head?, inName c = false := by
        rintro _ ⟨⟩
        decide
      simp only [List.cons_append, List.append_assoc, List.nil_append] at heq
      obtain ⟨-, rfl⟩ := List.cons.inj heq
      simp only [referenceAt?, bracedAt?, nameAt?_append hrun hclose]
    | plain hrun hend =>
      rw [List.cons_append] at heq
      obtain ⟨-, rfl⟩ := List.cons.inj heq
      rw [referenceAt?_of_isName hrun, nameAt?_append hrun hend]

theorem Refers.source_eq (h : Refers name source rest) :
    ∃ behind, source = '$' :: behind ∧ referenceAt? (behind ++ rest) = some (name, rest) := by
  have hfound : ∀ {behind}, source = '$' :: behind →
      referenceAt? (behind ++ rest) = some (name, rest) :=
    fun hsource => referenceAt?_eq_some_iff.mpr ⟨source, by rw [hsource]; rfl, h⟩
  cases h with
  | braced _ => exact ⟨_, rfl, hfound rfl⟩
  | plain _ _ => exact ⟨_, rfl, hfound rfl⟩

/-- One reference at most is spelled at the front of a text. -/
theorem Refers.unique (h : Refers name source rest) (h' : Refers name' source' rest')
    (heq : source ++ rest = source' ++ rest') : name = name' ∧ source = source' ∧ rest = rest' := by
  obtain ⟨behind, rfl, hfound⟩ := h.source_eq
  obtain ⟨behind', rfl, hfound'⟩ := h'.source_eq
  rw [List.cons_append, List.cons_append] at heq
  rw [(List.cons.inj heq).2, hfound'] at hfound
  obtain ⟨rfl, rfl⟩ := Prod.mk.inj (Option.some.inj hfound)
  rw [← List.cons_append, ← List.cons_append] at heq
  exact ⟨rfl, List.append_cancel_right heq, rfl⟩

end

/-! ### Texts divided -/

/-- No reference starts at the front of the text. -/
def Free (cs : List Char) : Prop :=
  ∀ name source rest, cs = source ++ rest → ¬Refers name source rest

/-- No reference starts within a text in front of another. -/
def Clear (text rest : List Char) : Prop :=
  ∀ r, r ≠ [] → r <:+ text → Free (r ++ rest)

/-- A reference with its spelling, and the stretch of text in front of it. -/
structure Link where
  gap : List Char
  name : String
  source : List Char

/-- A text falls into references, with stretches in front of each in which none starts, and a last
stretch behind them. -/
inductive Divided : List Char → List Link → List Char → Prop
  | last {text : List Char} (h : Clear text []) : Divided text [] text
  | link {gap source rest last : List Char} {name : String} {links : List Link}
      (hgap : Clear gap (source ++ rest)) (h : Refers name source rest)
      (hrest : Divided rest links last) :
    Divided (gap ++ (source ++ rest)) (⟨gap, name, source⟩ :: links) last

/-- What a link becomes: its stretch as it is, and the value of its variable, if it has one. -/
def Link.filled (lookup : Lookup) (l : Link) : List Char :=
  l.gap ++ ((lookup l.name).getD "").toList

section
variable {c : Char} {cs text gap rest source last last' : List Char} {name : String}
  {links links' : List Link} {s : String} {lookup other : Lookup}

theorem free_of_ne (h : c ≠ '$') (cs : List Char) : Free (c :: cs) := by
  intro name source rest heq hrefers
  obtain ⟨behind, rfl, -⟩ := hrefers.source_eq
  exact h (List.cons.inj heq).1

theorem free_dollar_iff : Free ('$' :: cs) ↔ referenceAt? cs = none := by
  rw [Option.eq_none_iff_forall_ne_some, Free]
  constructor
  · rintro h ⟨name, rest⟩ hfound
    obtain ⟨source, heq, hrefers⟩ := referenceAt?_eq_some_iff.mp hfound
    exact h name source rest heq hrefers
  · intro h name source rest heq hrefers
    exact h (name, rest) (referenceAt?_eq_some_iff.mpr ⟨source, heq, hrefers⟩)

theorem clear_nil (rest : List Char) : Clear [] rest :=
  fun _ hr hsuffix => absurd (List.suffix_nil.mp hsuffix) hr

theorem clear_cons : Clear (c :: text) rest ↔ Free (c :: (text ++ rest)) ∧ Clear text rest := by
  constructor
  · intro h
    exact ⟨h (c :: text) (List.cons_ne_nil c text) (List.suffix_refl _),
      fun r hr hsuffix => h r hr (hsuffix.trans (List.suffix_cons c text))⟩
  · rintro ⟨hfirst, h⟩ r hr hsuffix
    rcases List.suffix_cons_iff.mp hsuffix with rfl | hsuffix
    · exact hfirst
    · exact h r hr hsuffix

/-- A character at which no reference starts lengthens the first stretch. -/
theorem Divided.cons (hfree : Free (c :: cs)) (h : Divided cs links last) :
    ∃ links last, Divided (c :: cs) links last := by
  cases h with
  | last h => exact ⟨[], _, .last (clear_cons.mpr ⟨by rwa [List.append_nil], h⟩)⟩
  | link hgap h hrest => exact ⟨_, _, .link (clear_cons.mpr ⟨hfree, hgap⟩) h hrest⟩

/-- **Every text is divided.** -/
theorem exists_divided (cs : List Char) : ∃ links last, Divided cs links last := by
  induction cs using pieces.induct with
  | case1 => exact ⟨[], [], .last (clear_nil [])⟩
  | case2 rest name behind hfound ih =>
    obtain ⟨source, heq, h⟩ := referenceAt?_eq_some_iff.mp hfound
    obtain ⟨links, last, hrest⟩ := ih
    rw [heq]
    exact ⟨_, last, .link (clear_nil _) h hrest⟩
  | case3 rest hnone ih =>
    obtain ⟨links, last, hrest⟩ := ih
    exact hrest.cons (free_dollar_iff.mpr hnone)
  | case4 c rest hne ih =>
    obtain ⟨links, last, hrest⟩ := ih
    exact hrest.cons (free_of_ne hne rest)

/-- A reference behind a clear stretch is not within another one. -/
theorem Clear.gap_eq {gap' source' rest' : List Char} {name' : String}
    (hgap : Clear gap (source ++ rest)) (h : Refers name source rest)
    (hgap' : Clear gap' (source' ++ rest')) (h' : Refers name' source' rest')
    (heq : gap ++ (source ++ rest) = gap' ++ (source' ++ rest')) : gap = gap' := by
  rcases List.append_eq_append_iff.mp heq with ⟨a, rfl, ha⟩ | ⟨a, rfl, ha⟩
  · rcases eq_or_ne a [] with rfl | hne
    · rw [List.append_nil]
    · exact absurd h (hgap' a hne (List.suffix_append gap a) name source rest ha.symm)
  · rcases eq_or_ne a [] with rfl | hne
    · rw [List.append_nil]
    · exact absurd h' (hgap a hne (List.suffix_append gap' a) name' source' rest' ha.symm)

/-- No reference is left in a text that is one stretch. -/
theorem not_clear_append (h : Refers name source rest) : ¬Clear (gap ++ (source ++ rest)) [] := by
  intro hclear
  obtain ⟨behind, rfl, -⟩ := h.source_eq
  exact hclear _ (List.cons_ne_nil _ _) (List.suffix_append gap _) name _ rest
    (List.append_nil _) h

/-- **A text is divided in one way only.** -/
theorem Divided.unique (h : Divided cs links last) (h' : Divided cs links' last') :
    links = links' ∧ last = last' := by
  induction h generalizing links' with
  | last hclear =>
    cases h' with
    | last _ => exact ⟨rfl, rfl⟩
    | link _ hrefers _ => exact absurd hclear (not_clear_append hrefers)
  | @link gap source rest last name links hgap hrefers hrest ih =>
    generalize hcs : gap ++ (source ++ rest) = cs at h'
    cases h' with
    | last hclear => exact absurd (hcs ▸ hclear) (not_clear_append hrefers)
    | link hgap' hrefers' hrest' =>
      obtain rfl := hgap.gap_eq hrefers hgap' hrefers' hcs
      obtain ⟨rfl, rfl, rfl⟩ := hrefers.unique hrefers' (List.append_cancel_left hcs)
      obtain ⟨rfl, rfl⟩ := ih hrest'
      exact ⟨rfl, rfl⟩

/-! ### What becomes of a text -/

theorem pieces_of_refers (h : Refers name source rest) :
    pieces (source ++ rest) = .reference name :: pieces rest := by
  obtain ⟨behind, rfl, hfound⟩ := h.source_eq
  rw [List.cons_append, pieces]
  split
  · next hother =>
    rw [hfound] at hother
    obtain ⟨rfl, rfl⟩ := Prod.mk.inj (Option.some.inj hother)
    rfl
  · next hnone =>
    rw [hfound] at hnone
    cases hnone

theorem pieces_of_free (h : Free (c :: cs)) : pieces (c :: cs) = .plain c :: pieces cs := by
  by_cases hc : c = '$'
  · subst hc
    rw [free_dollar_iff] at h
    rw [pieces]
    split
    · next hfound =>
      rw [h] at hfound
      cases hfound
    · rfl
  · rw [pieces]
    exact hc

theorem pieces_of_clear (h : Clear text rest) :
    pieces (text ++ rest) = text.map .plain ++ pieces rest := by
  induction text with
  | nil => rfl
  | cons c text ih =>
    obtain ⟨hfree, hclear⟩ := clear_cons.mp h
    rw [List.cons_append, pieces_of_free hfree, ih hclear, List.map_cons, List.cons_append]

theorem pieces_of_divided (h : Divided cs links last) : pieces cs
    = (links.flatMap fun l => l.gap.map .plain ++ [.reference l.name]) ++ last.map .plain := by
  induction h with
  | @last text h =>
    have hwhole := pieces_of_clear h
    rw [List.append_nil, pieces, List.append_nil] at hwhole
    rw [hwhole, List.flatMap_nil, List.nil_append]
  | link hgap h _ ih =>
    rw [pieces_of_clear hgap, pieces_of_refers h, ih]
    simp

theorem flatMap_expand_plain (lookup : Lookup) (text : List Char) :
    (text.map .plain).flatMap (Piece.expand lookup) = text := by
  induction text with
  | nil => rfl
  | cons c text ih => rw [List.map_cons, List.flatMap_cons, ih]; rfl

/-- **What becomes of a text that is divided.** -/
theorem expand_of_divided (h : Divided s.toList links last) (lookup : Lookup) :
    (expand lookup s).toList = links.flatMap (Link.filled lookup) ++ last := by
  rw [expand, String.toList_ofList, pieces_of_divided h, List.flatMap_append,
    flatMap_expand_plain, List.flatMap_assoc]
  congr 2
  funext l
  rw [List.flatMap_append, flatMap_expand_plain]
  simp [Piece.expand, Link.filled]

theorem names_of_divided (h : Divided s.toList links last) : names s = links.map Link.name := by
  have hplain : ∀ text : List Char, (text.map Piece.plain).filterMap Piece.name? = [] := by
    intro text
    simp [Piece.name?]
  rw [names, pieces_of_divided h, List.filterMap_append, hplain, List.append_nil]
  clear h
  induction links with
  | nil => rfl
  | cons l links ih =>
    rw [List.flatMap_cons, List.filterMap_append, List.filterMap_append, hplain, ih]
    rfl

/-- The result depends on the variables that the text refers to, and on no other. -/
theorem expand_congr (h : ∀ name ∈ names s, lookup name = other name) :
    expand lookup s = expand other s := by
  obtain ⟨links, last, hdivided⟩ := exists_divided s.toList
  rw [names_of_divided hdivided, List.forall_mem_map] at h
  have hfilled : links.flatMap (Link.filled lookup) = links.flatMap (Link.filled other) :=
    List.flatMap_congr fun l hl => by rw [Link.filled, Link.filled, h l hl]
  rw [← String.toList_inj, expand_of_divided hdivided, expand_of_divided hdivided, hfilled]

end

/-! ### Templates -/

section
variable {cs rest source : List Char} {tag : Tag}

/-- A tag is spelled wherever a dollar sign stands. It is a delimited one then, since no other
starts so; it need not be one of the tags that the text is cut into, as another may cover it. -/
def Tagged (cs : List Char) : Prop :=
  ∀ rest, '$' :: rest <:+ cs →
    ∃ tag source behind, '$' :: rest = source ++ behind ∧ Template.Spelled tag source behind

instance (cs : List Char) : Decidable (Tagged cs) :=
  decidable_of_iff (∀ r ∈ cs.tails, r.head? = some '$' → Template.tagAt? r ≠ none) <| by
    simp only [List.mem_tails, ne_eq, Template.tagAt?_eq_none_iff, not_forall, not_not, Tagged]
    constructor
    · intro h rest hsuffix
      obtain ⟨tag, source, behind, heq, hspelled⟩ := h _ hsuffix rfl
      exact ⟨tag, source, behind, heq, hspelled⟩
    · rintro h (_ | ⟨c, rest⟩) hsuffix hdollar
      · cases hdollar
      · obtain rfl := Option.some.inj hdollar
        obtain ⟨tag, source, behind, heq, hspelled⟩ := h rest hsuffix
        exact ⟨tag, source, behind, heq, hspelled⟩

/-- The word that names the kind of a tag ends in front of a colon. -/
theorem nameAt?_kindText (side : Side) (subject : Subject) (body : List Char) :
    ∃ name, nameAt? (Template.kindText side subject ++ body) = some (name, ':' :: body) := by
  cases side <;> cases subject <;> exact ⟨_, rfl⟩

/-- No tag is taken for a reference. -/
theorem free_of_spelled (h : Template.Spelled tag source rest) : Free (source ++ rest) := by
  cases h with
  | @delimited side subject run rest _ =>
    obtain ⟨name, hname⟩ := nameAt?_kindText side subject (run ++ ['}'] ++ rest)
    rw [List.cons_append, free_dollar_iff, List.cons_append, List.append_assoc, referenceAt?,
      bracedAt?, hname]
    rfl
  | @bare side subject run rest _ _ =>
    cases side <;> cases subject <;> exact free_of_ne (by decide) _

theorem clear_of_tagged (h : Tagged cs) : Clear cs [] := by
  rintro (_ | ⟨c, r⟩) hr hsuffix
  · exact absurd rfl hr
  · rw [List.append_nil]
    by_cases hc : c = '$'
    · subst hc
      obtain ⟨tag, source, behind, heq, hspelled⟩ := h r hsuffix
      rw [heq]
      exact free_of_spelled hspelled
    · exact free_of_ne hc r

/-- A text with tags for dollar signs stays as it is. -/
theorem expand_of_tagged {s : String} (h : Tagged s.toList) (lookup : Lookup) :
    expand lookup s = s := by
  rw [← String.toList_inj, expand_of_divided (.last (clear_of_tagged h)), List.flatMap_nil,
    List.nil_append]

end

/-- **What becomes of a text.** Take any text.

* It is divided in exactly one way into references and the stretches between them.
* The stretches are copied, and each reference gives way to the value of its variable as it is, or
  to nothing if the variable is not set.
* The values of the variables that are not referred to do not matter.
* If a tag is spelled wherever a dollar sign stands, the text stays as it is, and so does the
  template that it makes. -/
theorem expanded_exactly (s : String) :
    ∃ links last,
      (∀ others other, Divided s.toList others other ↔ others = links ∧ other = last) ∧
      (∀ lookup, (expand lookup s).toList = links.flatMap (Link.filled lookup) ++ last) ∧
      names s = links.map Link.name ∧
      (∀ lookup other : Lookup, (∀ name ∈ names s, lookup name = other name) →
        expand lookup s = expand other s) ∧
      (Tagged s.toList → ∀ lookup, expand lookup s = s ∧
        (Template.mk (expand lookup s)).segments = (Template.mk s).segments) := by
  obtain ⟨links, last, hdivided⟩ := exists_divided s.toList
  refine ⟨links, last, ?_, expand_of_divided hdivided, names_of_divided hdivided,
    fun lookup other => expand_congr, fun htagged lookup => ?_⟩
  · intro others other
    constructor
    · exact fun h => h.unique hdivided
    · rintro ⟨rfl, rfl⟩
      exact hdivided
  · rw [expand_of_tagged htagged lookup]
    exact ⟨rfl, rfl⟩

/-- An environment in which a value looks like references. -/
def echoing : Lookup := fun name => if name = "A" then some "$\x7bB\x7d$A" else none

/-- The same environment with a variable that the value seems to refer to. -/
def answering : Lookup := fun name => if name = "B" then some "seen" else echoing name

/-- A variable that is not set, one with braces around it, and two dollar signs that refer to none;
and a template whose first tag covers a place at which another one is spelled. -/
theorem expanded_exactly_echoing :
    ((∀ name ∈ names "$$A_1$\x7bA\x7d$\x7bB", echoing name = answering name) ∧
      expand echoing "$$A_1$\x7bA\x7d$\x7bB" = expand answering "$$A_1$\x7bA\x7d$\x7bB") ∧
    Tagged "$\x7bREQUEST:$\x7bRESPONSE:é\x7d".toList ∧
      expand echoing "$\x7bREQUEST:$\x7bRESPONSE:é\x7d" = "$\x7bREQUEST:$\x7bRESPONSE:é\x7d" := by
  obtain ⟨_, _, -, -, -, hvariables, -⟩ := expanded_exactly "$$A_1$\x7bA\x7d$\x7bB"
  obtain ⟨_, _, -, -, -, -, htags⟩ := expanded_exactly "$\x7bREQUEST:$\x7bRESPONSE:é\x7d"
  have hagree : ∀ name ∈ names "$$A_1$\x7bA\x7d$\x7bB", echoing name = answering name := by
    decide +kernel
  have htagged : Tagged "$\x7bREQUEST:$\x7bRESPONSE:é\x7d".toList := by decide +kernel
  exact ⟨⟨hagree, hvariables echoing answering hagree⟩, htagged, (htags htagged echoing).1⟩

/-- The value is not looked at again. -/
example : expand answering "$$A_1$\x7bA\x7d$\x7bB" = "$$\x7bB\x7d$A$\x7bB" := by
  decide +kernel

end PurgeGateway.Environment
