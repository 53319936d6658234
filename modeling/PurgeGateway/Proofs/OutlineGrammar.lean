import PurgeGateway.Proofs.ReadBack

/-!
# Outlines of JSON objects

An outline passes over the values of an object and reads none of them. It finds every member: the
name as it is read, and for the value the stretch that holds its text, so that it can be read later.
A name that is no text has no outline, and so the object has none.

The scan keeps no stack but the frames that are open, and has fuel for every byte. So what carries
the induction over a value is `PassedIn`: wherever the value stands, the scan goes on behind it
with as much fuel as there are bytes left.

## Main definitions

* `PassedIn`: the scan passes over a text that is an element of a frame.
* `WritesObject`: the texts of objects, and the members that they write.
* `namedValues`: the values under the names that are texts.

## Main results

* `passedIn_led`, `readStretch?_complete`: a value of any depth is passed over, and the stretch is
  its text.
* `outline?_of_named`, `outline?_of_unnamed`: the outline of an object.
* `writesObject_compact`: an object that is written is one of them.
-/

namespace PurgeGateway.Json

open Utf8 (encode)

variable {front rest : List UInt8} {tree : Tree} {j : Json}

/-! ### Plain values -/

/-- A plain value is passed over. -/
theorem skimScalar?_complete (h : WritesScalar front tree) (hrest : Ends rest) :
    skimScalar? (front ++ rest) = some rest := by
  cases h with
  | null =>
    rw [List.cons_append, skimScalar?, if_neg (by decide), if_pos rfl]
    exact readWord?_append _ rest
  | yes =>
    rw [List.cons_append, skimScalar?, if_neg (by decide), if_neg (by decide), if_pos rfl]
    exact readWord?_append _ rest
  | no =>
    rw [List.cons_append, skimScalar?, if_neg (by decide), if_neg (by decide), if_neg (by decide),
      if_pos rfl]
    exact readWord?_append _ rest
  | text hcontent =>
    rw [List.cons_append, List.append_assoc, skimScalar?, if_pos rfl]
    exact skimText?_of_spells hcontent rest
  | number hspells =>
    have hspelled := Number.spelled_append hspells (stops_of_ends hrest)
    obtain ⟨b, more, rfl, hb⟩ := hspells.exists_head
    rw [List.cons_append] at hspelled ⊢
    rw [skimScalar?, if_neg (ne_of_startsNumber hb (by decide)),
      if_neg (ne_of_startsNumber hb (by decide)), if_neg (ne_of_startsNumber hb (by decide)),
      if_neg (ne_of_startsNumber hb (by decide)), hspelled]
    rfl

/-- Where a plain value starts nothing is opened. -/
theorem WritesScalar.exists_head (h : WritesScalar front tree) :
    ∃ b more, front = b :: more ∧ isBlankByte b = false ∧ Frame.ofOpen? b = none := by
  cases h with
  | null | yes | no | text _ => exact ⟨_, _, rfl, by decide, by decide⟩
  | number hspells =>
    obtain ⟨b, more, hfront, hb⟩ := hspells.exists_head
    have hbracket := ne_of_startsNumber hb (c := Ascii.byte '[') (by decide)
    have hbrace := ne_of_startsNumber hb (c := Ascii.byte '{') (by decide)
    refine ⟨b, more, hfront, not_blank_of_startsNumber hb, ?_⟩
    rw [Frame.ofOpen?, if_neg hbracket, if_neg hbrace]

/-! ### One step of the scan -/

section
variable {f : Frame} {fuel : Nat} {frames : List Frame} {bs before : List UInt8}

theorem skipBlank_skipBlank (bs : List UInt8) : skipBlank (skipBlank bs) = skipBlank bs := by
  obtain ⟨before, hbefore, hbs⟩ := exists_skipBlank bs
  have hskip := skipBlank_append hbefore (skipBlank bs)
  rw [← hbs] at hskip
  exact hskip.symm

theorem skimValue?_congr {other : List UInt8} (h : skipBlank bs = skipBlank other) :
    skimValue? fuel frames bs = skimValue? fuel frames other := by
  cases fuel with
  | zero => rw [skimValue?, skimValue?]
  | succ fuel => rw [skimValue?, skimValue?, h]

/-- Blanks in front of an element make no difference. -/
theorem bind_toValue?_skipBlank (f : Frame) (bs : List UInt8) :
    (f.toValue? (skipBlank bs)).bind (skimValue? fuel frames)
      = (f.toValue? bs).bind (skimValue? fuel frames) := by
  cases f with
  | array => exact skimValue?_congr (skipBlank_skipBlank bs)
  | object => simp only [Frame.toValue?, skimName?, skipBlank_skipBlank]

theorem skimValue?_scalar (h : WritesScalar front tree) (hrest : Ends rest) :
    skimValue? (fuel + 1) frames (front ++ rest) = skimAfter? fuel frames rest := by
  have hskim := skimScalar?_complete h hrest
  obtain ⟨b, more, rfl, hsolid, hplain⟩ := h.exists_head
  rw [List.cons_append] at hskim ⊢
  rw [skimValue?, skipBlank_cons hsolid]
  simp only [hplain, hskim, Option.bind_some]

theorem skimName?_complete {content between : List UInt8} {units : List Nat}
    (hbefore : IsBlank before) (hname : SpellsUnits content units) (hbetween : IsBlank between)
    (bs : List UInt8) : skimName? (before ++ Ascii.byte '"' ::
      (content ++ Ascii.byte '"' :: (between ++ Ascii.byte ':' :: bs))) = some bs := by
  have hquote := readWord?_byte (b := Ascii.byte '"') hbefore (by decide)
    (content ++ Ascii.byte '"' :: (between ++ Ascii.byte ':' :: bs))
  have hcolon := readWord?_byte (b := Ascii.byte ':') hbetween (by decide) bs
  rw [skimName?, word_quote, hquote]
  simp only [Option.bind_eq_bind, Option.bind_some, skimText?_of_spells hname, word_colon, hcolon]

theorem ofOpen?_opening (f : Frame) : Frame.ofOpen? f.opening = some f := by
  cases f <;> decide

theorem solid_opening (f : Frame) : isBlankByte f.opening = false := by
  cases f <;> decide

theorem skimValue?_blank (h : IsBlank before) (rest : List UInt8) :
    skimValue? (fuel + 1) frames (f.opening :: (before ++ f.close :: rest))
      = skimAfter? fuel frames rest := by
  rw [skimValue?, skipBlank_cons (solid_opening f)]
  simp only [ofOpen?_opening, skipBlank_append h, skipBlank_cons (solid_close f), if_true]

theorem skimValue?_opening {c : UInt8} {more : List UInt8} (hskip : skipBlank bs = c :: more)
    (hc : c ≠ f.close) : skimValue? (fuel + 1) frames (f.opening :: bs)
      = (f.toValue? bs).bind (skimValue? fuel (f :: frames)) := by
  rw [skimValue?, skipBlank_cons (solid_opening f)]
  simp only [ofOpen?_opening, hskip, if_neg hc]
  rw [← bind_toValue?_skipBlank f bs, hskip]

theorem skimAfter?_close (h : IsBlank before) (rest : List UInt8) :
    skimAfter? (fuel + 1) (f :: frames) (before ++ f.close :: rest)
      = skimAfter? fuel frames rest := by
  rw [skimAfter?, skipBlank_append h, skipBlank_cons (solid_close f)]
  exact if_pos rfl

theorem skimAfter?_comma (h : IsBlank before) (rest : List UInt8) :
    skimAfter? (fuel + 1) (f :: frames) (before ++ Ascii.byte ',' :: rest)
      = (f.toValue? rest).bind (skimValue? fuel (f :: frames)) := by
  have hcomma : Ascii.byte ',' ≠ f.close := by cases f <;> decide
  rw [skimAfter?, skipBlank_append h, skipBlank_cons (by decide)]
  simp only [if_neg hcomma, if_true]

/-! ### Values of any depth -/

/-- The text is passed over as an element of a frame: fuel for every byte is enough, and as much is
left for the bytes behind it. An element of an array is a value, in front of which a frame asks for
nothing. -/
def PassedIn (f : Frame) (front : List UInt8) : Prop :=
  ∀ ⦃fuel : Nat⦄ (frames : List Frame) ⦃rest : List UInt8⦄, Ends rest →
    (front ++ rest).length ≤ fuel → ∃ left, rest.length ≤ left ∧
      (f.toValue? (front ++ rest)).bind (skimValue? fuel frames) = skimAfter? left frames rest

theorem passedIn_blank (hbefore : IsBlank before) (h : PassedIn .array front) :
    PassedIn .array (before ++ front) := by
  intro fuel frames rest hrest hfuel
  rw [List.append_assoc] at hfuel ⊢
  have hroom : (front ++ rest).length ≤ fuel := by
    rw [List.length_append] at hfuel
    omega
  obtain ⟨left, hleft, hpass⟩ := h frames hrest hroom
  refine ⟨left, hleft, Eq.trans ?_ hpass⟩
  exact skimValue?_congr (skipBlank_append hbefore _)

theorem passedIn_scalar (h : WritesScalar front tree) : PassedIn .array front := by
  intro fuel frames rest hrest hfuel
  obtain ⟨b, more, hfront, -⟩ := h.exists_head
  rw [hfront, List.cons_append, List.length_cons, List.length_append] at hfuel
  obtain ⟨left, rfl⟩ := Nat.exists_eq_succ_of_ne_zero (show fuel ≠ 0 by omega)
  exact ⟨left, by omega, skimValue?_scalar h hrest⟩

/-- A member is passed over, if its value is. -/
theorem passedIn_member {value : List UInt8 → α → Prop} {m : List Nat × α}
    (hvalue : ∀ {front a}, Led value front a → PassedIn .array front)
    (h : WritesMember value front m) : PassedIn .object front := by
  intro fuel frames rest hrest hfuel
  obtain @⟨before, content, between, bs, units, a, hbefore, hcontent, hbetween, hled⟩ := h
  simp only [List.append_assoc, List.cons_append] at hfuel ⊢
  have hroom : (bs ++ rest).length ≤ fuel := by
    refine Nat.le_trans ?_ hfuel
    simp only [List.length_append, List.length_cons]
    omega
  obtain ⟨left, hleft, hpass⟩ := hvalue hled frames hrest hroom
  refine ⟨left, hleft, ?_⟩
  rw [Frame.toValue?, skimName?_complete hbefore hcontent hbetween]
  exact hpass

/-- The elements of a list are passed over with the byte that closes it, if each element is. -/
theorem skimValue?_list {E : List UInt8 → α → Prop} {as : List α}
    (helement : ∀ {front a}, E front a → PassedIn f front) (h : WritesList E front as)
    (frames : List Frame) (rest : List UInt8) :
    ∀ {fuel : Nat}, (front ++ f.close :: rest).length ≤ fuel → ∃ left, rest.length ≤ left ∧
      (f.toValue? (front ++ f.close :: rest)).bind (skimValue? fuel (f :: frames))
        = skimAfter? left frames rest := by
  induction h with
  | @last bs behind a ha hbehind =>
    intro fuel hfuel
    rw [List.append_assoc] at hfuel ⊢
    obtain ⟨left, hleft, hpass⟩ := helement ha (f :: frames)
      (ends_append hbehind (ends_close f rest)) hfuel
    rw [List.length_append, List.length_cons] at hleft
    obtain ⟨left, rfl⟩ := Nat.exists_eq_succ_of_ne_zero (show left ≠ 0 by omega)
    exact ⟨left, by omega, hpass.trans (skimAfter?_close hbehind rest)⟩
  | @cons bs behind more a as ha hbehind _ ih =>
    intro fuel hfuel
    simp only [List.append_assoc, List.cons_append] at hfuel ⊢
    obtain ⟨left, hleft, hpass⟩ := helement ha (f :: frames)
      (ends_append hbehind (ends_comma (more ++ f.close :: rest))) hfuel
    rw [List.length_append, List.length_cons] at hleft
    obtain ⟨left, rfl⟩ := Nat.exists_eq_succ_of_ne_zero (show left ≠ 0 by omega)
    obtain ⟨last, hlast, hlater⟩ := @ih left (by omega)
    exact ⟨last, hlast, (hpass.trans (skimAfter?_comma hbehind _)).trans hlater⟩

/-- A list between its brackets is passed over, if each element is. -/
theorem passedIn_list {E : List UInt8 → α → Prop} {as : List α}
    (helement : ∀ {front a}, E front a → PassedIn f front)
    (hstart : ∀ {front a} rest, E front a →
      ∃ c more, skipBlank (front ++ rest) = c :: more ∧ c ≠ f.close)
    (h : WritesList E front as) : PassedIn .array (f.opening :: (front ++ [f.close])) := by
  intro fuel frames rest _ hfuel
  simp only [List.cons_append, List.append_assoc, List.length_cons] at hfuel ⊢
  obtain ⟨fuel, rfl⟩ := Nat.exists_eq_succ_of_ne_zero (show fuel ≠ 0 by omega)
  obtain ⟨left, hleft, hpass⟩ := skimValue?_list helement h frames rest
    (Nat.le_of_succ_le_succ hfuel)
  obtain ⟨first, a, last, hfirst, rfl⟩ := h.exists_head
  obtain ⟨c, more, hskip, hc⟩ := hstart (last ++ f.close :: rest) hfirst
  rw [← List.append_assoc] at hskip
  exact ⟨left, hleft, (skimValue?_opening hskip hc).trans hpass⟩

theorem passedIn_empty (h : IsBlank before) :
    PassedIn .array (f.opening :: (before ++ [f.close])) := by
  intro fuel frames rest _ hfuel
  simp only [List.cons_append, List.append_assoc, List.length_cons, List.length_append] at hfuel ⊢
  obtain ⟨fuel, rfl⟩ := Nat.exists_eq_succ_of_ne_zero (show fuel ≠ 0 by omega)
  exact ⟨fuel, by omega, skimValue?_blank h rest⟩

end

/-- **Every value is passed over**, however deep it is nested. -/
theorem passedIn_led {depth : Nat} (h : Led (Writes depth) front tree) : PassedIn .array front := by
  induction depth generalizing front tree with
  | zero =>
    obtain ⟨hbefore, hplain⟩ := h
    exact passedIn_blank hbefore (passedIn_scalar hplain)
  | succ depth ih =>
    obtain ⟨hbefore, hplain | hgroup⟩ := h
    · exact passedIn_blank hbefore (passedIn_scalar hplain)
    · refine passedIn_blank hbefore ?_
      cases hgroup with
      | noItems hblank => exact passedIn_empty (f := .array) hblank
      | noMembers hblank => exact passedIn_empty (f := .object) hblank
      | items hitems =>
        exact passedIn_list (f := .array) ih (fun rest hled => skipBlank_led hled rest) hitems
      | members hmembers =>
        exact passedIn_list (f := .object) (passedIn_member ih)
          (fun rest hmember => skipBlank_member hmember rest) hmembers

/-- The text behind a value. -/
theorem skim?_complete {depth : Nat} (h : Led (Writes depth) front tree) (hrest : Ends rest) :
    skim? (front ++ rest) = some rest := by
  obtain ⟨left, -, hpass⟩ := passedIn_led h [] hrest (Nat.le_succ _)
  exact hpass.trans (skimAfter?.eq_1 left rest)

/-- **The stretch of a value is its text**, with the blanks in front of it. -/
theorem readStretch?_complete {depth : Nat} (h : Led (Writes depth) front tree)
    (hrest : Ends rest) :
    ∃ s, readStretch? (front ++ rest) = some (s, rest) ∧ s.bytes = front := by
  refine ⟨⟨front ++ rest, rest⟩, by rw [readStretch?, skim?_complete h hrest]; rfl, ?_⟩
  simp [Stretch.bytes]

/-! ### Objects -/

theorem skipBlank_of_blank (h : IsBlank front) : skipBlank front = [] := by
  have hskip := skipBlank_append h []
  rwa [List.append_nil] at hskip

section
variable {before behind : List UInt8} {found : List (String × Stretch)}

/-- A text that opens an object is outlined as a group of members. -/
theorem readOutline?_object (hbefore : IsBlank before) (bs : List UInt8) :
    readOutline? (before ++ Frame.object.opening :: bs)
      = (readGroup? .object (readMember? readStretch?) bs).map
        fun (ms, rest) => (.object ms, rest) := by
  rw [readOutline?, skipBlank_append hbefore, skipBlank_cons (solid_opening .object)]
  simp only [ofOpen?_opening, outlineMembers?_eq]
  refine Eq.trans ?_ (map_readGroup? .object _ Outline.object bs)
  cases skipBlank bs <;> rfl

theorem outline?_of_group {bs : List UInt8} (hbefore : IsBlank before)
    (h : readGroup? .object (readMember? readStretch?) bs = some (found, behind))
    (hbehind : IsBlank behind) :
    outline? (before ++ Frame.object.opening :: bs) = some (.object found) := by
  rw [outline?, readOutline?_object hbefore, h, Option.map_some]
  simp only [skipBlank_of_blank hbehind, List.isEmpty_nil, if_true]

theorem outline?_of_no_group {bs : List UInt8} (hbefore : IsBlank before)
    (h : readGroup? .object (readMember? readStretch?) bs = none) :
    outline? (before ++ Frame.object.opening :: bs) = none := by
  rw [outline?, readOutline?_object hbefore, h, Option.map_none]

end

/-! ### Members as they are -/

/-- The text writes a value, and is kept as what the value is. -/
inductive IsValue : List UInt8 → List UInt8 → Prop
  | mk {depth : Nat} {bs : List UInt8} {tree : Tree} (h : Writes depth bs tree) : IsValue bs bs

/-- The texts of objects, blanks around them. A member is the units of its name and the text of its
value. -/
inductive WritesObject : List UInt8 → List (List Nat × List UInt8) → Prop
  | empty {before blank behind : List UInt8} (hbefore : IsBlank before) (hblank : IsBlank blank)
      (hbehind : IsBlank behind) :
    WritesObject (before ++ Ascii.byte '{' :: (blank ++ Ascii.byte '}' :: behind)) []
  | members {before bs behind : List UInt8} {members : List (List Nat × List UInt8)}
      (hbefore : IsBlank before) (h : WritesList (WritesMember IsValue) bs members)
      (hbehind : IsBlank behind) :
    WritesObject (before ++ Ascii.byte '{' :: (bs ++ Ascii.byte '}' :: behind)) members

/-- The members whose names are texts, each with its value if that can be read. -/
def namedValues (members : List (List Nat × List UInt8)) : List (String × Option Json) :=
  members.filterMap fun m => (textOfUnits? m.1).map fun name => (name, read? m.2)

/-- The names and values that an outline finds. -/
def foundValues (members : List (String × Stretch)) : List (String × Option Json) :=
  members.map fun m => (m.1, m.2.value?)

/-- A member of an outline has the name and the value of a member of an object, read or unread. -/
structure Finds (m : List Nat × List UInt8) (found : String × Stretch) : Prop where
  name : textOfUnits? m.1 = some found.1
  value : found.2.value? = read? m.2

section
variable {body : List UInt8} {members : List (List Nat × List UInt8)}

theorem foundValues_of_finds {found : List (String × Stretch)}
    (h : List.Forall₂ Finds members found) : foundValues found = namedValues members := by
  induction h with
  | nil => rfl
  | cons hm _ ih =>
    rw [foundValues] at ih
    rw [foundValues, List.map_cons, ih, hm.value]
    simp [namedValues, hm.name]

theorem readStretch?_value {value : List UInt8} (h : Led IsValue front value) (hrest : Ends rest) :
    ∃ s, readStretch? (front ++ rest) = some (s, rest) ∧ s.value? = read? value := by
  obtain ⟨hbefore, ⟨hwrites⟩⟩ := h
  obtain ⟨s, hread, hbytes⟩ := readStretch?_complete (.mk hbefore hwrites) hrest
  exact ⟨s, hread, by rw [Stretch.value?, hbytes, read?_append hbefore]⟩

theorem readMember?_value {m : List Nat × List UInt8} {name : String}
    (h : WritesMember IsValue front m) (hname : textOfUnits? m.1 = some name)
    (hrest : Ends rest) :
    ∃ found, readMember? readStretch? (front ++ rest) = some (found, rest) ∧ Finds m found := by
  obtain ⟨s, hread, hvalue⟩ := readMember?_complete (P := fun s => Stretch.value? s = read? m.2)
    readStretch?_value h hname hrest
  exact ⟨(name, s), hread, hname, hvalue⟩

/-- **The outline of an object with names that are texts** finds the value under each of them. -/
theorem outline?_of_named (h : WritesObject body members)
    (hnamed : ∀ m ∈ members, textOfUnits? m.1 ≠ none) :
    ∃ found, outline? body = some (.object found) ∧ foundValues found = namedValues members := by
  cases h with
  | empty hbefore hblank hbehind =>
    exact ⟨[], outline?_of_group hbefore (readGroup?_blank (f := .object) hblank _) hbehind, rfl⟩
  | members hbefore h hbehind =>
    have hmember : ∀ {front m rest}, WritesMember IsValue front m ∧ textOfUnits? m.1 ≠ none →
        Ends rest → ∃ found, readMember? readStretch? (front ++ rest) = some (found, rest) ∧
          Finds m found := by
      rintro front m rest ⟨hm, hname⟩ hrest
      obtain ⟨name, hname⟩ := Option.ne_none_iff_exists'.mp hname
      exact readMember?_value hm hname hrest
    obtain ⟨found, hread, hall⟩ := readGroup?_complete (f := .object) (P := Finds) hmember
      (fun rest ⟨hm, _⟩ => skipBlank_member hm rest) (h.and hnamed) _
    exact ⟨found, outline?_of_group hbefore hread hbehind, foundValues_of_finds hall⟩

/-- **An object with a name that is no text** has no outline. -/
theorem outline?_of_unnamed (h : WritesObject body members)
    (hunnamed : ∃ m ∈ members, textOfUnits? m.1 = none) : outline? body = none := by
  cases h with
  | empty _ _ _ =>
    obtain ⟨_, hm, _⟩ := hunnamed
    cases hm
  | members hbefore h _ =>
    refine outline?_of_no_group hbefore (readGroup?_refused (f := .object)
      (Q := fun m => textOfUnits? m.1 ≠ none) ?_ ?_ (fun rest hm => skipBlank_member hm rest) h
      (by simpa using hunnamed) _)
    · intro front m rest hm hrest hname
      obtain ⟨name, hname⟩ := Option.ne_none_iff_exists'.mp hname
      obtain ⟨found, hread, -⟩ := readMember?_value hm hname hrest
      exact ⟨found, hread⟩
    · exact fun rest hm hname => readMember?_refused hm (not_not.mp hname) rest

end

/-! ### What is written -/

/-- A natural number of 64 bits is read back. -/
theorem reads_natural {depth n : Nat} (hn : n ≤ Number.maxNatural) :
    Reads depth (encode (render (int n))) (int n) := by
  rw [Number.encode_render_int]
  refine ⟨_, .scalar (.number (Number.spells_decimal n)), ?_⟩
  rw [StandsFor, Tree.value?, Number.value?_decimal hn]
  rfl

/-- The member as it is written. -/
def writtenMember (m : String × Json) : List Nat × List UInt8 :=
  (m.1.toList.map Char.toNat, encode m.2.render)

/-- **An object that is written** is one of the grammar. -/
theorem writesObject_compact {depth : Nat} {ms : List (String × Json)}
    (h : ∀ m ∈ ms, Reads depth (encode m.2.render) m.2) :
    WritesObject (Utf8.bytes (Json.object ms).compact) (ms.map writtenMember) := by
  rw [Utf8.bytes, compact, String.toList_ofList, render, Utf8.encode_cons]
  cases ms with
  | nil => exact .empty isBlank_nil isBlank_nil isBlank_nil
  | cons m ms =>
    have hmember : ∀ member ∈ m :: ms, WritesMember IsValue
        (encode (renderText member.1) ++ Ascii.byte ':' :: encode member.2.render)
          (writtenMember member) := by
      intro member hmem
      obtain ⟨tree, hwrites, -⟩ := h member hmem
      have hvalue : IsValue (encode member.2.render) (encode member.2.render) := .mk hwrites
      exact writesMember_render member.1 hvalue
    obtain ⟨front, hfront, hlist⟩ := writesList_renderMembers
      (E := fun bs member => WritesMember IsValue bs (writtenMember member)) (m :: ms) hmember
      (List.cons_ne_nil m ms)
    rw [hfront]
    exact .members isBlank_nil (hlist.map fun hm => hm) isBlank_nil

theorem named_writtenMember (m : String × Json) :
    textOfUnits? (writtenMember m).1 = some m.1 :=
  textOfUnits?_map_toNat m.1

/-- The members of an object that is written stand under their names with their values. -/
theorem namedValues_writtenMember {ms : List (String × Json)}
    (h : ∀ m ∈ ms, Reads maxDepth (encode m.2.render) m.2) :
    namedValues (ms.map writtenMember) = ms.map fun m => (m.1, some m.2) := by
  have hvalue : ∀ m ∈ ms, read? (encode m.2.render) = some m.2 := by
    intro m hm
    obtain ⟨tree, hwrites, hstands⟩ := h m hm
    have htext := WritesText.mk (.solid hwrites) isBlank_nil
    rw [List.append_nil] at htext
    exact read?_eq_some_iff.mpr ⟨tree, htext, hstands⟩
  rw [namedValues, List.filterMap_map, ← List.filterMap_eq_map]
  refine List.filterMap_congr fun m hm => ?_
  rw [Function.comp_apply, named_writtenMember, writtenMember, hvalue m hm]
  rfl

end PurgeGateway.Json
