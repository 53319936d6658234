import PurgeGateway.Json.Outline
import Mathlib.Data.List.Forall2
import Mathlib.Data.List.TakeDrop
import Mathlib.Data.List.TakeWhile

/-!
# The grammar of JSON lists

The items of an array, the members of an object and the members of an outline are lists of the same
form: elements with a comma between two of them, up to a closing byte. What an element is does not
matter to the list, so the grammar and the reader are those of elements in general. The reader of
lists is sound if the reader of elements is; and it takes every list, if the reader of elements
takes every element in front of what may follow it.

## Main definitions

* `IsBlank`: bytes that may stand between tokens.
* `Ends`: a text in front of which a value ends.
* `WritesList`: the texts that write a list of elements.
* `readList?`: the reader of lists.
* `readGroup?`: the reader of lists that may have no elements.

## Main results

* `readList?_sound`, `readList?_complete`: the reader takes the lists of the grammar.
* `readGroup?_sound`, `readGroup?_complete`: so does the reader of groups.
* `readItems?_eq`, `readMembers?_eq`, `outlineMembers?_eq`: the three readers are this one.
-/

namespace PurgeGateway.Json

variable {α β : Type} {bs front rest before behind : List UInt8}

/-! ### Blanks and words -/

/-- The bytes may stand between tokens. -/
def IsBlank (bs : List UInt8) : Prop :=
  ∀ b ∈ bs, isBlankByte b = true

theorem isBlank_nil : IsBlank [] :=
  List.forall_mem_nil _

theorem skipBlank_append (h : IsBlank before) (rest : List UInt8) :
    skipBlank (before ++ rest) = skipBlank rest :=
  List.dropWhile_append_of_pos h

theorem skipBlank_cons {b : UInt8} (h : isBlankByte b = false) (rest : List UInt8) :
    skipBlank (b :: rest) = b :: rest := by
  rw [skipBlank, List.dropWhile_cons_of_neg (by simp [h])]

/-- A text is blanks and what is left without them. -/
theorem exists_skipBlank (bs : List UInt8) :
    ∃ before, IsBlank before ∧ bs = before ++ skipBlank bs :=
  ⟨bs.takeWhile isBlankByte, fun _ hb => List.mem_takeWhile_imp hb,
    List.takeWhile_append_dropWhile.symm⟩

theorem readWord?_eq_some_iff {w : List UInt8} : readWord? w bs = some rest ↔ bs = w ++ rest :=
  List.isPrefixOf?_eq_some_iff_append_eq.trans eq_comm

theorem readWord?_append (w rest : List UInt8) : readWord? w (w ++ rest) = some rest :=
  readWord?_eq_some_iff.mpr rfl

theorem solid_close (f : Frame) : isBlankByte f.close = false := by
  cases f <;> decide

/-- A value ends in front of the text: there is nothing, a blank, a comma or a closing byte. -/
def Ends (rest : List UInt8) : Prop :=
  ∀ b ∈ rest.head?, isBlankByte b = true ∨ b = Ascii.byte ',' ∨ b = Ascii.byte ']' ∨
    b = Ascii.byte '}'

theorem ends_nil : Ends [] := by
  intro b hb
  cases hb

theorem ends_append (h : IsBlank behind) (hrest : Ends rest) : Ends (behind ++ rest) := by
  cases behind with
  | nil => exact hrest
  | cons b behind =>
    intro c hc
    obtain rfl := Option.some.inj hc
    exact .inl (h b List.mem_cons_self)

theorem ends_comma (rest : List UInt8) : Ends (Ascii.byte ',' :: rest) := by
  intro b hb
  exact .inr (.inl (Option.some.inj hb).symm)

theorem ends_close (f : Frame) (rest : List UInt8) : Ends (f.close :: rest) := by
  intro b hb
  obtain rfl := Option.some.inj hb
  cases f with
  | array => exact .inr (.inr (.inl rfl))
  | object => exact .inr (.inr (.inr rfl))

/-! ### Lists -/

/-- The texts that write a list of elements: a comma between two of them, blanks behind each. -/
inductive WritesList (element : List UInt8 → α → Prop) : List UInt8 → List α → Prop
  | last {bs behind : List UInt8} {a : α} (h : element bs a) (hbehind : IsBlank behind) :
    WritesList element (bs ++ behind) [a]
  | cons {bs behind more : List UInt8} {a : α} {as : List α} (h : element bs a)
      (hbehind : IsBlank behind) (hmore : WritesList element more as) :
    WritesList element (bs ++ (behind ++ Ascii.byte ',' :: more)) (a :: as)

variable {E : List UInt8 → α → Prop} {P : α → β → Prop} {as : List α} {a : α}

/-- The elements of a list may be taken for something else one by one. -/
theorem writesList_exists_iff {cs : List β} :
    WritesList (fun bs c => ∃ a, E bs a ∧ P a c) front cs
      ↔ ∃ as, WritesList E front as ∧ List.Forall₂ P as cs := by
  constructor
  · intro h
    induction h with
    | last h hbehind =>
      obtain ⟨a, ha, hp⟩ := h
      exact ⟨[a], .last ha hbehind, .cons hp .nil⟩
    | cons h hbehind _ ih =>
      obtain ⟨a, ha, hp⟩ := h
      obtain ⟨as, has, hall⟩ := ih
      exact ⟨a :: as, .cons ha hbehind has, .cons hp hall⟩
  · rintro ⟨as, h, hall⟩
    induction h generalizing cs with
    | last h hbehind =>
      cases hall with
      | cons hp hnil =>
        cases hnil
        exact .last ⟨_, h, hp⟩ hbehind
    | cons h hbehind _ ih =>
      cases hall with
      | cons hp hall => exact .cons ⟨_, h, hp⟩ hbehind (ih hall)

theorem WritesList.map {F : List UInt8 → β → Prop} {f : α → β}
    (helement : ∀ {bs a}, E bs a → F bs (f a)) (h : WritesList E front as) :
    WritesList F front (as.map f) := by
  induction h with
  | last h hbehind => exact .last (helement h) hbehind
  | cons h hbehind _ ih => exact .cons (helement h) hbehind ih

/-- What is known of the elements may be taken into the grammar. -/
theorem WritesList.and {Q : α → Prop} (h : WritesList E front as) (hall : ∀ a ∈ as, Q a) :
    WritesList (fun bs a => E bs a ∧ Q a) front as := by
  induction h with
  | last h hbehind => exact .last ⟨h, hall _ List.mem_cons_self⟩ hbehind
  | cons h hbehind _ ih =>
    exact .cons ⟨h, hall _ List.mem_cons_self⟩ hbehind
      (ih fun a ha => hall a (List.mem_cons_of_mem _ ha))

/-- There is a comma in front of each element but the first. -/
theorem WritesList.length_le (h : WritesList E front as) : as.length ≤ front.length + 1 := by
  induction h with
  | last _ _ => simp
  | cons _ _ _ ih => simp only [List.length_append, List.length_cons]; omega

/-- A list starts with its first element. -/
theorem WritesList.exists_head (h : WritesList E front as) :
    ∃ first a more, E first a ∧ front = first ++ more := by
  cases h with
  | last h _ => exact ⟨_, _, _, h, rfl⟩
  | cons h _ _ => exact ⟨_, _, _, h, rfl⟩

/-- The elements up to the closing byte, behind those given backwards, and the text behind it. -/
def readList? (close : UInt8) (element : List UInt8 → Option (α × List UInt8)) :
    Nat → List α → List UInt8 → Option (List α × List UInt8)
  | 0, _, _ => none
  | fuel + 1, done, bs => do
    let (a, rest) ← element bs
    match skipBlank rest with
    | b :: rest =>
      if b = Ascii.byte ',' then readList? close element fuel (a :: done) rest
      else if b = close then some ((a :: done).reverse, rest)
      else none
    | [] => none

section
variable {close : UInt8} {element : List UInt8 → Option (α × List UInt8)}

/-- **What is read is a list**, if what is read as an element is one. -/
theorem readList?_sound
    (helement : ∀ {bs a rest}, element bs = some (a, rest) →
      ∃ front, bs = front ++ rest ∧ E front a)
    {fuel : Nat} {done all : List α} (h : readList? close element fuel done bs = some (all, rest)) :
    ∃ front as, bs = front ++ close :: rest ∧ all = done.reverse ++ as ∧ WritesList E front as := by
  induction fuel generalizing done bs with
  | zero => cases h
  | succ fuel ih =>
    simp only [readList?, Option.bind_eq_bind, Option.bind_eq_some_iff, Prod.exists] at h
    obtain ⟨a, left, ha, h⟩ := h
    obtain ⟨first, rfl, hfirst⟩ := helement ha
    obtain ⟨behind, hbehind, hleft⟩ := exists_skipBlank left
    split at h
    · next b more hskip =>
      rw [hskip] at hleft
      rw [hleft]
      split at h
      · next hcomma =>
        obtain ⟨later, as, rfl, rfl, hlater⟩ := ih h
        refine ⟨_, a :: as, ?_, ?_, .cons hfirst hbehind hlater⟩
        · rw [hcomma]
          simp only [List.append_assoc, List.cons_append]
        · simp
      · split at h
        · next hclose =>
          obtain ⟨rfl, rfl⟩ := Prod.mk.inj (Option.some.inj h)
          refine ⟨_, [a], ?_, List.reverse_cons, .last hfirst hbehind⟩
          rw [hclose, List.append_assoc]
        · cases h
    · cases h

end

section
variable {f : Frame} {element : List UInt8 → Option (β × List UInt8)}

/-- **A list is read**, if each of its elements is, in front of what may follow it. -/
theorem readList?_complete
    (helement : ∀ {front a rest}, E front a → Ends rest →
      ∃ b, element (front ++ rest) = some (b, rest) ∧ P a b)
    (h : WritesList E front as) (rest : List UInt8) :
    ∀ {fuel : Nat} (done : List β), as.length ≤ fuel →
      ∃ all, readList? f.close element fuel done (front ++ f.close :: rest)
        = some (done.reverse ++ all, rest) ∧ List.Forall₂ P as all := by
  have hcomma : f.close ≠ Ascii.byte ',' := by cases f <;> decide
  induction h with
  | @last bs behind a ha hbehind =>
    rintro (_ | fuel) done hfuel
    · cases hfuel
    obtain ⟨b, hread, hp⟩ := helement ha (ends_append hbehind (ends_close f rest))
    have hskip : skipBlank (behind ++ f.close :: rest) = f.close :: rest := by
      rw [skipBlank_append hbehind, skipBlank_cons (solid_close f)]
    refine ⟨[b], ?_, .cons hp .nil⟩
    rw [List.append_assoc, readList?, hread]
    simp [hskip, hcomma]
  | @cons bs behind more a as ha hbehind _ ih =>
    rintro (_ | fuel) done hfuel
    · cases hfuel
    obtain ⟨b, hread, hp⟩ :=
      helement ha (ends_append hbehind (ends_comma (more ++ f.close :: rest)))
    obtain ⟨all, hlater, hall⟩ := ih (b :: done) (Nat.le_of_succ_le_succ hfuel)
    have hskip : skipBlank (behind ++ Ascii.byte ',' :: (more ++ f.close :: rest))
        = Ascii.byte ',' :: (more ++ f.close :: rest) := by
      rw [skipBlank_append hbehind, skipBlank_cons (by decide)]
    refine ⟨b :: all, ?_, .cons hp hall⟩
    rw [List.append_assoc, List.append_assoc, List.cons_append, readList?, hread]
    simp [hskip, hlater]

/-- **A list is refused**, if one of its elements is and each of the others is read. -/
theorem readList?_refused {Q : α → Prop}
    (helement : ∀ {front a rest}, E front a → Ends rest → Q a →
      ∃ b, element (front ++ rest) = some (b, rest))
    (hrefused : ∀ {front a} rest, E front a → ¬Q a → element (front ++ rest) = none)
    (h : WritesList E front as) (hsome : ∃ a ∈ as, ¬Q a) (rest : List UInt8) :
    ∀ (fuel : Nat) (done : List β),
      readList? f.close element fuel done (front ++ f.close :: rest) = none := by
  have hfirst : ∀ {bs a} rest fuel done, E bs a → ¬Q a →
      readList? f.close element fuel done (bs ++ rest) = none := by
    rintro bs a rest (_ | fuel) done ha hnot
    · rfl
    · rw [readList?, hrefused rest ha hnot]
      rfl
  induction h with
  | last ha _ =>
    intro fuel done
    rw [List.append_assoc]
    exact hfirst _ fuel done ha (by simpa using hsome)
  | @cons bs behind more a as ha hbehind _ ih =>
    intro fuel done
    simp only [List.append_assoc, List.cons_append]
    by_cases hq : Q a
    · cases fuel with
      | zero => rfl
      | succ fuel =>
        obtain ⟨b, hread⟩ := helement ha
          (ends_append hbehind (ends_comma (more ++ f.close :: rest))) hq
        have hskip : skipBlank (behind ++ Ascii.byte ',' :: (more ++ f.close :: rest))
            = Ascii.byte ',' :: (more ++ f.close :: rest) := by
          rw [skipBlank_append hbehind, skipBlank_cons (by decide)]
        have hlater := ih (by simpa [hq] using hsome) fuel (b :: done)
        rw [readList?, hread]
        simp [hskip, hlater]
    · exact hfirst _ fuel done ha hq

end

/-! ### Groups -/

/-- The elements behind an opening byte up to the closing one, if there are any. -/
def readGroup? (f : Frame) (element : List UInt8 → Option (α × List UInt8)) (bs : List UInt8) :
    Option (List α × List UInt8) :=
  match skipBlank bs with
  | [] => none
  | c :: more =>
    if c = f.close then some ([], more) else readList? f.close element bs.length [] bs

theorem readGroup?_of_cons {f : Frame} {element : List UInt8 → Option (α × List UInt8)} {c : UInt8}
    {more : List UInt8} (hskip : skipBlank bs = c :: more) : readGroup? f element bs
      = if c = f.close then some ([], more) else readList? f.close element bs.length [] bs := by
  rw [readGroup?, hskip]

/-- A reader that does the same and makes something else of the elements. -/
theorem map_readGroup? {γ : Type} (f : Frame) (element : List UInt8 → Option (α × List UInt8))
    (make : List α → γ) (bs : List UInt8) :
    (match skipBlank bs with
      | [] => none
      | c :: more =>
        if c = f.close then some (make [], more)
        else (readList? f.close element bs.length [] bs).map fun (as, rest) => (make as, rest))
      = (readGroup? f element bs).map fun (as, rest) => (make as, rest) := by
  rw [readGroup?]
  cases skipBlank bs with
  | nil => rfl
  | cons c more =>
    simp only
    split <;> rfl

/-- **What is read as a group is blank or a list**, if what is read as an element is one. -/
theorem readGroup?_sound {f : Frame} {element : List UInt8 → Option (α × List UInt8)}
    (helement : ∀ {bs a rest}, element bs = some (a, rest) →
      ∃ front, bs = front ++ rest ∧ E front a)
    (h : readGroup? f element bs = some (as, rest)) :
    ∃ front, bs = front ++ f.close :: rest ∧ (IsBlank front ∧ as = [] ∨ WritesList E front as) := by
  obtain ⟨blank, hblank, hbs⟩ := exists_skipBlank bs
  rw [readGroup?] at h
  split at h
  · cases h
  · next c more hskip =>
    split at h
    · next hclose =>
      obtain ⟨rfl, rfl⟩ := Prod.mk.inj (Option.some.inj h)
      exact ⟨blank, by rw [hbs, hskip, hclose], .inl ⟨hblank, rfl⟩⟩
    · obtain ⟨front, all, hfront, hall, hlist⟩ := readList?_sound helement h
      rw [List.reverse_nil, List.nil_append] at hall
      exact ⟨front, hfront, .inr (hall ▸ hlist)⟩

section
variable {f : Frame} {element : List UInt8 → Option (β × List UInt8)}

theorem readGroup?_blank (h : IsBlank front) (rest : List UInt8) :
    readGroup? f element (front ++ f.close :: rest) = some ([], rest) := by
  have hskip : skipBlank (front ++ f.close :: rest) = f.close :: rest := by
    rw [skipBlank_append h, skipBlank_cons (solid_close f)]
  rw [readGroup?_of_cons hskip, if_pos rfl]

/-- A group of elements is a list, if none starts with the closing byte. -/
theorem readGroup?_of_list
    (hstart : ∀ {front a} rest, E front a →
      ∃ c more, skipBlank (front ++ rest) = c :: more ∧ c ≠ f.close)
    (h : WritesList E front as) (rest : List UInt8) :
    readGroup? f element (front ++ f.close :: rest)
      = readList? f.close element (front ++ f.close :: rest).length []
          (front ++ f.close :: rest) := by
  obtain ⟨first, a, last, hfirst, rfl⟩ := h.exists_head
  obtain ⟨c, more, hskip, hc⟩ := hstart (last ++ f.close :: rest) hfirst
  rw [← List.append_assoc] at hskip
  rw [readGroup?_of_cons hskip, if_neg hc]

/-- **A group is read**, if its elements are and start with another byte than the closing one. -/
theorem readGroup?_complete
    (helement : ∀ {front a rest}, E front a → Ends rest →
      ∃ b, element (front ++ rest) = some (b, rest) ∧ P a b)
    (hstart : ∀ {front a} rest, E front a →
      ∃ c more, skipBlank (front ++ rest) = c :: more ∧ c ≠ f.close)
    (h : WritesList E front as) (rest : List UInt8) :
    ∃ all, readGroup? f element (front ++ f.close :: rest) = some (all, rest) ∧
      List.Forall₂ P as all := by
  have hroom : as.length ≤ (front ++ f.close :: rest).length := by
    have hlength := h.length_le
    rw [List.length_append, List.length_cons]
    omega
  rw [readGroup?_of_list hstart h]
  exact readList?_complete (E := E) (f := f) helement h rest [] hroom

/-- A group is refused, if one of its elements is and each of the others is read. -/
theorem readGroup?_refused {Q : α → Prop}
    (helement : ∀ {front a rest}, E front a → Ends rest → Q a →
      ∃ b, element (front ++ rest) = some (b, rest))
    (hrefused : ∀ {front a} rest, E front a → ¬Q a → element (front ++ rest) = none)
    (hstart : ∀ {front a} rest, E front a →
      ∃ c more, skipBlank (front ++ rest) = c :: more ∧ c ≠ f.close)
    (h : WritesList E front as) (hsome : ∃ a ∈ as, ¬Q a) (rest : List UInt8) :
    readGroup? f element (front ++ f.close :: rest) = none := by
  rw [readGroup?_of_list hstart h]
  exact readList?_refused (E := E) helement hrefused h hsome rest _ []

end

/-! ### The readers -/

theorem readItems?_eq (item : List UInt8 → Option (Json × List UInt8)) (fuel : Nat) :
    ∀ done bs, readItems? item fuel done bs = readList? (Ascii.byte ']') item fuel done bs := by
  induction fuel with
  | zero => exact fun _ _ => rfl
  | succ fuel ih =>
    intro done bs
    simp only [readItems?, ih]
    rfl

/-- A member: its name, and its value read by `item`. -/
def readMember? (item : List UInt8 → Option (α × List UInt8)) (bs : List UInt8) :
    Option ((String × α) × List UInt8) := do
  let (name, rest) ← readName? bs
  let (a, rest) ← item rest
  some ((name, a), rest)

theorem readMembers?_eq (item : List UInt8 → Option (Json × List UInt8)) (fuel : Nat) :
    ∀ done bs, readMembers? item fuel done bs
      = readList? (Ascii.byte '}') (readMember? item) fuel done bs := by
  induction fuel with
  | zero => exact fun _ _ => rfl
  | succ fuel ih =>
    intro done bs
    symm
    simp only [readList?, readMember?, ← ih, Option.bind_eq_bind, Option.bind_assoc,
      Option.bind_some]
    rfl

/-- A value as a stretch of the text. -/
def readStretch? (bs : List UInt8) : Option (Stretch × List UInt8) :=
  (skim? bs).map fun behind => (⟨bs, behind⟩, behind)

theorem outlineMembers?_eq (fuel : Nat) :
    ∀ done bs, outlineMembers? fuel done bs
      = readList? (Ascii.byte '}') (readMember? readStretch?) fuel done bs := by
  induction fuel with
  | zero => exact fun _ _ => rfl
  | succ fuel ih =>
    intro done bs
    symm
    simp only [readList?, readMember?, readStretch?, ← ih, Option.bind_eq_bind,
      Option.bind_assoc, Option.bind_some, Option.bind_map, Function.comp_def]
    rfl

end PurgeGateway.Json
