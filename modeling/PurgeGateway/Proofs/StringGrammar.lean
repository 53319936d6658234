import PurgeGateway.Json.Outline
import PurgeGateway.Json.Printer
import PurgeGateway.Proofs.Decoding

/-!
# The grammar of JSON strings

Inside its quotes a string is made of units: characters as themselves, short escapes, and numbers of
four digits. A number may be half of a surrogate pair; then it is no character by itself, and the
units stand for characters only if each half has its partner.

The reader takes a string if and only if it is spelled so and its units stand for characters. What
it puts together are bytes, not characters, and a byte that continues a sequence could come from
elsewhere than its first byte. It cannot: what stands for an escape starts a sequence of its own, so
the bytes of a character are next to each other in the text.

## Main definitions

* `charsOf?`: the characters that units stand for.
* `SpellsUnits`: the texts that spell units.

## Main results

* `readText?_eq_some_iff`: what the reader takes for a string.
* `skimText?_of_spells`: what is passed over as a string.
* `spellsUnits_render`: what the writer writes.
-/

namespace PurgeGateway.Json

open Utf8 (encode)

variable {bs rest front content : List UInt8} {units : List Nat} {cs : List Char} {c : Char}

/-! ### Units -/

/-- The number is the high half of a surrogate pair. -/
def isHigh (n : Nat) : Bool :=
  0xd800 ≤ n && n ≤ 0xdbff

/-- The number is the low half of a surrogate pair. -/
def isLow (n : Nat) : Bool :=
  0xdc00 ≤ n && n ≤ 0xdfff

/-- The characters that units stand for, if every half of a pair has its partner. -/
def charsOf? : List Nat → Option (List Char)
  | [] => some []
  | n :: rest =>
    if isLow n then none
    else if isHigh n then
      match rest with
      | low :: rest => if isLow low then (charsOf? rest).map (pairChar n low :: ·) else none
      | [] => none
    else (charsOf? rest).map (Char.ofNat n :: ·)

/-- The texts that spell units inside the quotes of a string. -/
inductive SpellsUnits : List UInt8 → List Nat → Prop
  | nil : SpellsUnits [] []
  | plain {c : Char} {content : List UInt8} {units : List Nat} (hquote : c ≠ '"')
      (hbackslash : c ≠ '\\') (hcontrol : 0x20 ≤ c.toNat) (h : SpellsUnits content units) :
    SpellsUnits (String.utf8EncodeChar c ++ content) (c.toNat :: units)
  | short {e : UInt8} {c : Char} {content : List UInt8} {units : List Nat}
      (hshort : shortEscape? e = some c) (h : SpellsUnits content units) :
    SpellsUnits (Ascii.byte '\\' :: e :: content) (c.toNat :: units)
  | code {d₁ d₂ d₃ d₄ : UInt8} {n : Nat} {content : List UInt8} {units : List Nat}
      (hcode : hexFour? d₁ d₂ d₃ d₄ = some n) (h : SpellsUnits content units) :
    SpellsUnits (Ascii.byte '\\' :: Ascii.byte 'u' :: d₁ :: d₂ :: d₃ :: d₄ :: content) (n :: units)

theorem not_surrogate (c : Char) : isLow c.toNat = false ∧ isHigh c.toNat = false := by
  have hvalid : c.toNat < 0xd800 ∨ 0xdfff < c.toNat ∧ c.toNat < 0x110000 := c.valid
  constructor
  · rw [isLow, Bool.and_eq_false_iff, decide_eq_false_iff_not, decide_eq_false_iff_not]
    omega
  · rw [isHigh, Bool.and_eq_false_iff, decide_eq_false_iff_not, decide_eq_false_iff_not]
    omega

theorem isLow_eq_false_of_isHigh {n : Nat} (h : isHigh n = true) : isLow n = false := by
  rw [isHigh, Bool.and_eq_true, decide_eq_true_eq, decide_eq_true_eq] at h
  rw [isLow, Bool.and_eq_false_iff, decide_eq_false_iff_not, decide_eq_false_iff_not]
  omega

theorem charsOf?_cons {n : Nat} (hlow : isLow n = false) (hhigh : isHigh n = false)
    (units : List Nat) : charsOf? (n :: units) = (charsOf? units).map (Char.ofNat n :: ·) := by
  rw [charsOf?.eq_def]
  simp [hlow, hhigh]

theorem charsOf?_cons_char (c : Char) (units : List Nat) :
    charsOf? (c.toNat :: units) = (charsOf? units).map (c :: ·) := by
  rw [charsOf?_cons (not_surrogate c).1 (not_surrogate c).2, Char.ofNat_toNat]

theorem charsOf?_pair {n low : Nat} (hhigh : isHigh n = true) (hlow : isLow low = true)
    (units : List Nat) :
    charsOf? (n :: low :: units) = (charsOf? units).map (pairChar n low :: ·) := by
  simp [charsOf?, hhigh, hlow, isLow_eq_false_of_isHigh hhigh]

/-- The characters of a text are units of their own. -/
theorem charsOf?_map_toNat (cs : List Char) : charsOf? (cs.map Char.toNat) = some cs := by
  induction cs with
  | nil => rfl
  | cons c cs ih => rw [List.map_cons, charsOf?_cons_char, ih]; rfl

/-! ### Escapes -/

theorem readLow?_eq_some_iff {low : Nat} : readLow? bs = some (low, rest) ↔
    ∃ d₁ d₂ d₃ d₄,
      bs = Ascii.byte '\\' :: Ascii.byte 'u' :: d₁ :: d₂ :: d₃ :: d₄ :: rest ∧
        hexFour? d₁ d₂ d₃ d₄ = some low ∧ isLow low = true := by
  constructor
  · intro h
    unfold readLow? at h
    split at h
    · next backslash u d₁ d₂ d₃ d₄ behind =>
      split at h
      · next n hcode =>
        split at h
        · next hall =>
          obtain ⟨hbackslash, hu, hlow, hhigh⟩ := hall
          obtain ⟨rfl, rfl⟩ := Prod.mk.inj (Option.some.inj h)
          exact ⟨d₁, d₂, d₃, d₄, by rw [hbackslash, hu], hcode, by simp [isLow, hlow, hhigh]⟩
        · cases h
      · cases h
    · cases h
  · rintro ⟨d₁, d₂, d₃, d₄, rfl, hcode, hlow⟩
    rw [isLow, Bool.and_eq_true, decide_eq_true_eq, decide_eq_true_eq] at hlow
    simp [readLow?, hcode, hlow]

/-- The character of a number, with the partner that stands behind it if it needs one. -/
theorem readCode?_cons {d₁ d₂ d₃ d₄ : UInt8} {n : Nat} (hcode : hexFour? d₁ d₂ d₃ d₄ = some n) :
    readCode? (d₁ :: d₂ :: d₃ :: d₄ :: bs)
      = if isLow n then none
        else if isHigh n then (readLow? bs).map fun p => (pairChar n p.1, p.2)
        else some (Char.ofNat n, bs) := by
  simp only [readCode?, hcode, isLow, isHigh, Bool.and_eq_true, decide_eq_true_eq]
  cases readLow? bs <;> rfl

theorem exists_of_readCode? (h : readCode? bs = some (c, rest)) :
    ∃ d₁ d₂ d₃ d₄ n more, bs = d₁ :: d₂ :: d₃ :: d₄ :: more ∧ hexFour? d₁ d₂ d₃ d₄ = some n := by
  unfold readCode? at h
  split at h
  · next d₁ d₂ d₃ d₄ more =>
    split at h
    · next n hcode => exact ⟨d₁, d₂, d₃, d₄, n, more, rfl, hcode⟩
    · cases h
  · cases h

/-- The escape spells units that stand for one character. -/
structure IsEscape (front : List UInt8) (c : Char) (here : List Nat) : Prop where
  spells : ∀ {content units}, SpellsUnits content units →
    SpellsUnits (Ascii.byte '\\' :: (front ++ content)) (here ++ units)
  stands : ∀ units, charsOf? (here ++ units) = (charsOf? units).map (c :: ·)

theorem isEscape_of_readCode? (h : readCode? bs = some (c, rest)) :
    ∃ front here, bs = front ++ rest ∧ IsEscape (Ascii.byte 'u' :: front) c here := by
  obtain ⟨d₁, d₂, d₃, d₄, n, more, rfl, hcode⟩ := exists_of_readCode? h
  rw [readCode?_cons hcode] at h
  split at h
  · cases h
  next hlow =>
  split at h
  · next hhigh =>
    obtain ⟨⟨low, left⟩, hpair, heq⟩ := Option.map_eq_some_iff.mp h
    obtain ⟨rfl, rfl⟩ := Prod.mk.inj heq
    obtain ⟨e₁, e₂, e₃, e₄, rfl, hsecond, hpartner⟩ := readLow?_eq_some_iff.mp hpair
    refine ⟨[d₁, d₂, d₃, d₄, Ascii.byte '\\', Ascii.byte 'u', e₁, e₂, e₃, e₄], [n, low], rfl,
      ?_, charsOf?_pair hhigh hpartner⟩
    exact fun hcontent => .code hcode (.code hsecond hcontent)
  · next hhigh =>
    obtain ⟨rfl, rfl⟩ := Prod.mk.inj (Option.some.inj h)
    refine ⟨[d₁, d₂, d₃, d₄], [n], rfl, fun hcontent => .code hcode hcontent, ?_⟩
    exact charsOf?_cons (Bool.not_eq_true _ ▸ hlow) (Bool.not_eq_true _ ▸ hhigh)

/-- An escape that is read is one. -/
theorem isEscape_of_readEscape? (h : readEscape? bs = some (c, rest)) :
    ∃ front here, bs = front ++ rest ∧ IsEscape front c here := by
  unfold readEscape? at h
  split at h
  · next e more =>
    split at h
    · next hu =>
      obtain ⟨front, here, hfront, hescape⟩ := isEscape_of_readCode? h
      exact ⟨Ascii.byte 'u' :: front, here, by rw [hu, hfront]; rfl, hescape⟩
    · split at h
      · next hshort =>
        obtain ⟨rfl, rfl⟩ := Prod.mk.inj (Option.some.inj h)
        refine ⟨[e], [_], rfl, fun hcontent => .short hshort hcontent, charsOf?_cons_char _⟩
      · cases h
  · cases h

/-! ### One step of the reader -/

theorem stringBytes?_quote (done rest : List UInt8) :
    stringBytes? done (Ascii.byte '"' :: rest) = some (done.reverse, rest) := by
  rw [stringBytes?, if_pos rfl]

theorem stringBytes?_escaped {more : List UInt8} (h : readEscape? rest = some (c, more))
    (done : List UInt8) : stringBytes? done (Ascii.byte '\\' :: rest)
      = stringBytes? ((String.utf8EncodeChar c).reverse ++ done) more := by
  rw [stringBytes?, if_neg (by decide), if_pos rfl]
  split
  · next hnone => rw [h] at hnone; cases hnone
  · next hsome => rw [h] at hsome; cases hsome; rfl

theorem stringBytes?_nil (done : List UInt8) : stringBytes? done [] = none := by
  rw [stringBytes?]

theorem stringBytes?_unread (h : readEscape? rest = none) (done : List UInt8) :
    stringBytes? done (Ascii.byte '\\' :: rest) = none := by
  rw [stringBytes?, if_neg (by decide), if_pos rfl]
  split
  · rfl
  · next hsome => rw [h] at hsome; cases hsome

/-- The byte stands for itself inside a string. -/
def isPlain (b : UInt8) : Bool :=
  b != Ascii.byte '"' && b != Ascii.byte '\\' && 0x20 ≤ b

theorem stringBytes?_plain (h : ∀ b ∈ bs, isPlain b = true) (rest : List UInt8) :
    ∀ done, stringBytes? done (bs ++ rest) = stringBytes? (bs.reverse ++ done) rest := by
  induction bs with
  | nil => intro done; rfl
  | cons b bs ih =>
    intro done
    have hb := h b List.mem_cons_self
    simp only [isPlain, Bool.and_eq_true, bne_iff_ne, decide_eq_true_eq] at hb
    obtain ⟨⟨hquote, hbackslash⟩, hcontrol⟩ := hb
    rw [List.cons_append, stringBytes?, if_neg hquote, if_neg hbackslash,
      if_neg (UInt8.not_lt.mpr hcontrol), ih fun d hd => h d (List.mem_cons_of_mem b hd)]
    simp

/-- The bytes of a character that is no quote, no backslash and no control stand for themselves. -/
theorem isPlain_of_mem_utf8EncodeChar (hquote : c ≠ '"') (hbackslash : c ≠ '\\')
    (hcontrol : 0x20 ≤ c.toNat) {b : UInt8} (hb : b ∈ String.utf8EncodeChar c) :
    isPlain b = true := by
  simp only [isPlain, Bool.and_eq_true, bne_iff_ne, decide_eq_true_eq]
  refine ⟨⟨?_, ?_⟩, ?_⟩
  · rintro rfl
    exact hquote (Utf8.eq_of_byte_mem (by decide) hb).symm
  · rintro rfl
    exact hbackslash (Utf8.eq_of_byte_mem (by decide) hb).symm
  · rcases Nat.lt_or_ge c.toNat 0x80 with hc | hc
    · rw [Utf8.utf8EncodeChar_ascii hc, List.mem_singleton] at hb
      rw [hb, UInt8.le_iff_toNat_le, Ascii.byte,
        UInt8.toNat_ofNat_of_lt' (Nat.lt_trans hc (by decide))]
      exact hcontrol
    · exact UInt8.le_trans (by decide) (Utf8.le_of_mem_utf8EncodeChar hc hb)

/-- Bytes that were there before stay in front. -/
theorem stringBytes?_eq (done bs : List UInt8) : stringBytes? done bs
    = (stringBytes? [] bs).map fun p => (done.reverse ++ p.1, p.2) := by
  suffices h : ∀ done pre : List UInt8, stringBytes? (done ++ pre) bs
      = (stringBytes? done bs).map fun p => (pre.reverse ++ p.1, p.2) from h [] done
  intro done pre
  fun_induction stringBytes? done bs generalizing pre with
  | case1 done => rw [stringBytes?]; rfl
  | case2 done rest => simp [stringBytes?_quote]
  | case3 done rest hunread => rw [stringBytes?_unread hunread]; rfl
  | case4 done rest c more hescape _ ih =>
    rw [stringBytes?_escaped hescape, ← List.append_assoc]
    exact ih pre
  | case5 done b rest hquote hbackslash hcontrol =>
    rw [stringBytes?, if_neg hquote, if_neg hbackslash, if_pos hcontrol]
    rfl
  | case6 done b rest hquote hbackslash hcontrol ih =>
    rw [stringBytes?, if_neg hquote, if_neg hbackslash, if_neg hcontrol]
    exact ih pre

/-- The first thing inside a string is its closing quote, an escape, or a byte that stands for
itself. -/
theorem stringBytes?_cases (h : stringBytes? [] bs = some (content, rest)) :
    (bs = Ascii.byte '"' :: rest ∧ content = []) ∨
    (∃ escaped c more tail, bs = Ascii.byte '\\' :: escaped ∧
      readEscape? escaped = some (c, more) ∧ stringBytes? [] more = some (tail, rest) ∧
      content = String.utf8EncodeChar c ++ tail) ∨
    ∃ b more tail, bs = b :: more ∧ isPlain b = true ∧
      stringBytes? [] more = some (tail, rest) ∧ content = b :: tail := by
  cases bs with
  | nil => rw [stringBytes?_nil] at h; cases h
  | cons b more =>
    by_cases hquote : b = Ascii.byte '"'
    · rw [hquote, stringBytes?_quote] at h
      cases h
      exact .inl ⟨by rw [hquote], rfl⟩
    by_cases hbackslash : b = Ascii.byte '\\'
    · rw [hbackslash] at h ⊢
      cases hescape : readEscape? more with
      | none => rw [stringBytes?_unread hescape] at h; cases h
      | some p =>
        rw [stringBytes?_escaped hescape, stringBytes?_eq, Option.map_eq_some_iff] at h
        obtain ⟨⟨tail, left⟩, htail, heq⟩ := h
        obtain ⟨rfl, rfl⟩ := Prod.mk.inj heq
        exact .inr (.inl ⟨more, p.1, p.2, tail, rfl, hescape, htail, by simp⟩)
    · rw [stringBytes?, if_neg hquote, if_neg hbackslash] at h
      split at h
      · cases h
      next hcontrol =>
      rw [stringBytes?_eq, Option.map_eq_some_iff] at h
      obtain ⟨⟨tail, left⟩, htail, heq⟩ := h
      obtain ⟨rfl, rfl⟩ := Prod.mk.inj heq
      refine .inr (.inr ⟨b, more, tail, rfl, ?_, htail, rfl⟩)
      simp only [isPlain, Bool.and_eq_true, bne_iff_ne, decide_eq_true_eq]
      exact ⟨⟨hquote, hbackslash⟩, UInt8.not_lt.mp hcontrol⟩

/-! ### What is read is spelled -/

/-- A byte that continues a sequence stands in the text itself. -/
theorem stringBytes?_of_continues {b : UInt8} (hb : Utf8.continues b = true)
    (h : stringBytes? [] bs = some (b :: content, rest)) :
    ∃ more, bs = b :: more ∧ stringBytes? [] more = some (content, rest) := by
  obtain ⟨-, hnil⟩ | ⟨_, c, _, tail, -, -, -, hcontent⟩ | ⟨_, more, _, rfl, -, htail, heq⟩ :=
    stringBytes?_cases h
  · cases hnil
  · -- what stands for an escape starts with the first byte of a character
    have hhead : (encode [c]).head? = some b := by
      obtain ⟨first, last, hfirst, -⟩ := Utf8.utf8EncodeChar_eq_cons c
      rw [hfirst] at hcontent
      rw [Utf8.encode_cons, hfirst]
      exact congrArg some (List.cons.inj hcontent).1.symm
    rw [Utf8.continues_head_encode hhead] at hb
    cases hb
  · obtain ⟨rfl, rfl⟩ := List.cons.inj heq
    exact ⟨more, rfl, htail⟩

theorem stringBytes?_of_all_continue {tail : List UInt8}
    (htail : ∀ b ∈ tail, Utf8.continues b = true) :
    ∀ bs, stringBytes? [] bs = some (tail ++ content, rest) →
      ∃ more, bs = tail ++ more ∧ stringBytes? [] more = some (content, rest) := by
  induction tail with
  | nil => exact fun bs h => ⟨bs, rfl, h⟩
  | cons b tail ih =>
    intro bs h
    obtain ⟨more, rfl, hmore⟩ := stringBytes?_of_continues (htail b List.mem_cons_self) h
    obtain ⟨last, rfl, hlast⟩ := ih (fun d hd => htail d (List.mem_cons_of_mem b hd)) more hmore
    exact ⟨last, rfl, hlast⟩

/-- A character whose first byte stands for itself stands for itself. -/
theorem not_special_of_isPlain {b : UInt8} {tail : List UInt8}
    (hc : String.utf8EncodeChar c = b :: tail) (hb : isPlain b = true) :
    c ≠ '"' ∧ c ≠ '\\' ∧ 0x20 ≤ c.toNat := by
  simp only [isPlain, Bool.and_eq_true, bne_iff_ne, decide_eq_true_eq] at hb
  obtain ⟨⟨hquote, hbackslash⟩, hcontrol⟩ := hb
  rcases Nat.lt_or_ge c.toNat 0x80 with hascii | hwide
  · rw [Utf8.utf8EncodeChar_ascii hascii] at hc
    obtain rfl := (List.cons.inj hc).1
    refine ⟨fun h => hquote (by rw [h]), fun h => hbackslash (by rw [h]), ?_⟩
    rw [UInt8.le_iff_toNat_le, Ascii.byte,
      UInt8.toNat_ofNat_of_lt' (Nat.lt_trans hascii (by decide))] at hcontrol
    exact hcontrol
  · refine ⟨?_, ?_, Nat.le_trans (by decide) hwide⟩ <;> rintro rfl <;>
      exact absurd hwide (by decide)

/-- **What is read as a string is spelled**, by units that stand for its characters. -/
theorem spells_of_stringBytes? (h : stringBytes? [] bs = some (encode cs, rest)) :
    ∃ front units, bs = front ++ Ascii.byte '"' :: rest ∧ SpellsUnits front units ∧
      charsOf? units = some cs := by
  induction hlength : bs.length using Nat.strongRecOn generalizing bs cs with
  | ind n ih =>
    obtain ⟨rfl, hnil⟩ | ⟨escaped, c, more, tail, rfl, hescape, htail, hcontent⟩ |
      ⟨b, more, tail, rfl, hplain, htail, hcontent⟩ := stringBytes?_cases h
    · obtain rfl : cs = [] := Utf8.length_encode_eq_zero_iff.mp (by rw [hnil]; rfl)
      exact ⟨[], [], rfl, .nil, rfl⟩
    · obtain ⟨ds, rfl, rfl⟩ := Utf8.encode_eq_append hcontent
      have hshort : more.length < n := by
        rw [← hlength, List.length_cons]
        exact Nat.lt_succ_of_lt (length_readEscape? hescape)
      obtain ⟨front, units, rfl, hfront, hunits⟩ := ih _ hshort htail rfl
      obtain ⟨spelling, here, rfl, hspelling⟩ := isEscape_of_readEscape? hescape
      refine ⟨_, here ++ units, ?_, hspelling.spells hfront, ?_⟩
      · simp only [List.cons_append, List.append_assoc]
      · rw [hspelling.stands, hunits]; rfl
    · cases cs with
      | nil => cases hcontent
      | cons c ds =>
        obtain ⟨first, last, hfirst, hlast⟩ := Utf8.utf8EncodeChar_eq_cons c
        rw [Utf8.encode_cons, hfirst, List.cons_append] at hcontent
        obtain ⟨rfl, rfl⟩ := List.cons.inj hcontent
        obtain ⟨left, rfl, hleft⟩ := stringBytes?_of_all_continue hlast more htail
        have hshort : left.length < n := by
          rw [← hlength, List.length_cons, List.length_append]
          omega
        obtain ⟨front, units, rfl, hfront, hunits⟩ := ih _ hshort hleft rfl
        obtain ⟨hquote, hbackslash, hcontrol⟩ := not_special_of_isPlain hfirst hplain
        refine ⟨_, c.toNat :: units, ?_, .plain hquote hbackslash hcontrol hfront, ?_⟩
        · rw [hfirst, List.append_assoc, List.cons_append]
        · rw [charsOf?_cons_char, hunits]; rfl

/-! ### What is spelled is read -/

theorem readEscape?_short {e : UInt8} (h : shortEscape? e = some c) (rest : List UInt8) :
    readEscape? (e :: rest) = some (c, rest) := by
  have hu : e ≠ Ascii.byte 'u' := by
    rintro rfl
    cases h
  rw [readEscape?, if_neg hu, h]

theorem readEscape?_code (bs : List UInt8) :
    readEscape? (Ascii.byte 'u' :: bs) = readCode? bs := by
  rw [readEscape?, if_pos rfl]

/-- Half of a pair is no character, so it is spelled by its number. -/
theorem SpellsUnits.code_of_half {n : Nat} (h : SpellsUnits front (n :: units))
    (hhalf : isHigh n = true ∨ isLow n = true) :
    ∃ d₁ d₂ d₃ d₄ content,
      front = Ascii.byte '\\' :: Ascii.byte 'u' :: d₁ :: d₂ :: d₃ :: d₄ :: content ∧
        hexFour? d₁ d₂ d₃ d₄ = some n ∧ SpellsUnits content units := by
  have hchar : ∀ c : Char, n ≠ c.toNat := by
    rintro c rfl
    rw [(not_surrogate c).1, (not_surrogate c).2] at hhalf
    simp at hhalf
  generalize hall : n :: units = all at h
  cases h with
  | nil => cases hall
  | plain _ _ _ _ => exact absurd (List.cons.inj hall).1 (hchar _)
  | short _ _ => exact absurd (List.cons.inj hall).1 (hchar _)
  | code hcode hcontent =>
    obtain ⟨rfl, rfl⟩ := List.cons.inj hall
    exact ⟨_, _, _, _, _, rfl, hcode, hcontent⟩

/-- **What is spelled is read**, if its units stand for characters. -/
theorem stringBytes?_of_spells (hspells : SpellsUnits front units)
    (hunits : charsOf? units = some cs) (rest : List UInt8) : ∀ done,
      stringBytes? done (front ++ Ascii.byte '"' :: rest)
        = some (done.reverse ++ encode cs, rest) := by
  intro done
  fun_induction charsOf? units generalizing front cs done with
  | case1 =>
    cases hunits
    cases hspells
    rw [List.nil_append, stringBytes?_quote, Utf8.encode_nil, List.append_nil]
  | case2 n units hlow => cases hunits
  | case3 n _ hhigh low units hlow ih =>
    obtain ⟨ds, hds, rfl⟩ := Option.map_eq_some_iff.mp hunits
    obtain ⟨d₁, d₂, d₃, d₄, _, rfl, hcode, hpartner⟩ := hspells.code_of_half (.inl hhigh)
    obtain ⟨e₁, e₂, e₃, e₄, content, rfl, hsecond, hcontent⟩ := hpartner.code_of_half (.inr hlow)
    have hescape : readEscape? (Ascii.byte 'u' :: d₁ :: d₂ :: d₃ :: d₄ :: Ascii.byte '\\' ::
        Ascii.byte 'u' :: e₁ :: e₂ :: e₃ :: e₄ :: (content ++ Ascii.byte '"' :: rest))
          = some (pairChar n low, content ++ Ascii.byte '"' :: rest) := by
      rw [readEscape?_code, readCode?_cons hcode, if_neg (by simp [isLow_eq_false_of_isHigh hhigh]),
        if_pos hhigh, readLow?_eq_some_iff.mpr ⟨e₁, e₂, e₃, e₄, rfl, hsecond, hlow⟩]
      rfl
    have hread := ih hcontent hds ((String.utf8EncodeChar (pairChar n low)).reverse ++ done)
    rw [← stringBytes?_escaped hescape] at hread
    simpa [Utf8.encode_cons] using hread
  | case4 n _ hhigh low units hlow => cases hunits
  | case5 n _ hhigh => cases hunits
  | case6 n units hlow hhigh ih =>
    obtain ⟨ds, hds, rfl⟩ := Option.map_eq_some_iff.mp hunits
    cases hspells with
    | plain hquote hbackslash hcontrol hcontent =>
      have hplain := fun b hb =>
        isPlain_of_mem_utf8EncodeChar hquote hbackslash hcontrol (b := b) hb
      rw [List.append_assoc, stringBytes?_plain hplain, ih hcontent hds, Char.ofNat_toNat]
      simp [Utf8.encode_cons]
    | short hshort hcontent =>
      rw [List.cons_append, List.cons_append, stringBytes?_escaped (readEscape?_short hshort _),
        ih hcontent hds, Char.ofNat_toNat]
      simp [Utf8.encode_cons]
    | @code d₁ d₂ d₃ d₄ _ content _ hcode hcontent =>
      have hescape : readEscape?
          (Ascii.byte 'u' :: d₁ :: d₂ :: d₃ :: d₄ :: (content ++ Ascii.byte '"' :: rest))
            = some (Char.ofNat n, content ++ Ascii.byte '"' :: rest) := by
        rw [readEscape?_code, readCode?_cons hcode, if_neg hlow, if_neg hhigh]
      have hread := ih hcontent hds ((String.utf8EncodeChar (Char.ofNat n)).reverse ++ done)
      rw [← stringBytes?_escaped hescape] at hread
      simpa [Utf8.encode_cons] using hread

/-- **What the reader takes for a string**: what is spelled by units that stand for its
characters. -/
theorem readText?_eq_some_iff {s : String} : readText? bs = some (s, rest) ↔
    ∃ front units, bs = front ++ Ascii.byte '"' :: rest ∧ SpellsUnits front units ∧
      charsOf? units = some s.toList := by
  constructor
  · intro h
    simp only [readText?, Option.bind_eq_bind, Option.bind_eq_some_iff, Prod.exists] at h
    obtain ⟨content, left, hbytes, t, htext, heq⟩ := h
    obtain ⟨rfl, rfl⟩ := Prod.mk.inj (Option.some.inj heq)
    obtain ⟨cs, hcs, rfl⟩ := Option.map_eq_some_iff.mp htext
    rw [Utf8.decode?_eq_some_iff] at hcs
    rw [hcs] at hbytes
    rw [String.toList_ofList]
    exact spells_of_stringBytes? hbytes
  · rintro ⟨front, units, rfl, hspells, hunits⟩
    rw [readText?, stringBytes?_of_spells hspells hunits]
    simp only [Option.bind_eq_bind, Option.bind_some, List.reverse_nil, List.nil_append,
      Utf8.text?_encode, String.ofList_toList]

/-- A character that stands for itself does not start with a backslash. -/
theorem not_escape_of_plain {tail : List UInt8} (hquote : c ≠ '"') (hbackslash : c ≠ '\\')
    (hcontrol : 0x20 ≤ c.toNat) :
    String.utf8EncodeChar c ++ rest ≠ Ascii.byte '\\' :: tail := by
  obtain ⟨b, more, hbytes, -⟩ := Utf8.utf8EncodeChar_eq_cons c
  have hplain : isPlain b = true := by
    refine isPlain_of_mem_utf8EncodeChar hquote hbackslash hcontrol ?_
    rw [hbytes]
    exact List.mem_cons_self
  intro h
  rw [hbytes] at h
  rw [(List.cons.inj h).1] at hplain
  cases hplain

/-- **A text spells its units in one way.** -/
theorem SpellsUnits.unique {others : List Nat} (h : SpellsUnits front units)
    (h' : SpellsUnits front others) : units = others := by
  induction h generalizing others with
  | nil =>
    generalize hfront : [] = bs at h'
    cases h' with
    | nil => rfl
    | plain _ _ _ _ =>
      obtain ⟨b, more, hbytes, -⟩ := Utf8.utf8EncodeChar_eq_cons _
      rw [hbytes] at hfront
      cases hfront
    | short _ _ | code _ _ => cases hfront
  | @plain c content units hquote hbackslash hcontrol _ ih =>
    generalize hfront : String.utf8EncodeChar c ++ content = bs at h'
    cases h' with
    | nil =>
      obtain ⟨b, more, hbytes, -⟩ := Utf8.utf8EncodeChar_eq_cons c
      rw [hbytes] at hfront
      cases hfront
    | plain _ _ _ h' =>
      obtain ⟨rfl, rfl⟩ := Utf8.utf8EncodeChar_append_inj hfront
      rw [ih h']
    | short _ _ | code _ _ =>
      exact absurd hfront (not_escape_of_plain hquote hbackslash hcontrol)
  | @short e c content units hshort _ ih =>
    generalize hfront : Ascii.byte '\\' :: e :: content = bs at h'
    cases h' with
    | nil => cases hfront
    | plain hquote hbackslash hcontrol _ =>
      exact absurd hfront.symm (not_escape_of_plain hquote hbackslash hcontrol)
    | short hshort' h' =>
      obtain ⟨rfl, rfl⟩ := List.cons.inj (List.cons.inj hfront).2
      rw [ih h', Option.some.inj (hshort.symm.trans hshort')]
    | code _ _ =>
      obtain ⟨rfl, -⟩ := List.cons.inj (List.cons.inj hfront).2
      cases hshort
  | @code d₁ d₂ d₃ d₄ n content units hcode _ ih =>
    generalize hfront : Ascii.byte '\\' :: Ascii.byte 'u' :: d₁ :: d₂ :: d₃ :: d₄ :: content = bs
      at h'
    cases h' with
    | nil => cases hfront
    | plain hquote hbackslash hcontrol _ =>
      exact absurd hfront.symm (not_escape_of_plain hquote hbackslash hcontrol)
    | short hshort _ =>
      obtain ⟨rfl, -⟩ := List.cons.inj (List.cons.inj hfront).2
      cases hshort
    | code hcode' h' =>
      obtain ⟨rfl, rfl, rfl, rfl, rfl⟩ : _ ∧ _ ∧ _ ∧ _ ∧ _ := by simpa using hfront
      rw [ih h', Option.some.inj (hcode.symm.trans hcode')]

/-! ### Passing over -/

theorem skimText?_quote (rest : List UInt8) : skimText? (Ascii.byte '"' :: rest) = some rest := by
  rw [skimText?, if_pos rfl]

theorem skimText?_escaped {more : List UInt8} (h : skimEscape? bs = some more) :
    skimText? (Ascii.byte '\\' :: bs) = skimText? more := by
  rw [skimText?, if_neg (by decide), if_pos rfl]
  split
  · next hnone => rw [h] at hnone; cases hnone
  · next hsome => rw [h] at hsome; cases hsome; rfl

theorem skimText?_plain (h : ∀ b ∈ bs, isPlain b = true) (rest : List UInt8) :
    skimText? (bs ++ rest) = skimText? rest := by
  induction bs with
  | nil => rfl
  | cons b bs ih =>
    have hb := h b List.mem_cons_self
    simp only [isPlain, Bool.and_eq_true, bne_iff_ne, decide_eq_true_eq] at hb
    obtain ⟨⟨hquote, hbackslash⟩, hcontrol⟩ := hb
    rw [List.cons_append, skimText?, if_neg hquote, if_neg hbackslash,
      if_neg (UInt8.not_lt.mpr hcontrol), ih fun d hd => h d (List.mem_cons_of_mem b hd)]

/-- What is spelled is passed over, whether or not its units stand for characters. -/
theorem skimText?_of_spells (h : SpellsUnits front units) (rest : List UInt8) :
    skimText? (front ++ Ascii.byte '"' :: rest) = some rest := by
  induction h with
  | nil => exact skimText?_quote rest
  | plain hquote hbackslash hcontrol _ ih =>
    have hplain := fun b hb => isPlain_of_mem_utf8EncodeChar hquote hbackslash hcontrol (b := b) hb
    rw [List.append_assoc, skimText?_plain hplain, ih]
  | @short e c content units hshort _ ih =>
    have hu : e ≠ Ascii.byte 'u' := by
      rintro rfl
      cases hshort
    have hescape : skimEscape? (e :: (content ++ Ascii.byte '"' :: rest))
        = some (content ++ Ascii.byte '"' :: rest) := by
      simp [skimEscape?.eq_def, hu, hshort]
    rw [List.cons_append, List.cons_append, skimText?_escaped hescape, ih]
  | @code d₁ d₂ d₃ d₄ n content units hcode _ ih =>
    have hescape : skimEscape?
        (Ascii.byte 'u' :: d₁ :: d₂ :: d₃ :: d₄ :: (content ++ Ascii.byte '"' :: rest))
        = some (content ++ Ascii.byte '"' :: rest) := by
      rw [skimEscape?, if_pos rfl]
      simp only [hcode, Option.map_some]
    exact (skimText?_escaped hescape).trans ih

/-- **What is spelled is read or refused**: it is read if its units stand for characters. -/
theorem readText?_of_spells (h : SpellsUnits front units) (rest : List UInt8) :
    readText? (front ++ Ascii.byte '"' :: rest)
      = (charsOf? units).map fun cs => (String.ofList cs, rest) := by
  cases hunits : charsOf? units with
  | some cs =>
    refine readText?_eq_some_iff.mpr ⟨front, units, rfl, h, ?_⟩
    rw [String.toList_ofList, hunits]
  | none =>
    refine Option.eq_none_iff_forall_not_mem.mpr fun ⟨s, left⟩ hread => ?_
    obtain ⟨other, others, hsame, hother, hothers⟩ := readText?_eq_some_iff.mp hread
    -- both spellings end at the first quote outside an escape
    have hskim := skimText?_of_spells h rest
    rw [hsame, skimText?_of_spells hother] at hskim
    obtain rfl := Option.some.inj hskim
    obtain rfl := List.append_cancel_right hsame
    rw [h.unique hother, hothers] at hunits
    cases hunits

/-! ### What is written -/

/-- The four digits that stand for a control are ASCII and write its number. -/
theorem hexPadded_control : ∀ n < 32, (Ascii.hexPadded 4 n).length = 4 ∧
    (Ascii.hexPadded 4 n).all (·.toNat < 0x80) = true ∧
    Ascii.readBase? 16 ((Ascii.hexPadded 4 n).map fun c => Char.ofNat (Ascii.byte c).toNat)
      = some n := by
  decide +kernel

/-- A character is written by a short escape, by its number or as itself. -/
theorem encode_escape_cases (c : Char) :
    (∃ e, encode (escape c) = [Ascii.byte '\\', e] ∧ shortEscape? e = some c) ∨
    (∃ d₁ d₂ d₃ d₄, encode (escape c) = [Ascii.byte '\\', Ascii.byte 'u', d₁, d₂, d₃, d₄] ∧
      hexFour? d₁ d₂ d₃ d₄ = some c.toNat) ∨
    (encode (escape c) = String.utf8EncodeChar c ∧ c ≠ '"' ∧ c ≠ '\\' ∧ 0x20 ≤ c.toNat) := by
  rw [escape]
  split
  · next h => exact .inl ⟨Ascii.byte '"', rfl, by rw [eq_of_beq h]; rfl⟩
  split
  · next h => exact .inl ⟨Ascii.byte '\\', rfl, by rw [eq_of_beq h]; rfl⟩
  split
  · next h => exact .inl ⟨Ascii.byte 'n', rfl, by rw [eq_of_beq h]; rfl⟩
  split
  · next h => exact .inl ⟨Ascii.byte 'r', rfl, by rw [eq_of_beq h]; rfl⟩
  split
  · next h => exact .inl ⟨Ascii.byte 't', rfl, by rw [eq_of_beq h]; rfl⟩
  split
  · next h => exact .inl ⟨Ascii.byte 'b', rfl, by rw [eq_of_beq h]; rfl⟩
  split
  · next h => exact .inl ⟨Ascii.byte 'f', rfl, by rw [eq_of_beq h]; rfl⟩
  split
  · next hcontrol =>
    obtain ⟨hlength, hascii, hvalue⟩ := hexPadded_control c.toNat hcontrol
    have hdigits : encode (Ascii.hexPadded 4 c.toNat)
        = (Ascii.hexPadded 4 c.toNat).map Ascii.byte :=
      Utf8.encode_ascii fun d hd => by simpa using List.all_eq_true.mp hascii d hd
    rw [Utf8.encode_append, hdigits]
    match hfour : Ascii.hexPadded 4 c.toNat, hlength with
    | [d₁, d₂, d₃, d₄], _ =>
      rw [hfour] at hvalue
      exact .inr (.inl ⟨_, _, _, _, rfl, hvalue⟩)
  · next hquote hbackslash _ _ _ _ _ hcontrol =>
    rw [Utf8.encode_cons, Utf8.encode_nil, List.append_nil]
    exact .inr (.inr ⟨rfl, by simpa using hquote, by simpa using hbackslash,
      Nat.le_of_not_lt hcontrol⟩)

/-- **What is written spells the characters.** -/
theorem spellsUnits_render (cs : List Char) :
    SpellsUnits (encode (cs.flatMap escape)) (cs.map Char.toNat) := by
  induction cs with
  | nil => exact .nil
  | cons c cs ih =>
    rw [List.flatMap_cons, Utf8.encode_append, List.map_cons]
    obtain ⟨e, hbytes, hshort⟩ | ⟨d₁, d₂, d₃, d₄, hbytes, hcode⟩ |
      ⟨hbytes, hquote, hbackslash, hcontrol⟩ := encode_escape_cases c
    · rw [hbytes]
      exact .short hshort ih
    · rw [hbytes]
      exact .code hcode ih
    · rw [hbytes]
      exact .plain hquote hbackslash hcontrol ih

end PurgeGateway.Json
