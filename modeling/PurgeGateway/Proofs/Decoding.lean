import PurgeGateway.Proofs.Encoding

/-!
# UTF-8 is read in one way

Bytes that are read as characters are the bytes of these characters and of no others: the reader
takes no overlong form, no surrogate and no number past the last character. So a byte string that is
text is the encoding of one text, and it can be cut in front of every byte that starts a character.

## Main results

* `cons_eq_of_next`: a sequence that is read is the encoded character.
* `utf8EncodeChar_eq_cons`: all bytes of a character but the first continue its sequence.
* `encode_of_decode?`, `decode?_eq_some_iff`: byte strings that are text are encoded texts.
* `encode_eq_append`: a text that starts with the bytes of a character starts with the character.
-/

namespace PurgeGateway.Utf8

variable {b : UInt8} {bs rest : List UInt8} {c : Char} {k : Nat}

/-! ### One sequence

One lemma for each length: the number that the bytes are read as has these bytes. -/

theorem toNat_ofNat_of_valid {n : Nat} (h : n < 0xd800 ∨ 0xdfff < n ∧ n < 0x110000) :
    (Char.ofNat n).toNat = n := by
  have hvalid : n.isValidChar := h
  rw [Char.ofNat, dif_pos hvalid]
  rfl

theorem ofNat_eq {n : Nat} (h : n = b.toNat) : UInt8.ofNat n = b := by
  rw [h, UInt8.ofNat_toNat]

theorem utf8EncodeChar_one (h : b.toNat < 128) :
    String.utf8EncodeChar (Char.ofNat b.toNat) = [b] := by
  rw [utf8EncodeChar_eq, toNat_ofNat_of_valid (by omega), if_pos (by omega), ofNat_eq rfl]

theorem utf8EncodeChar_two {b₁ : UInt8} (h : 194 ≤ b.toNat ∧ b.toNat ≤ 223)
    (h₁ : continues b₁ = true) :
    String.utf8EncodeChar (Char.ofNat (b.toNat % 32 * 64 + payload b₁)) = [b, b₁] := by
  rw [continues_iff] at h₁
  rw [utf8EncodeChar_eq, payload, toNat_ofNat_of_valid (by omega), if_neg (by omega),
    if_pos (by omega), ofNat_eq (b := b) (by omega), ofNat_eq (b := b₁) (by omega)]

theorem utf8EncodeChar_three {b₁ b₂ : UInt8} (h : 224 ≤ b.toNat ∧ b.toNat ≤ 239)
    (h₁ : secondOfThree b b₁ = true) (h₂ : continues b₂ = true) :
    String.utf8EncodeChar
        (Char.ofNat ((b.toNat % 16 * 64 + payload b₁) * 64 + payload b₂)) = [b, b₁, b₂] := by
  rw [secondOfThree_iff] at h₁
  rw [continues_iff] at h₂
  rw [utf8EncodeChar_eq, payload, payload, toNat_ofNat_of_valid (by omega), if_neg (by omega),
    if_neg (by omega), if_pos (by omega), ofNat_eq (b := b) (by omega),
    ofNat_eq (b := b₁) (by omega), ofNat_eq (b := b₂) (by omega)]

theorem utf8EncodeChar_four {b₁ b₂ b₃ : UInt8} (h : 240 ≤ b.toNat ∧ b.toNat ≤ 244)
    (h₁ : secondOfFour b b₁ = true) (h₂ : continues b₂ = true) (h₃ : continues b₃ = true) :
    String.utf8EncodeChar (Char.ofNat
        (((b.toNat % 8 * 64 + payload b₁) * 64 + payload b₂) * 64 + payload b₃))
      = [b, b₁, b₂, b₃] := by
  rw [secondOfFour_iff] at h₁
  rw [continues_iff] at h₂ h₃
  rw [utf8EncodeChar_eq, payload, payload, payload, toNat_ofNat_of_valid (by omega),
    if_neg (by omega), if_neg (by omega), if_neg (by omega), ofNat_eq (b := b) (by omega),
    ofNat_eq (b := b₁) (by omega), ofNat_eq (b := b₂) (by omega), ofNat_eq (b := b₃) (by omega)]

/-- **A sequence that is read is the encoded character.** -/
theorem cons_eq_of_next (h : next b rest = (some c, k)) :
    b :: rest = String.utf8EncodeChar c ++ rest.drop k := by
  simp only [next, UInt8.lt_iff_toNat_lt, UInt8.le_iff_toNat_le, UInt8.reduceToNat,
    Bool.and_eq_true, decide_eq_true_eq] at h
  split at h
  · next hone =>
    cases h
    rw [utf8EncodeChar_one hone]
    rfl
  split at h
  · next htwo =>
    split at h
    · split at h
      · next hsecond =>
        cases h
        rw [utf8EncodeChar_two htwo hsecond]
        rfl
      · cases h
    · cases h
  split at h
  · next hthree =>
    split at h
    · split at h
      · cases h
      split at h
      · cases h
      next hsecond hthird =>
      rw [Bool.not_eq_true', Bool.not_eq_false] at hsecond hthird
      cases h
      rw [utf8EncodeChar_three hthree hsecond hthird]
      rfl
    · cases h
    · cases h
  split at h
  · next hfour =>
    split at h
    · split at h
      · cases h
      split at h
      · cases h
      split at h
      · cases h
      next hsecond hthird hfourth =>
      rw [Bool.not_eq_true', Bool.not_eq_false] at hsecond hthird hfourth
      cases h
      rw [utf8EncodeChar_four hfour hsecond hthird hfourth]
      rfl
    · cases h
    · cases h
    · cases h
  · cases h

/-- The bytes of a character behind the first one continue its sequence. -/
theorem utf8EncodeChar_eq_cons (c : Char) :
    ∃ b tail, String.utf8EncodeChar c = b :: tail ∧ ∀ d ∈ tail, continues d = true := by
  have hcontinues : ∀ n : Nat, continues (UInt8.ofNat (n % 64 + 128)) = true :=
    fun n => continues_ofNat (Nat.mod_lt n (by decide))
  rw [utf8EncodeChar_eq]
  split
  · exact ⟨_, _, rfl, List.forall_mem_nil _⟩
  split
  · exact ⟨_, _, rfl, List.forall_mem_singleton.mpr (hcontinues _)⟩
  split
  · exact ⟨_, _, rfl, List.forall_mem_cons.mpr
      ⟨hcontinues _, List.forall_mem_singleton.mpr (hcontinues _)⟩⟩
  · exact ⟨_, _, rfl, List.forall_mem_cons.mpr ⟨hcontinues _, List.forall_mem_cons.mpr
      ⟨hcontinues _, List.forall_mem_singleton.mpr (hcontinues _)⟩⟩⟩

/-! ### Whole byte strings -/

/-- **Bytes that are text are the bytes of that text.** -/
theorem encode_of_decode? {cs : List Char} (h : decode? bs = some cs) : encode cs = bs := by
  induction hlength : bs.length using Nat.strongRecOn generalizing bs cs with
  | ind n ih =>
    cases bs with
    | nil =>
      rw [decode?, scan_nil] at h
      cases h
      rfl
    | cons b rest =>
      simp only [decode?, scan_cons, List.mapM_cons, id, Option.bind_eq_bind,
        Option.bind_eq_some_iff, Option.pure_def, Option.some.injEq] at h
      obtain ⟨c, hc, more, hmore, rfl⟩ := h
      have hshort : (rest.drop (next b rest).2).length < n := by
        rw [← hlength, List.length_drop, List.length_cons]
        omega
      have hnext : next b rest = (some c, (next b rest).2) := Prod.ext hc rfl
      rw [encode_cons, ih _ hshort hmore rfl, cons_eq_of_next hnext]

theorem decode?_eq_some_iff {cs : List Char} : decode? bs = some cs ↔ bs = encode cs := by
  constructor
  · exact fun h => (encode_of_decode? h).symm
  · rintro rfl
    exact decode?_encode cs

/-- **A text that starts with the bytes of a character starts with the character.** -/
theorem encode_eq_append {cs : List Char} (h : encode cs = String.utf8EncodeChar c ++ rest) :
    ∃ more, cs = c :: more ∧ encode more = rest := by
  cases cs with
  | nil =>
    obtain ⟨b, tail, hbytes, -⟩ := next_utf8EncodeChar c rest
    rw [hbytes] at h
    cases h
  | cons d more =>
    rw [encode_cons] at h
    obtain ⟨rfl, hmore⟩ := utf8EncodeChar_append_inj h
    exact ⟨more, rfl, hmore⟩

end PurgeGateway.Utf8
