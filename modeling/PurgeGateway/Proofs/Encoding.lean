import PurgeGateway.Text.Ascii
import PurgeGateway.Text.Utf8

/-!
# UTF-8 reads back

The bytes of characters are read back as these characters, one sequence at a time. A byte below
`0x80` stands for itself wherever it comes, and the first byte of a sequence never continues
another; so a search for an ASCII character can look at bytes, and a text can be cut in front of
every character.

## Main results

* `next_utf8EncodeChar`: the first sequence of an encoded character is that character.
* `decode?_encode`, `text?_bytes`: an encoded text is read back.
* `encode_ascii`, `byte_mem_encode_iff`: the bytes of ASCII characters, and where they are found.
-/

namespace PurgeGateway.Utf8

variable {b : UInt8}

/-! ### Bytes

What the tests of a reader say of the number of a byte, and the bytes of a character by its
number. -/

private theorem toNat_ofNat {n : Nat} (h : n < 256) : (UInt8.ofNat n).toNat = n :=
  UInt8.toNat_ofNat_of_lt' h

theorem continues_iff : continues b = true ↔ 128 ≤ b.toNat ∧ b.toNat ≤ 191 := by
  simp only [continues, Bool.and_eq_true, decide_eq_true_eq, UInt8.le_iff_toNat_le,
    UInt8.reduceToNat]

theorem secondOfThree_iff (first : UInt8) : secondOfThree first b = true ↔
    128 ≤ b.toNat ∧ b.toNat ≤ 191 ∧ (first.toNat = 224 → 160 ≤ b.toNat) ∧
      (first.toNat = 237 → b.toNat ≤ 159) := by
  simp only [secondOfThree, continues, beq_iff_eq, ← UInt8.toNat_inj, UInt8.le_iff_toNat_le,
    UInt8.reduceToNat]
  split
  · simp only [Bool.and_eq_true, decide_eq_true_eq]; omega
  · split <;> simp only [Bool.and_eq_true, decide_eq_true_eq] <;> omega

theorem secondOfFour_iff (first : UInt8) : secondOfFour first b = true ↔
    128 ≤ b.toNat ∧ b.toNat ≤ 191 ∧ (first.toNat = 240 → 144 ≤ b.toNat) ∧
      (first.toNat = 244 → b.toNat ≤ 143) := by
  simp only [secondOfFour, continues, beq_iff_eq, ← UInt8.toNat_inj, UInt8.le_iff_toNat_le,
    UInt8.reduceToNat]
  split
  · simp only [Bool.and_eq_true, decide_eq_true_eq]; omega
  · split <;> simp only [Bool.and_eq_true, decide_eq_true_eq] <;> omega

theorem continues_ofNat {n : Nat} (hn : n < 64) : continues (UInt8.ofNat (n + 128)) = true := by
  rw [continues_iff, toNat_ofNat (by omega)]
  omega

/-- The bytes of a character, by its number. -/
theorem utf8EncodeChar_eq (c : Char) : String.utf8EncodeChar c
    = if c.toNat ≤ 127 then [UInt8.ofNat c.toNat]
      else if c.toNat ≤ 2047 then
        [UInt8.ofNat (c.toNat / 64 % 32 + 192), UInt8.ofNat (c.toNat % 64 + 128)]
      else if c.toNat ≤ 65535 then
        [UInt8.ofNat (c.toNat / 4096 % 16 + 224), UInt8.ofNat (c.toNat / 64 % 64 + 128),
          UInt8.ofNat (c.toNat % 64 + 128)]
      else
        [UInt8.ofNat (c.toNat / 262144 % 8 + 240), UInt8.ofNat (c.toNat / 4096 % 64 + 128),
          UInt8.ofNat (c.toNat / 64 % 64 + 128), UInt8.ofNat (c.toNat % 64 + 128)] := rfl

/-! ### One sequence

One lemma for each length. The payloads of the bytes are given as numbers, with the bounds that keep
out overlong forms and surrogates. -/

theorem next_one {a : Nat} (ha : a < 128) (rest : List UInt8) :
    next (UInt8.ofNat a) rest = (some (Char.ofNat a), 0) := by
  have hfirst := toNat_ofNat (n := a) (by omega)
  have hlt : UInt8.ofNat a < 0x80 := by
    rw [UInt8.lt_iff_toNat_lt, hfirst]
    exact ha
  simp [next, hlt, hfirst]

theorem next_two {a b : Nat} (ha : 2 ≤ a ∧ a < 32) (hb : b < 64) (rest : List UInt8) :
    next (UInt8.ofNat (a + 192)) (UInt8.ofNat (b + 128) :: rest)
      = (some (Char.ofNat (a * 64 + b)), 1) := by
  have hfirst := toNat_ofNat (n := a + 192) (by omega)
  have hsecond := toNat_ofNat (n := b + 128) (by omega)
  simp only [next, continues, payload, UInt8.lt_iff_toNat_lt, UInt8.le_iff_toNat_le, hfirst,
    hsecond, UInt8.reduceToNat, Bool.and_eq_true, decide_eq_true_eq]
  rw [if_neg (by omega), if_pos (by omega), if_pos (by omega),
    show (a + 192) % 32 = a by omega, show (b + 128) % 64 = b by omega]

theorem next_three {a b d : Nat} (ha : a < 16) (hb : b < 64) (hd : d < 64)
    (hlong : a = 0 → 32 ≤ b) (hsurrogate : a = 13 → b < 32) (rest : List UInt8) :
    next (UInt8.ofNat (a + 224)) (UInt8.ofNat (b + 128) :: UInt8.ofNat (d + 128) :: rest)
      = (some (Char.ofNat ((a * 64 + b) * 64 + d)), 2) := by
  have hfirst := toNat_ofNat (n := a + 224) (by omega)
  have hsecond := toNat_ofNat (n := b + 128) (by omega)
  have hthird := toNat_ofNat (n := d + 128) (by omega)
  have hfollows : secondOfThree (UInt8.ofNat (a + 224)) (UInt8.ofNat (b + 128)) = true := by
    rw [secondOfThree_iff, hfirst, hsecond]
    omega
  simp only [next, hfollows, continues_ofNat hd, payload, UInt8.lt_iff_toNat_lt,
    UInt8.le_iff_toNat_le, hfirst, hsecond, hthird, UInt8.reduceToNat, Bool.and_eq_true,
    decide_eq_true_eq, Bool.not_true, Bool.false_eq_true, if_false]
  rw [if_neg (by omega), if_neg (by omega), if_pos (by omega), show (a + 224) % 16 = a by omega,
    show (b + 128) % 64 = b by omega, show (d + 128) % 64 = d by omega]

theorem next_four {a b d e : Nat} (ha : a < 5) (hb : b < 64) (hd : d < 64) (he : e < 64)
    (hlong : a = 0 → 16 ≤ b) (hlast : a = 4 → b < 16) (rest : List UInt8) :
    next (UInt8.ofNat (a + 240))
        (UInt8.ofNat (b + 128) :: UInt8.ofNat (d + 128) :: UInt8.ofNat (e + 128) :: rest)
      = (some (Char.ofNat (((a * 64 + b) * 64 + d) * 64 + e)), 3) := by
  have hfirst := toNat_ofNat (n := a + 240) (by omega)
  have hsecond := toNat_ofNat (n := b + 128) (by omega)
  have hthird := toNat_ofNat (n := d + 128) (by omega)
  have hfourth := toNat_ofNat (n := e + 128) (by omega)
  have hfollows : secondOfFour (UInt8.ofNat (a + 240)) (UInt8.ofNat (b + 128)) = true := by
    rw [secondOfFour_iff, hfirst, hsecond]
    omega
  simp only [next, hfollows, continues_ofNat hd, continues_ofNat he, payload,
    UInt8.lt_iff_toNat_lt, UInt8.le_iff_toNat_le, hfirst, hsecond, hthird, hfourth,
    UInt8.reduceToNat, Bool.and_eq_true, decide_eq_true_eq, Bool.not_true, Bool.false_eq_true,
    if_false]
  rw [if_neg (by omega), if_neg (by omega), if_neg (by omega), if_pos (by omega),
    show (a + 240) % 8 = a by omega, show (b + 128) % 64 = b by omega,
    show (d + 128) % 64 = d by omega, show (e + 128) % 64 = e by omega]

/-- **The first sequence of an encoded character is that character**, whatever comes behind it. -/
theorem next_utf8EncodeChar (c : Char) (rest : List UInt8) :
    ∃ b more, String.utf8EncodeChar c = b :: more ∧
      next b (more ++ rest) = (some c, more.length) := by
  have hvalid : c.toNat < 0xd800 ∨ 0xdfff < c.toNat ∧ c.toNat < 0x110000 := c.valid
  have hchar : ∀ n, n = c.toNat → Char.ofNat n = c := by
    rintro n rfl
    exact Char.ofNat_toNat c
  rw [utf8EncodeChar_eq]
  split
  · refine ⟨_, _, rfl, (next_one (by omega) _).trans ?_⟩
    rw [hchar _ rfl]
    rfl
  · split
    · refine ⟨_, _, rfl, (next_two (by omega) (by omega) _).trans ?_⟩
      rw [hchar _ (by omega)]
      rfl
    · split
      · refine ⟨_, _, rfl,
          (next_three (by omega) (by omega) (by omega) (by omega) (by omega) _).trans ?_⟩
        rw [hchar _ (by omega)]
        rfl
      · refine ⟨_, _, rfl, (next_four (by omega) (by omega) (by omega) (by omega) (by omega)
          (by omega) _).trans ?_⟩
        rw [hchar _ (by omega)]
        rfl

/-- **No sequence is the start of another**: it is known from the text that it starts. -/
theorem utf8EncodeChar_append_inj {c d : Char} {rest more : List UInt8}
    (h : String.utf8EncodeChar c ++ rest = String.utf8EncodeChar d ++ more) :
    c = d ∧ rest = more := by
  obtain ⟨b, tail, hbytes, hnext⟩ := next_utf8EncodeChar c rest
  obtain ⟨b', tail', hbytes', hnext'⟩ := next_utf8EncodeChar d more
  have hsame : b = b' ∧ tail ++ rest = tail' ++ more := by
    rw [hbytes, hbytes'] at h
    exact List.cons.inj h
  rw [hsame.1, hsame.2, hnext'] at hnext
  obtain rfl : d = c := Option.some.inj (Prod.mk.inj hnext).1
  exact ⟨rfl, List.append_cancel_left h⟩

/-! ### Whole texts -/

theorem encode_cons (c : Char) (cs : List Char) :
    encode (c :: cs) = String.utf8EncodeChar c ++ encode cs := by
  simp [encode]

/-- Only the empty text is encoded as no bytes. -/
theorem encode_ne_nil {a : List Char} (h : a ≠ []) : encode a ≠ [] := by
  cases a with
  | nil => exact absurd rfl h
  | cons c cs =>
    obtain ⟨b, more, hbytes, -⟩ := next_utf8EncodeChar c []
    rw [encode_cons, hbytes]
    simp

theorem scan_encode (cs : List Char) : scan (encode cs) = cs.map some := by
  induction cs with
  | nil => exact scan_nil
  | cons c cs ih =>
    obtain ⟨b, more, hbytes, hnext⟩ := next_utf8EncodeChar c (encode cs)
    rw [encode_cons, hbytes, List.cons_append, scan_cons, hnext, List.drop_left, ih, List.map_cons]

/-- **An encoded text is read back.** -/
theorem decode?_encode (cs : List Char) : decode? (encode cs) = some cs := by
  rw [decode?, scan_encode]
  induction cs with
  | nil => rfl
  | cons c cs ih => rw [List.map_cons, List.mapM_cons, ih]; rfl

theorem encode_inj {a b : List Char} : encode a = encode b ↔ a = b := by
  refine ⟨fun h => ?_, fun h => h ▸ rfl⟩
  have hdecoded := decode?_encode a
  rw [h, decode?_encode] at hdecoded
  exact (Option.some.inj hdecoded).symm

theorem text?_encode (cs : List Char) : text? (encode cs) = some (String.ofList cs) := by
  rw [text?, decode?_encode, Option.map_some]

theorem length_encode_eq_zero_iff {cs : List Char} : (encode cs).length = 0 ↔ cs = [] := by
  rw [List.length_eq_zero_iff]
  cases cs with
  | nil => exact iff_of_true rfl rfl
  | cons c cs => exact iff_of_false (encode_ne_nil (List.cons_ne_nil c cs)) (List.cons_ne_nil c cs)

@[simp] theorem text?_bytes (s : String) : text? (bytes s) = some s := by
  rw [bytes, text?_encode, String.ofList_toList]

theorem textLossy_bytes (s : String) : textLossy (bytes s) = s := by
  have hread : (s.toList.map some).map (·.getD replacement) = s.toList := by
    rw [List.map_map]
    exact List.map_id _
  rw [textLossy, decodeLossy, bytes, scan_encode, hread, String.ofList_toList]

/-! ### Bytes of ASCII characters and of others -/

/-- An ASCII character is its byte. -/
theorem utf8EncodeChar_ascii {c : Char} (h : c.toNat < 0x80) :
    String.utf8EncodeChar c = [Ascii.byte c] := by
  have hle : c.val.toNat ≤ 127 := Nat.le_of_lt_succ h
  simp only [String.utf8EncodeChar, hle, if_true]
  rfl

theorem encode_ascii {cs : List Char} (h : ∀ c ∈ cs, c.toNat < 0x80) :
    encode cs = cs.map Ascii.byte := by
  induction cs with
  | nil => rfl
  | cons c cs ih =>
    rw [encode_cons, utf8EncodeChar_ascii (h c List.mem_cons_self),
      ih fun d hd => h d (List.mem_cons_of_mem c hd)]
    rfl

private theorem le_ofNat {n : Nat} (hlow : 128 ≤ n) (hhigh : n < 256) : 0x80 ≤ UInt8.ofNat n := by
  rw [UInt8.le_iff_toNat_le, toNat_ofNat hhigh]
  exact hlow

/-- The bytes of any other character are not ASCII. -/
theorem le_of_mem_utf8EncodeChar {c : Char} (h : 0x80 ≤ c.toNat) {b : UInt8}
    (hb : b ∈ String.utf8EncodeChar c) : 0x80 ≤ b := by
  have hlt : ¬c.val.toNat ≤ 127 := Nat.not_le_of_lt h
  simp only [String.utf8EncodeChar, hlt, if_false] at hb
  split at hb
  · simp only [List.mem_cons, List.not_mem_nil, or_false] at hb
    rcases hb with rfl | rfl <;> exact le_ofNat (by omega) (by omega)
  · split at hb
    · simp only [List.mem_cons, List.not_mem_nil, or_false] at hb
      rcases hb with rfl | rfl | rfl <;> exact le_ofNat (by omega) (by omega)
    · simp only [List.mem_cons, List.not_mem_nil, or_false] at hb
      rcases hb with rfl | rfl | rfl | rfl <;> exact le_ofNat (by omega) (by omega)

theorem byte_inj {c d : Char} (hc : c.toNat < 0x80) (hd : d.toNat < 0x80)
    (h : Ascii.byte c = Ascii.byte d) : c = d := by
  have hnat := congrArg UInt8.toNat h
  rw [Ascii.byte, Ascii.byte, UInt8.toNat_ofNat_of_lt' (Nat.lt_trans hc (by decide)),
    UInt8.toNat_ofNat_of_lt' (Nat.lt_trans hd (by decide))] at hnat
  exact Char.toNat_inj.mp hnat

/-- The byte of an ASCII character is in an encoded character only if it is that one. -/
theorem eq_of_byte_mem {c d : Char} (hc : c.toNat < 0x80)
    (h : Ascii.byte c ∈ String.utf8EncodeChar d) : c = d := by
  rcases Nat.lt_or_ge d.toNat 0x80 with hd | hd
  · rw [utf8EncodeChar_ascii hd, List.mem_singleton] at h
    exact byte_inj hc hd h
  · have hle := le_of_mem_utf8EncodeChar hd h
    rw [UInt8.le_iff_toNat_le, Ascii.byte,
      UInt8.toNat_ofNat_of_lt' (Nat.lt_trans hc (by decide))] at hle
    exact absurd hc (Nat.not_lt_of_le hle)

theorem byte_mem_encode_iff {c : Char} (hc : c.toNat < 0x80) {cs : List Char} :
    Ascii.byte c ∈ encode cs ↔ c ∈ cs := by
  rw [encode, List.mem_flatMap]
  constructor
  · rintro ⟨d, hd, hmem⟩
    obtain rfl := eq_of_byte_mem hc hmem
    exact hd
  · intro h
    exact ⟨c, h, by rw [utf8EncodeChar_ascii hc]; exact List.mem_singleton_self _⟩

/-- No sequence starts with a byte that continues one. -/
theorem next_of_continues {b : UInt8} (h : continues b = true) (rest : List UInt8) :
    (next b rest).1 = none := by
  simp only [continues, Bool.and_eq_true, decide_eq_true_eq, UInt8.le_iff_toNat_le,
    UInt8.reduceToNat] at h
  simp only [next, UInt8.lt_iff_toNat_lt, UInt8.le_iff_toNat_le, UInt8.reduceToNat,
    Bool.and_eq_true, decide_eq_true_eq]
  rw [if_neg (by omega), if_neg (by omega), if_neg (by omega), if_neg (by omega)]

/-- An encoded text does not start with a byte that continues a sequence. -/
theorem continues_head_encode {cs : List Char} {b : UInt8} (h : (encode cs).head? = some b) :
    continues b = false := by
  cases cs with
  | nil => cases h
  | cons c cs =>
    obtain ⟨first, more, hbytes, hnext⟩ := next_utf8EncodeChar c []
    rw [encode_cons, hbytes] at h
    obtain rfl : first = b := Option.some.inj h
    cases hcontinues : continues first with
    | false => rfl
    | true =>
      have hnone := next_of_continues hcontinues (more ++ [])
      rw [hnext] at hnone
      cases hnone

end PurgeGateway.Utf8
