import PurgeGateway.Proofs.Encoding
import PurgeGateway.Text.Base64

/-!
# Byte strings as numbers of six bits

Base64 writes a byte string as numbers below 64, one symbol for each. What the two alphabets and
the filling add to that can be taken off again, so two byte strings with one written form are one.

The reader of tokens goes over a text in two pieces, the full groups of four symbols and the last
group, with checks of its own for each. Whatever piece a symbol is in, a text is taken only if it is
made of symbols whose numbers are those of a byte string: the bits that the last symbol leaves over
are zero, no symbol stands alone, and nothing fills up the last group. So the reader takes exactly
what the writer writes.

## Main definitions

* `Base64.sextetsOf`: the numbers that write a byte string.
* `Base64.bytesOf?`: the byte string that numbers write.

## Main results

* `Base64.encodePadded_inj`: the padded form tells the byte string.
* `Base64.decodeToken_eq_ok_iff`: the texts that are read as a token.
-/

namespace PurgeGateway.Base64

variable {alphabet : Alphabet} {filling : List Char} {text bytes : List UInt8} {ns : List Nat}

/-! ### Numbers -/

/-- The numbers that write a byte string: four for three bytes, two or three for what is left. -/
def sextetsOf : List UInt8 → List Nat
  | [] => []
  | [a] => [a.toNat / 4, a.toNat % 4 * 16]
  | [a, b] => [a.toNat / 4, a.toNat % 4 * 16 + b.toNat / 16, b.toNat % 16 * 4]
  | a :: b :: c :: rest =>
    a.toNat / 4 :: (a.toNat % 4 * 16 + b.toNat / 16) :: (b.toNat % 16 * 4 + c.toNat / 64) ::
      c.toNat % 64 :: sextetsOf rest

/-- The byte string that numbers write, if they leave no bits over. -/
def bytesOf? : List Nat → Option (List UInt8)
  | [] => some []
  | [_] => none
  | [a, b] => if b % 16 = 0 then some [UInt8.ofNat ((a * 64 + b) / 16)] else none
  | [a, b, c] =>
    let n := ((a * 64 + b) * 64 + c) / 4
    if c % 4 = 0 then some [UInt8.ofNat (n / 256), UInt8.ofNat n] else none
  | a :: b :: c :: d :: rest =>
    let n := ((a * 64 + b) * 64 + c) * 64 + d
    (bytesOf? rest).map fun bytes =>
      UInt8.ofNat (n / 65536) :: UInt8.ofNat (n / 256) :: UInt8.ofNat n :: bytes

theorem lt_of_mem_sextetsOf (bytes : List UInt8) : ∀ n ∈ sextetsOf bytes, n < 64 := by
  induction bytes using sextetsOf.induct with
  | case1 => exact List.forall_mem_nil _
  | case2 a =>
    have ha := a.toNat_lt
    simp only [sextetsOf, List.forall_mem_cons]
    exact ⟨by omega, by omega, List.forall_mem_nil _⟩
  | case3 a b =>
    have ha := a.toNat_lt
    have hb := b.toNat_lt
    simp only [sextetsOf, List.forall_mem_cons]
    exact ⟨by omega, by omega, by omega, List.forall_mem_nil _⟩
  | case4 a b c rest ih =>
    have ha := a.toNat_lt
    have hb := b.toNat_lt
    have hc := c.toNat_lt
    simp only [sextetsOf, List.forall_mem_cons]
    exact ⟨by omega, by omega, by omega, by omega, ih⟩

theorem ofNat_eq_of_mod {n : Nat} {b : UInt8} (h : n % 256 = b.toNat) : UInt8.ofNat n = b :=
  UInt8.toNat_inj.mp (by rw [UInt8.toNat_ofNat', h])

/-- What is written is read back. -/
theorem bytesOf?_sextetsOf (bytes : List UInt8) : bytesOf? (sextetsOf bytes) = some bytes := by
  induction bytes using sextetsOf.induct with
  | case1 => rfl
  | case2 a =>
    have ha := a.toNat_lt
    rw [sextetsOf, bytesOf?, if_pos (by omega), ofNat_eq_of_mod (b := a) (by omega)]
  | case3 a b =>
    have ha := a.toNat_lt
    have hb := b.toNat_lt
    rw [sextetsOf, bytesOf?, if_pos (by omega), ofNat_eq_of_mod (b := a) (by omega),
      ofNat_eq_of_mod (b := b) (by omega)]
  | case4 a b c rest ih =>
    have ha := a.toNat_lt
    have hb := b.toNat_lt
    have hc := c.toNat_lt
    rw [sextetsOf, bytesOf?, ih]
    dsimp only [Option.map_some]
    rw [ofNat_eq_of_mod (b := a) (by omega), ofNat_eq_of_mod (b := b) (by omega),
      ofNat_eq_of_mod (b := c) (by omega)]

/-- What is read was written, if the numbers are in range. -/
theorem sextetsOf_of_bytesOf? (hns : ∀ n ∈ ns, n < 64) (h : bytesOf? ns = some bytes) :
    sextetsOf bytes = ns := by
  induction ns using bytesOf?.induct generalizing bytes with
  | case1 => cases h; rfl
  | case2 a => cases h
  | case3 a b hzero =>
    simp only [List.forall_mem_cons] at hns
    rw [bytesOf?, if_pos hzero] at h
    cases h
    simp only [sextetsOf, UInt8.toNat_ofNat', List.cons.injEq, and_true]
    omega
  | case5 a b c hzero =>
    simp only [List.forall_mem_cons] at hns
    rw [bytesOf?, if_pos hzero] at h
    cases h
    simp only [sextetsOf, UInt8.toNat_ofNat', List.cons.injEq, and_true]
    omega
  | case4 a b hleft =>
    rw [bytesOf?, if_neg hleft] at h
    cases h
  | case6 a b c hleft =>
    rw [bytesOf?, if_neg hleft] at h
    cases h
  | case7 a b c d rest ih =>
    simp only [List.forall_mem_cons] at hns
    obtain ⟨ha, hb, hc, hd, hrest⟩ := hns
    rw [bytesOf?] at h
    obtain ⟨more, hmore, rfl⟩ := Option.map_eq_some_iff.mp h
    rw [sextetsOf, ih hrest hmore]
    simp only [UInt8.toNat_ofNat', List.cons.injEq, and_true]
    omega

theorem bytesOf?_eq_some_iff (hns : ∀ n ∈ ns, n < 64) :
    bytesOf? ns = some bytes ↔ ns = sextetsOf bytes :=
  ⟨fun h => (sextetsOf_of_bytesOf? hns h).symm, fun h => h ▸ bytesOf?_sextetsOf bytes⟩

/-! ### Symbols -/

/-- A byte string is written by the symbols of its numbers, with the filling behind them. -/
theorem encodeWith_eq (alphabet : Alphabet) (filling : List Char) (bytes : List UInt8) :
    ∃ gaps, encodeWith alphabet filling bytes
      = (sextetsOf bytes).map (symbol alphabet) ++ (List.replicate gaps filling).flatten := by
  induction bytes using sextetsOf.induct with
  | case1 => exact ⟨0, rfl⟩
  | case2 a =>
    refine ⟨2, ?_⟩
    simp only [encodeWith, sextetsOf, List.map_cons, List.map_nil, List.replicate,
      List.flatten_cons, List.flatten_nil, List.append_nil, List.append_assoc]
    rw [show a.toNat * 16 / 64 = a.toNat / 4 by omega,
      show a.toNat * 16 % 64 = a.toNat % 4 * 16 by omega]
  | case3 a b =>
    refine ⟨1, ?_⟩
    simp only [encodeWith, sextetsOf, List.map_cons, List.map_nil, List.replicate,
      List.flatten_cons, List.flatten_nil, List.append_nil]
    have hb := b.toNat_lt
    rw [show (a.toNat * 256 + b.toNat) * 4 / 4096 = a.toNat / 4 by omega,
      show (a.toNat * 256 + b.toNat) * 4 / 64 % 64 = a.toNat % 4 * 16 + b.toNat / 16 by omega,
      show (a.toNat * 256 + b.toNat) * 4 % 64 = b.toNat % 16 * 4 by omega]
  | case4 a b c rest ih =>
    obtain ⟨gaps, hrest⟩ := ih
    have hb := b.toNat_lt
    have hc := c.toNat_lt
    refine ⟨gaps, ?_⟩
    rw [encodeWith, hrest, sextetsOf,
      show ((a.toNat * 256 + b.toNat) * 256 + c.toNat) / 262144 = a.toNat / 4 by omega,
      show ((a.toNat * 256 + b.toNat) * 256 + c.toNat) / 4096 % 64
        = a.toNat % 4 * 16 + b.toNat / 16 by omega,
      show ((a.toNat * 256 + b.toNat) * 256 + c.toNat) / 64 % 64
        = b.toNat % 16 * 4 + c.toNat / 64 by omega,
      show ((a.toNat * 256 + b.toNat) * 256 + c.toNat) % 64 = c.toNat % 64 by omega]
    rfl

theorem encodeToken_eq (bytes : List UInt8) :
    encodeToken bytes = (sextetsOf bytes).map (symbol urlSafe) := by
  obtain ⟨gaps, h⟩ := encodeWith_eq urlSafe [] bytes
  rw [encodeToken, h]
  simp

/-- The padded form is read back: the filling is no symbol, and each symbol stands for one
number. -/
theorem bytesOf?_encodePadded (bytes : List UInt8) :
    bytesOf? (((encodePadded bytes).toList.filter (· != '=')).map (standard.idxOf ·))
      = some bytes := by
  have hsymbols : ∀ n < 64, symbol standard n ≠ '=' ∧ standard.idxOf (symbol standard n) = n := by
    decide +kernel
  obtain ⟨gaps, hform⟩ := encodeWith_eq standard ['='] bytes
  have hgaps : (List.replicate gaps ['=']).flatten.filter (· != '=') = [] := by simp
  have hkept : (encodePadded bytes).toList.filter (· != '=')
      = (sextetsOf bytes).map (symbol standard) := by
    rw [encodePadded, String.toList_ofList, hform, List.filter_append, hgaps, List.append_nil,
      List.filter_eq_self]
    intro c hc
    obtain ⟨n, hn, rfl⟩ := List.mem_map.mp hc
    simpa using (hsymbols n (lt_of_mem_sextetsOf bytes n hn)).1
  have hnumbers : (sextetsOf bytes).map (fun n => standard.idxOf (symbol standard n))
      = sextetsOf bytes := by
    refine (List.map_congr_left fun n hn => ?_).trans (List.map_id _)
    exact (hsymbols n (lt_of_mem_sextetsOf bytes n hn)).2
  rw [hkept, List.map_map]
  exact (congrArg bytesOf? hnumbers).trans (bytesOf?_sextetsOf bytes)

/-- **The padded form tells the byte string.** -/
theorem encodePadded_inj {a b : List UInt8} : encodePadded a = encodePadded b ↔ a = b := by
  refine ⟨fun h => ?_, fun h => h ▸ rfl⟩
  have hback := bytesOf?_encodePadded a
  rw [h, bytesOf?_encodePadded] at hback
  exact (Option.some.inj hback).symm

/-! ### Reading symbols -/

/-- The byte of the symbol that stands for a number in a token. -/
def symbolByte (n : Nat) : UInt8 :=
  Ascii.byte (symbol urlSafe n)

theorem encode_encodeToken (bytes : List UInt8) :
    Utf8.encode (encodeToken bytes) = (sextetsOf bytes).map symbolByte := by
  have hascii : ∀ n < 64, (symbol urlSafe n).toNat < 0x80 := by decide +kernel
  rw [encodeToken_eq, Utf8.encode_ascii, List.map_map]
  · rfl
  · intro c hc
    obtain ⟨n, hn, rfl⟩ := List.mem_map.mp hc
    exact hascii n (lt_of_mem_sextetsOf bytes n hn)

theorem sextet?_eq_some_iff {b : UInt8} {n : Nat} :
    sextet? b = some n ↔ b = symbolByte n ∧ n < 64 := by
  have hread : ∀ k < 256, ∀ n ∈ sextet? (UInt8.ofNat k), UInt8.ofNat k = symbolByte n ∧ n < 64 := by
    decide +kernel
  have hwritten : ∀ n < 64, sextet? (symbolByte n) = some n := by decide +kernel
  constructor
  · intro h
    have hb := hread b.toNat b.toNat_lt
    rw [UInt8.ofNat_toNat] at hb
    exact hb n h
  · rintro ⟨rfl, hn⟩
    exact hwritten n hn

/-- The text consists of symbols, whose numbers are given. -/
structure Spells (text : List UInt8) (ns : List Nat) : Prop where
  symbols : text = ns.map symbolByte
  bound : ∀ n ∈ ns, n < 64

theorem spells_cons_iff {b : UInt8} {rest : List UInt8} : Spells (b :: rest) ns ↔
    ∃ n more, ns = n :: more ∧ sextet? b = some n ∧ Spells rest more := by
  constructor
  · rintro ⟨hsymbols, hbound⟩
    cases ns with
    | nil => cases hsymbols
    | cons n more =>
      obtain ⟨hn, hmore⟩ := List.forall_mem_cons.mp hbound
      obtain ⟨hb, hrest⟩ := List.cons.inj hsymbols
      exact ⟨n, more, rfl, sextet?_eq_some_iff.mpr ⟨hb, hn⟩, hrest, hmore⟩
  · rintro ⟨n, more, rfl, hn, hsymbols, hbound⟩
    obtain ⟨rfl, hlt⟩ := sextet?_eq_some_iff.mp hn
    exact ⟨by rw [hsymbols]; rfl, List.forall_mem_cons.mpr ⟨hlt, hbound⟩⟩

theorem spells_nil_iff : Spells [] ns ↔ ns = [] :=
  ⟨fun h => List.map_eq_nil_iff.mp h.symbols.symm,
    by rintro rfl; exact ⟨rfl, List.forall_mem_nil _⟩⟩

theorem Spells.length_eq (h : Spells text ns) : ns.length = text.length := by
  rw [h.symbols, List.length_map]

theorem Spells.isSome_of_mem (h : Spells text ns) {b : UInt8} (hb : b ∈ text) :
    (sextet? b).isSome := by
  rw [h.symbols] at hb
  obtain ⟨n, hn, rfl⟩ := List.mem_map.mp hb
  rw [sextet?_eq_some_iff.mpr ⟨rfl, h.bound n hn⟩]
  rfl

theorem spells_append_iff {front back : List UInt8} : Spells (front ++ back) ns ↔
    ∃ first last, ns = first ++ last ∧ Spells front first ∧ Spells back last := by
  induction front generalizing ns with
  | nil =>
    simp only [List.nil_append, spells_nil_iff]
    exact ⟨fun h => ⟨[], ns, rfl, rfl, h⟩, by rintro ⟨_, last, rfl, rfl, h⟩; exact h⟩
  | cons b front ih =>
    rw [List.cons_append, spells_cons_iff]
    constructor
    · rintro ⟨n, more, rfl, hn, hmore⟩
      obtain ⟨first, last, rfl, hfirst, hlast⟩ := ih.mp hmore
      exact ⟨n :: first, last, rfl, spells_cons_iff.mpr ⟨n, first, rfl, hn, hfirst⟩, hlast⟩
    · rintro ⟨first, last, rfl, hfirst, hlast⟩
      obtain ⟨n, more, rfl, hn, hmore⟩ := spells_cons_iff.mp hfirst
      exact ⟨n, more ++ last, rfl, hn, ih.mpr ⟨more, last, rfl, hmore, hlast⟩⟩

theorem sextets_eq_ok_iff {offset : Nat} : sextets offset text = .ok ns ↔ Spells text ns := by
  induction text generalizing offset ns with
  | nil => rw [sextets, spells_nil_iff, Except.ok.injEq, eq_comm]
  | cons b rest ih =>
    rw [sextets, spells_cons_iff]
    cases hb : sextet? b with
    | none => simp
    | some n =>
      cases hrest : sextets (offset + 1) rest with
      | error e =>
        have hnone : ∀ more, ¬Spells rest more := fun more h => by
          rw [← @ih _ (offset + 1), hrest] at h
          cases h
        simp [Except.map, hnone]
      | ok more =>
        have hmore := ih.mp hrest
        simp only [Except.map, Except.ok.injEq, Option.some.injEq]
        constructor
        · rintro rfl
          exact ⟨n, more, rfl, rfl, hmore⟩
        · rintro ⟨_, other, rfl, rfl, hother⟩
          rw [← @ih _ (offset + 1), hrest] at hother
          rw [Except.ok.inj hother]

/-! ### The last group -/

/-- A group that is being filled up stays so. -/
theorem equals_of_lastGroup {offset first : Nat} {sofar group : List Nat} {equals : Option Nat}
    (h : lastGroup offset sofar (some first) text = .ok (group, equals)) : equals = some first := by
  induction text generalizing offset with
  | nil => cases h; rfl
  | cons b rest ih =>
    rw [lastGroup] at h
    split at h
    · exact ih h
    · cases h

theorem lastGroup_eq_ok_iff {offset : Nat} {sofar group : List Nat} :
    lastGroup offset sofar none text = .ok (group, none) ↔
      ∃ ns, Spells text ns ∧ group = sofar ++ ns := by
  induction text generalizing offset sofar with
  | nil =>
    simp only [lastGroup, Except.ok.injEq, Prod.mk.injEq, and_true, spells_nil_iff,
      exists_eq_left, List.append_nil]
    exact eq_comm
  | cons b rest ih =>
    rw [lastGroup]
    simp only [spells_cons_iff]
    by_cases hequals : b = equalsSign
    · have hnone : sextet? b = none := by rw [hequals]; decide
      rw [if_pos hequals, hnone]
      constructor
      · intro h
        split at h
        · cases h
        · cases equals_of_lastGroup h
      · rintro ⟨_, ⟨_, _, _, h, _⟩, _⟩
        cases h
    · rw [if_neg hequals]
      cases hb : sextet? b with
      | none =>
        constructor
        · intro h
          cases h
        · rintro ⟨_, ⟨_, _, _, h, _⟩, _⟩
          cases h
      | some n =>
        dsimp only
        rw [ih]
        constructor
        · rintro ⟨more, hmore, rfl⟩
          exact ⟨n :: more, ⟨n, more, rfl, rfl, hmore⟩, by simp⟩
        · rintro ⟨_, ⟨_, more, rfl, hn, hmore⟩, rfl⟩
          obtain rfl := Option.some.inj hn
          exact ⟨more, hmore, by simp⟩

/-- A group of at most four numbers is read by itself. -/
theorem bytesOf?_group {group : List Nat} (hpos : 0 < group.length) (hle : group.length ≤ 4) :
    bytesOf? group = if 2 ≤ group.length ∧ (lastBytes group).2 = 0 then some (lastBytes group).1
      else none := by
  match group with
  | [a] => rfl
  | [a, b] => simp [bytesOf?, lastBytes]
  | [a, b, c] => simp [bytesOf?, lastBytes]
  | [a, b, c, d] => simp [bytesOf?, lastBytes, fullGroups]
  | a :: b :: c :: d :: e :: rest =>
    simp only [List.length_cons] at hle
    omega

/-- Full groups are read ahead of the others. -/
theorem bytesOf?_append {front : List Nat} (h : 4 ∣ front.length) (group : List Nat) :
    bytesOf? (front ++ group) = (bytesOf? group).map (fullGroups front ++ ·) := by
  induction front using fullGroups.induct with
  | case1 a b c d rest ih =>
    have hrest : 4 ∣ rest.length := by
      simp only [List.length_cons] at h
      omega
    simp only [List.cons_append, bytesOf?, fullGroups, ih hrest, Option.map_map]
    rfl
  | case2 front hfront =>
    match front with
    | [] => simp [fullGroups]
    | [a] | [a, b] | [a, b, c] => simp at h
    | a :: b :: c :: d :: rest => exact absurd rfl (hfront a b c d rest)

/-- Numbers in two pieces, full groups and a last group, are read piece by piece. -/
theorem bytesOf?_pieces {front group : List Nat} (hfront : 4 ∣ front.length)
    (hpos : 0 < group.length) (hle : group.length ≤ 4) :
    bytesOf? (front ++ group) = some bytes ↔ 2 ≤ group.length ∧ (lastBytes group).2 = 0 ∧
      fullGroups front ++ (lastBytes group).1 = bytes := by
  rw [bytesOf?_append hfront, bytesOf?_group hpos hle]
  by_cases h : 2 ≤ group.length ∧ (lastBytes group).2 = 0
  · rw [if_pos h]
    simp [h.1, h.2]
  · rw [if_neg h]
    simp only [Option.map_none, reduceCtorEq, false_iff]
    rintro ⟨hlength, hzero, -⟩
    exact h ⟨hlength, hzero⟩

/-! ### Reading a token -/

/-- Where the last group of a text starts. -/
def lastStart (text : List UInt8) : Nat :=
  (text.length - 1) / 4 * 4

/-- The text is refused before it is read: one symbol too many, which is none. -/
def EndsBadly (text : List UInt8) (last : UInt8) : Prop :=
  text.length % 4 = 1 ∧ (sextet? last).isNone ∧ last ≠ equalsSign

theorem decodeToken_of_endsBadly {last : UInt8} (hlast : text.getLast? = some last)
    (h : EndsBadly text last) :
    decodeToken text = .error (.invalidSymbol last (text.length - 1)) := by
  rw [decodeToken, hlast]
  exact if_pos h

theorem decodeToken_of_not_endsBadly {last : UInt8} (hlast : text.getLast? = some last)
    (h : ¬EndsBadly text last) :
    decodeToken text = .ok bytes ↔ ∃ front group,
      sextets 0 (text.take (lastStart text)) = .ok front ∧
      lastGroup (lastStart text) [] none (text.drop (lastStart text)) = .ok (group, none) ∧
      2 ≤ group.length ∧ (lastBytes group).2 = 0 ∧
      fullGroups front ++ (lastBytes group).1 = bytes := by
  rw [EndsBadly] at h
  rw [decodeToken, hlast]
  dsimp only
  rw [if_neg h, ← lastStart]
  cases sextets 0 (text.take (lastStart text)) with
  | error e => simp [bind, Except.bind]
  | ok front =>
    cases lastGroup (lastStart text) [] none (text.drop (lastStart text)) with
    | error e => simp [bind, Except.bind]
    | ok result =>
      obtain ⟨group, equals⟩ := result
      simp only [bind, Except.bind, Except.ok.injEq, Prod.mk.injEq, exists_and_left,
        exists_eq_left']
      by_cases hlength : group.length < 2
      · have hshort : ¬2 ≤ group.length := by omega
        simp [hlength, hshort]
      · cases equals with
        | some first => simp [hlength]
        | none =>
          have hlong : 2 ≤ group.length := by omega
          by_cases hzero : (lastBytes group).2 = 0
          · simp [hlength, hlong, hzero]
          · simp [hlength, hzero]

/-- The numbers of both pieces of a text, read together. -/
theorem bytesOf?_of_spells {front group : List Nat} (hpos : 0 < text.length)
    (hfront : Spells (text.take (lastStart text)) front)
    (hgroup : Spells (text.drop (lastStart text)) group) :
    bytesOf? (front ++ group) = some bytes ↔ 2 ≤ group.length ∧ (lastBytes group).2 = 0 ∧
      fullGroups front ++ (lastBytes group).1 = bytes := by
  have hfull : 4 ∣ lastStart text := Nat.dvd_mul_left 4 _
  have hstart : lastStart text < text.length ∧ text.length ≤ lastStart text + 4 := by
    rw [lastStart]
    omega
  have hfrontLength : front.length = lastStart text := by
    rw [hfront.length_eq, List.length_take, Nat.min_eq_left (by omega)]
  have hgroupLength : group.length = text.length - lastStart text := by
    rw [hgroup.length_eq, List.length_drop]
  exact bytesOf?_pieces (hfrontLength ▸ hfull) (by omega) (by omega)

/-- A text is read if it consists of symbols whose numbers write a byte string. -/
theorem decodeToken_eq_ok_iff_spells :
    decodeToken text = .ok bytes ↔ ∃ ns, Spells text ns ∧ bytesOf? ns = some bytes := by
  cases hlast : text.getLast? with
  | none =>
    obtain rfl := List.getLast?_eq_none_iff.mp hlast
    simp only [spells_nil_iff, exists_eq_left]
    simp [decodeToken, bytesOf?]
  | some last =>
    have hmem : last ∈ text := List.mem_of_getLast? hlast
    by_cases hbad : EndsBadly text last
    · rw [decodeToken_of_endsBadly hlast hbad]
      constructor
      · intro h
        cases h
      · rintro ⟨ns, hspells, -⟩
        have hsymbol := hspells.isSome_of_mem hmem
        rw [Option.isNone_iff_eq_none.mp hbad.2.1] at hsymbol
        cases hsymbol
    · -- Each piece is read by itself, and its numbers are those of the whole text in their place.
      have hpos : 0 < text.length := List.length_pos_of_mem hmem
      have hwhole := List.take_append_drop (lastStart text) text
      rw [decodeToken_of_not_endsBadly hlast hbad]
      constructor
      · rintro ⟨front, group, hfront, hgroup, hread⟩
        rw [sextets_eq_ok_iff] at hfront
        rw [lastGroup_eq_ok_iff] at hgroup
        obtain ⟨_, hgroup, rfl⟩ := hgroup
        refine ⟨front ++ group, ?_, (bytesOf?_of_spells hpos hfront hgroup).mpr hread⟩
        rw [← hwhole]
        exact spells_append_iff.mpr ⟨front, group, rfl, hfront, hgroup⟩
      · rintro ⟨ns, hspells, hbytes⟩
        rw [← hwhole] at hspells
        obtain ⟨front, group, rfl, hfront, hgroup⟩ := spells_append_iff.mp hspells
        exact ⟨front, group, sextets_eq_ok_iff.mpr hfront,
          lastGroup_eq_ok_iff.mpr ⟨group, hgroup, rfl⟩,
          (bytesOf?_of_spells hpos hfront hgroup).mp hbytes⟩

/-- **The texts that are read as a token** are those that the writer writes. -/
theorem decodeToken_eq_ok_iff :
    decodeToken text = .ok bytes ↔ text = Utf8.encode (encodeToken bytes) := by
  rw [decodeToken_eq_ok_iff_spells, encode_encodeToken]
  constructor
  · rintro ⟨ns, hspells, hbytes⟩
    rw [hspells.symbols, (bytesOf?_eq_some_iff hspells.bound).mp hbytes]
  · intro h
    exact ⟨_, ⟨h, lt_of_mem_sextetsOf bytes⟩, bytesOf?_sextetsOf bytes⟩

end PurgeGateway.Base64
